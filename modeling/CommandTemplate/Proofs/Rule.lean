import CommandTemplate.Proofs.Text.Pieces
import CommandTemplate.Proofs.Text.Sigma
import CommandTemplate.Rule

/-!
Rules that respect case, and those that do not.

A text with `cs:` in front of it asks for the text as it is.  The text alone, or with `start:` in
front of it, asks for its lower case in the lower case of the message.  That is not always less:
lower case gives a sigma at the end of the text the final form, though the message may go on with a
letter there.  Ignoring case matches all that respecting case does for those texts only that are
closed (`ignoresCase_iff`), and so for all without a sigma.
-/

namespace CommandTemplate.Rule

open Text (IsClosedBehind IsClosedInFront)

/-- The fronts that tell the kind of a rule. -/
def fronts : List String := ["re:", "start:", "cs:", "w:"]

/-- A text that is a rule as it is. -/
structure IsPlain (text : String) : Prop where
  ne_empty : text ≠ ""
  trim_eq : Text.trim text = text
  not_startsWith : ∀ front ∈ fronts, Text.startsWith front text = false

variable {text : String}

/-- The rule for a text that its front does not make blank. -/
theorem ofText?_append (h : IsPlain text) (front : String) (hfront : front ∈ "" :: fronts) :
    ofText? (front ++ text) = some (ofTrimmed (front ++ text)) := by
  have hblank : ∀ f ∈ "" :: fronts, f.toList.head?.all (!Text.isBlank ·) = true := by decide
  have hfirst : ∀ c ∈ front.toList.head?, Text.isBlank c = false := fun c hc => by
    simpa using (Option.all_eq_true _ _).1 (hblank front hfront) c hc
  have hne : front ++ text ≠ "" := fun hempty =>
    h.ne_empty (String.append_eq_empty_iff.1 hempty).2
  rw [ofText?, Text.trim_append hfirst h.trim_eq h.ne_empty]
  exact if_neg hne

/-- A plain text is a rule that looks for it anywhere. -/
theorem ofText?_plain (h : IsPlain text) : ofText? text = some (.anywhere text) := by
  have hrule := ofText?_append h "" (by decide)
  rw [String.empty_append] at hrule
  have hnone (front : String) (hfront : front ∈ fronts) : Text.stripFront? front text = none :=
    Text.stripFront?_eq_none (h.not_startsWith front hfront)
  rw [hrule, ofTrimmed, hnone "re:" (by decide), hnone "start:" (by decide),
    hnone "cs:" (by decide), hnone "w:" (by decide)]

/-- Such a rule holds of messages that contain the text in any case. -/
theorem holdsFor_plain_iff (h : IsPlain text) {message : String} :
    holdsFor message text = true ↔
      Text.lowerChars text.toList <:+: Text.lowerChars message.toList := by
  rw [holdsFor, ofText?_plain h]
  show Text.contains _ _ = true ↔ _
  rw [Text.contains_iff, Text.lower, Text.lower, String.toList_ofList, String.toList_ofList]

/-- With `start:` in front it holds of those that start with the text in any case. -/
theorem holdsFor_start_iff (h : IsPlain text) {message : String} :
    holdsFor message ("start:" ++ text) = true ↔
      Text.lowerChars text.toList <+: Text.lowerChars message.toList := by
  have hrule : ofTrimmed ("start:" ++ text) = .starts text := by
    have hother : Text.stripFront? "re:" ("start:" ++ text) = none := by
      rw [Text.stripFront?, String.toList_append]
      rfl
    rw [ofTrimmed, hother, Text.stripFront?_append]
  rw [holdsFor, ofText?_append h _ (by decide), hrule]
  show Text.startsWith _ _ = true ↔ _
  rw [Text.startsWith_iff, Text.lower, Text.lower, String.toList_ofList, String.toList_ofList]

/-- With `cs:` in front it holds of those that contain the text as it is. -/
theorem holdsFor_exact_iff (h : IsPlain text) {message : String} :
    holdsFor message ("cs:" ++ text) = true ↔ text.toList <:+: message.toList := by
  have hrule : ofTrimmed ("cs:" ++ text) = .exact text := by
    have hother : Text.stripFront? "re:" ("cs:" ++ text) = none ∧
        Text.stripFront? "start:" ("cs:" ++ text) = none := by
      rw [Text.stripFront?, Text.stripFront?, String.toList_append]
      exact ⟨rfl, rfl⟩
    rw [ofTrimmed, hother.1, hother.2, Text.stripFront?_append]
  rw [holdsFor, ofText?_append h _ (by decide), hrule]
  exact Text.contains_iff

/-- Ignoring case matches all that respecting case does if and only if the text is closed: on both
sides if it may stand anywhere, and behind if it stands at the start. -/
theorem ignoresCase_iff (h : IsPlain text) :
    ((∀ message, holdsFor message ("cs:" ++ text) = true → holdsFor message text = true) ↔
      IsClosedInFront text.toList ∧ IsClosedBehind text.toList) ∧
    ((∀ message, Text.startsWith text message = true →
        holdsFor message ("start:" ++ text) = true ∧ holdsFor message text = true) ↔
      IsClosedBehind text.toList) := by
  constructor
  · rw [Text.isClosed_iff]
    simp only [holdsFor_exact_iff h, holdsFor_plain_iff h]
    refine ⟨fun hall t ht => ?_, fun hall message => hall message.toList⟩
    simpa using hall (String.ofList t) (by simpa using ht)
  · rw [Text.isClosedBehind_iff]
    simp only [Text.startsWith_iff, holdsFor_start_iff h, holdsFor_plain_iff h]
    refine ⟨fun hall t ht => ?_, fun hall message hmessage => ?_⟩
    · simpa using (hall (String.ofList t) (by simpa using ht)).1
    · have hstart := hall message.toList hmessage
      exact ⟨hstart, hstart.isInfix⟩

/-- In a text without sigmas case is ignored. -/
theorem ignoresCase_hello :
    IsPlain "Hello" ∧ ∀ message,
      (holdsFor message "cs:Hello" = true → holdsFor message "Hello" = true) ∧
      (Text.startsWith "Hello" message = true →
        holdsFor message "start:Hello" = true ∧ holdsFor message "Hello" = true) := by
  have hplain : IsPlain "Hello" := ⟨by decide, by decide, by decide⟩
  have hfront := Text.isClosedInFront_of_not_mem (s := "Hello".toList) (by decide)
  have hbehind := Text.isClosedBehind_of_not_mem (s := "Hello".toList) (by decide)
  obtain ⟨hanywhere, hstart⟩ := ignoresCase_iff hplain
  exact ⟨hplain, fun message => ⟨hanywhere.2 ⟨hfront, hbehind⟩ message, hstart.2 hbehind message⟩⟩

/-- A final sigma is not the start of a message that goes on, and another one is not in a message
that ends there. -/
theorem ignoresCase_sigma :
    (IsPlain "ΑΣ" ∧ Text.startsWith "ΑΣ" "ΑΣΑ" = true ∧ holdsFor "ΑΣΑ" "start:ΑΣ" = false) ∧
      (IsPlain "Σ" ∧ holdsFor "aΣ" "cs:Σ" = true ∧ holdsFor "aΣ" "Σ" = false) := by
  -- a sigma is final behind a letter, unless another letter follows
  have hend (c : Char) (hc : c ∈ Text.sampleLetters) : Text.smallSigma [c] [] = 'ς' := by
    simp [Text.smallSigma, Text.startsCased_cons hc, Text.startsCased_of_isPassedOver (s := []) rfl]
  have hbetween : Text.smallSigma ['Α'] ['Α'] = 'σ' := by
    simp [Text.smallSigma, Text.startsCased_cons (c := 'Α') (by decide)]
  have halone : Text.smallSigma [] [] = 'σ' := by
    simp [Text.smallSigma, Text.startsCased_of_isPassedOver (s := []) rfl]
  have hstart : IsPlain "ΑΣ" := ⟨by decide, by decide, by decide⟩
  have hsigma : IsPlain "Σ" := ⟨by decide, by decide, by decide⟩
  have hfront : Text.lowerChars "ΑΣ".toList = Text.lowerChar 'Α' ++ ['ς'] := by
    simp [Text.lowerChars, Text.lowerAfter, hend 'Α' (by decide)]
  have hmessage : Text.lowerChars "ΑΣΑ".toList =
      Text.lowerChar 'Α' ++ 'σ' :: Text.lowerChar 'Α' := by
    simp [Text.lowerChars, Text.lowerAfter, hbetween]
  have hpart : Text.lowerChars "Σ".toList = ['σ'] := by
    simp [Text.lowerChars, Text.lowerAfter, halone]
  have hword : Text.lowerChars "aΣ".toList = ['a', 'ς'] := by
    simp [Text.lowerChars, Text.lowerAfter, hend 'a' (by decide), Text.lowerChar]
  refine ⟨⟨hstart, by decide, ?_⟩, hsigma, (holdsFor_exact_iff hsigma).2 (by decide), ?_⟩
  · rw [← Bool.not_eq_true]
    intro hholds
    have hprefix := (holdsFor_start_iff hstart).1 hholds
    rw [hfront, hmessage, List.prefix_append_right_inj, List.cons_prefix_cons] at hprefix
    exact absurd hprefix.1 (by decide)
  · rw [← Bool.not_eq_true, holdsFor_plain_iff hsigma, hpart, hword]
    intro hoccurs
    exact absurd (hoccurs.subset (List.mem_singleton_self 'σ')) (by decide)

end CommandTemplate.Rule
