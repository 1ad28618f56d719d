import CommandTemplate.Proofs.Text.Casing
import CommandTemplate.Proofs.Text.CodeSet
import Mathlib.Logic.Basic
import Mathlib.Tactic.ByContra

/-!
Lower case of a text in its surroundings.

The only thing in which lower case looks at more than one character is the form of a sigma, which is
a final one at the end of a word.  `lowerBetween before s after` is what `s` becomes between two
other texts.  A text becomes the same everywhere if it is closed on both sides: `IsClosedInFront`
and `IsClosedBehind` ask for a character at which the search for letters beside a sigma ends before
it leaves the text.  They ask for no more than is needed (`isClosed_iff`, `isClosedBehind_iff`),
since a letter beside a text that is not closed there takes away a final sigma or adds one
(`count_lowerChars_concat`, `count_lowerChars_cons`).
-/

namespace CommandTemplate.Text

open CodeSet

/-! ### Letters -/

/-- Letters that stand beside a sigma in what follows. -/
def sampleLetters : List Char := ['a', 'Α', 'Σ']

-- the characters of a table are listed one by one when its text is compared with a list
set_option maxRecDepth 20000 in
/-- The search for a letter does not pass over these. -/
theorem not_caseIgnorable_of_mem {c : Char} (h : c ∈ sampleLetters) :
    caseIgnorableChars.has c = false := by
  have hword (text : List Char)
      (htext : (sampleLetters.all fun c => !inAny c.toNat (wordRanges text)) = true) :
      (ofText (String.ofList text)).covers c.toNat = false := by
    rw [covers_ofText]
    simpa using List.all_eq_true.1 htext c h
  have hnonspacing : Category.nonspacingMark.covers c.toNat = false := hword _ (by decide +kernel)
  have henclosing : Category.enclosingMark.covers c.toNat = false := hword _ (by decide +kernel)
  have hformat : Category.format.covers c.toNat = false := hword _ (by decide +kernel)
  have hletter : Category.modifierLetter.covers c.toNat = false := hword _ (by decide +kernel)
  have hsymbol : Category.modifierSymbol.covers c.toNat = false := hword _ (by decide +kernel)
  rw [caseIgnorableChars, has_union, covers_union, Property.caseIgnorable]
  simp only [List.foldl_cons, List.foldl_nil, covers_union, hnonspacing, henclosing, hformat,
    hletter, hsymbol, Bool.false_or]
  rw [hword _ (by decide +kernel), hword _ (by decide +kernel), Bool.false_or]

set_option maxRecDepth 20000 in
/-- These letters are capital or small ones. -/
theorem covers_letter_of_mem {c : Char} (h : c ∈ sampleLetters) :
    Category.uppercaseLetter.covers c.toNat = true ∨
      Category.lowercaseLetter.covers c.toNat = true := by
  have hword (text : List Char) (d : Char) (htext : inAny d.toNat (wordRanges text) = true) :
      (ofText (String.ofList text)).covers d.toNat = true := by
    rwa [covers_ofText]
  simp only [sampleLetters, List.mem_cons, List.not_mem_nil, or_false] at h
  rcases h with rfl | rfl | rfl
  · exact .inr (hword _ 'a' (by decide +kernel))
  · exact .inl (hword _ 'Α' (by decide +kernel))
  · exact .inl (hword _ 'Σ' (by decide +kernel))

set_option maxRecDepth 20000 in
/-- The only letter that is taken out of the cased ones. -/
theorem ranges_caseless : (ofText "295").ranges = [(0x295, 0x295)] := by
  decide +kernel

/-- The search for a letter ends at these. -/
theorem cased_of_mem {c : Char} (h : c ∈ sampleLetters) : casedChars.has c = true := by
  have hother : ∀ c ∈ sampleLetters, c.toNat ≠ 0x295 := by simp [sampleLetters]
  have hcased : Property.cased.covers c.toNat = true := by
    simp only [Property.cased, Property.uppercase, Property.lowercase, covers_union]
    rcases covers_letter_of_mem h with hupper | hlower
    · simp [hupper]
    · simp [hlower]
  rw [casedChars, has_diff, covers_diff (by decide) ranges_caseless (hother c h), covers_union,
    hcased, Bool.true_or]

/-! ### The search for a letter -/

/-- Is there nothing in a text but what is passed over in the search for a letter? -/
def isPassedOver (s : List Char) : Bool :=
  s.all caseIgnorableChars.has

theorem isPassedOver_reverse (s : List Char) : isPassedOver s.reverse = isPassedOver s :=
  List.all_reverse

theorem startsCased_cons_of_pos {c : Char} (h : caseIgnorableChars.has c = true) (s : List Char) :
    startsCased (c :: s) = startsCased s := by
  rw [startsCased, startsCased, List.dropWhile_cons_of_pos h]

theorem startsCased_cons_of_neg {c : Char} (h : caseIgnorableChars.has c = false)
    (s : List Char) : startsCased (c :: s) = casedChars.has c := by
  rw [startsCased, List.dropWhile_cons_of_neg (by simp [h])]

/-- The search goes on behind a text only if it passes over all of it. -/
theorem startsCased_append (s t : List Char) :
    startsCased (s ++ t) = if isPassedOver s then startsCased t else startsCased s := by
  induction s with
  | nil => rw [List.nil_append, isPassedOver, List.all_nil, if_pos rfl]
  | cons c s ih =>
    rw [List.cons_append, isPassedOver, List.all_cons, ← isPassedOver]
    -- the search ends at the first character that it does not pass over
    cases hc : caseIgnorableChars.has c with
    | true => rw [startsCased_cons_of_pos hc, startsCased_cons_of_pos hc, ih, Bool.true_and]
    | false =>
      rw [startsCased_cons_of_neg hc, startsCased_cons_of_neg hc, Bool.false_and,
        if_neg Bool.false_ne_true]

theorem startsCased_of_isPassedOver {s : List Char} (h : isPassedOver s = true) :
    startsCased s = false := by
  have hnil := startsCased_append s []
  rwa [List.append_nil, if_pos h] at hnil

/-- One of the letters is found at once. -/
theorem startsCased_cons {c : Char} (h : c ∈ sampleLetters) (s : List Char) :
    startsCased (c :: s) = true := by
  rw [startsCased_cons_of_neg (not_caseIgnorable_of_mem h), cased_of_mem h]

/-! ### Lower case between two texts -/

/-- What a text becomes in lower case between two others, of which the first is given backwards. -/
def lowerBetween (before : List Char) : List Char → List Char → List Char
  | [], _ => []
  | c :: s, after =>
    (if c = 'Σ' then [smallSigma before (s ++ after)] else lowerChar c)
      ++ lowerBetween (c :: before) s after

/-- Lower case behind a text has nothing behind it. -/
theorem lowerAfter_eq (before s : List Char) : lowerAfter before s = lowerBetween before s [] := by
  induction s generalizing before with
  | nil => rfl
  | cons c s ih => rw [lowerAfter, lowerBetween, ih, List.append_nil]

theorem lowerChars_eq (s : List Char) : lowerChars s = lowerBetween [] s [] :=
  lowerAfter_eq [] s

/-- Each of two parts has the other one beside it. -/
theorem lowerBetween_append (before s t after : List Char) :
    lowerBetween before (s ++ t) after =
      lowerBetween before s (t ++ after) ++ lowerBetween (s.reverse ++ before) t after := by
  induction s generalizing before with
  | nil => rfl
  | cons c s ih => simp [lowerBetween, ih]

/-- What stands around a text matters to the forms of its sigmas only. -/
theorem lowerBetween_congr {before before' s after after' : List Char}
    (h : ∀ front back, s = front ++ 'Σ' :: back →
      smallSigma (front.reverse ++ before) (back ++ after) =
        smallSigma (front.reverse ++ before') (back ++ after')) :
    lowerBetween before s after = lowerBetween before' s after' := by
  induction s generalizing before before' with
  | nil => rfl
  | cons c s ih =>
    have hrest : lowerBetween (c :: before) s after = lowerBetween (c :: before') s after' := by
      refine ih fun front back hs => ?_
      simpa using h (c :: front) back (by rw [hs]; rfl)
    rw [lowerBetween, lowerBetween, hrest]
    split
    · next hc =>
      have hfirst := h [] s (by rw [hc]; rfl)
      simp only [List.reverse_nil, List.nil_append] at hfirst
      rw [hfirst]
    · rfl

/-- A text without a sigma becomes the same everywhere. -/
theorem lowerBetween_of_not_mem {s : List Char} (h : 'Σ' ∉ s)
    (before before' after after' : List Char) :
    lowerBetween before s after = lowerBetween before' s after' :=
  lowerBetween_congr fun _ _ hs => absurd (hs ▸ by simp) h

/-! ### Texts that are closed -/

/-- Where lower case looks for a letter in front of a sigma, does it find an end to the search in
the text? -/
def IsClosedInFront (s : List Char) : Prop :=
  ∀ front back, s = front ++ 'Σ' :: back → startsCased back = false → isPassedOver front = false

/-- Where lower case looks for a letter behind a sigma, does it find an end to the search in the
text? -/
def IsClosedBehind (s : List Char) : Prop :=
  ∀ front back, s = front ++ 'Σ' :: back → startsCased front.reverse = true →
    isPassedOver back = false

variable {s : List Char}

/-- A text without a sigma is closed in front, since there is nothing to search from. -/
theorem isClosedInFront_of_not_mem (h : 'Σ' ∉ s) : IsClosedInFront s :=
  fun _ _ hs => absurd (hs ▸ by simp) h

theorem isClosedBehind_of_not_mem (h : 'Σ' ∉ s) : IsClosedBehind s :=
  fun _ _ hs => absurd (hs ▸ by simp) h

/-- What stands in front of a text that is closed there does not matter. -/
theorem lowerBetween_of_isClosedInFront (h : IsClosedInFront s) (before after : List Char) :
    lowerBetween before s after = lowerBetween [] s after := by
  refine lowerBetween_congr fun front back hs => ?_
  rw [smallSigma, smallSigma, List.append_nil, startsCased_append, isPassedOver_reverse]
  cases hfront : isPassedOver front with
  | false => rfl
  | true =>
    -- The search in front goes on outside, but there is a letter behind.
    have hback : startsCased back = true := by
      rw [← Bool.not_eq_false]
      intro hnone
      simp [h front back hs hnone] at hfront
    have hafter : startsCased (back ++ after) = true := by
      rw [startsCased_append, if_neg, hback]
      intro hpassed
      simp [startsCased_of_isPassedOver hpassed] at hback
    simp [hafter]

/-- What stands behind a text that is closed there does not matter. -/
theorem lowerBetween_of_isClosedBehind (h : IsClosedBehind s) (after : List Char) :
    lowerBetween [] s after = lowerChars s := by
  rw [lowerChars_eq]
  refine lowerBetween_congr fun front back hs => ?_
  rw [smallSigma, smallSigma, List.append_nil, List.append_nil, startsCased_append]
  cases hfront : startsCased front.reverse with
  | false => rfl
  | true => simp [h front back hs hfront]

/-- What stands in front of a sigma does not depend on what stands behind it. -/
theorem lowerBetween_sigma (before front back after : List Char) :
    lowerBetween before (front ++ 'Σ' :: back) after =
      lowerBetween before front ['Σ'] ++
        smallSigma (front.reverse ++ before) (back ++ after) :: lowerBetween ['Σ'] back after := by
  have hsigma : 'Σ' ∈ sampleLetters := by decide
  have hfront : lowerBetween before front ('Σ' :: (back ++ after)) =
      lowerBetween before front ['Σ'] := by
    refine lowerBetween_congr fun _ between _ => ?_
    simp only [smallSigma, startsCased_append between, startsCased_cons hsigma]
  have hback : lowerBetween ('Σ' :: (front.reverse ++ before)) back after =
      lowerBetween ['Σ'] back after := by
    refine lowerBetween_congr fun between _ _ => ?_
    simp only [smallSigma, startsCased_append between.reverse, startsCased_cons hsigma]
  rw [lowerBetween_append, lowerBetween, if_pos rfl, List.cons_append, hfront, hback]
  rfl

/-- A sigma is a letter, so it is not passed over. -/
theorem sigma_not_mem_of_isPassedOver (h : isPassedOver s = true) : 'Σ' ∉ s := by
  intro hmem
  have hpassed := List.all_eq_true.1 h 'Σ' hmem
  rw [not_caseIgnorable_of_mem (by decide)] at hpassed
  cases hpassed

/-- Behind a text that is not closed there, a letter takes away a final sigma. -/
theorem count_lowerChars_concat (h : ¬ IsClosedBehind s) :
    (lowerChars (s ++ ['a'])).count 'ς' + 1 = (lowerChars s).count 'ς' := by
  simp only [IsClosedBehind, not_forall, Bool.not_eq_false] at h
  obtain ⟨front, back, rfl, hfront, hback⟩ := h
  have hfinal : smallSigma front.reverse back = 'ς' := by
    simp [smallSigma, hfront, startsCased_of_isPassedOver hback]
  have hmedial : smallSigma front.reverse (back ++ ['a']) = 'σ' := by
    have hletter : startsCased ['a'] = true := startsCased_cons (by decide) []
    simp [smallSigma, startsCased_append, hback, hletter]
  -- This sigma stands beside all others, so that they stay as they are.
  have hrest := lowerBetween_of_not_mem (sigma_not_mem_of_isPassedOver hback) ['Σ'] ['Σ'] ['a'] []
  have hlast (before : List Char) : lowerBetween before ['a'] [] = ['a'] := rfl
  rw [lowerChars_eq, lowerChars_eq, lowerBetween_append, List.append_nil, hlast, lowerBetween_sigma,
    lowerBetween_sigma, List.append_nil, List.append_nil, hfinal, hmedial, hrest]
  simp only [List.count_append, List.count_cons_self, List.count_cons_of_ne, List.count_nil, ne_eq,
    Char.reduceEq, not_false_eq_true]
  omega

/-- In front of a text that is not closed there, a letter adds a final sigma. -/
theorem count_lowerChars_cons (h : ¬ IsClosedInFront s) :
    (lowerChars ('a' :: s)).count 'σ' + 1 = (lowerChars s).count 'σ' := by
  simp only [IsClosedInFront, not_forall, Bool.not_eq_false] at h
  obtain ⟨front, back, rfl, hback, hfront⟩ := h
  have hpassed : isPassedOver front.reverse = true := by rwa [isPassedOver_reverse]
  have hmedial : smallSigma front.reverse back = 'σ' := by
    simp [smallSigma, startsCased_of_isPassedOver hpassed]
  have hfinal : smallSigma (front.reverse ++ ['a']) back = 'ς' := by
    have hletter : startsCased ['a'] = true := startsCased_cons (by decide) []
    simp [smallSigma, startsCased_append, hpassed, hback, hletter]
  have hrest := lowerBetween_of_not_mem (sigma_not_mem_of_isPassedOver hfront) ['a'] [] ['Σ'] ['Σ']
  have hfirst (t : List Char) : lowerBetween [] ('a' :: t) [] = 'a' :: lowerBetween ['a'] t [] :=
    rfl
  rw [lowerChars_eq, lowerChars_eq, hfirst, lowerBetween_sigma, lowerBetween_sigma,
    List.append_nil, List.append_nil, hfinal, hmedial, hrest]
  simp only [List.count_append, List.count_cons_self, List.count_cons_of_ne, ne_eq, Char.reduceEq,
    not_false_eq_true]
  omega

/-- Ignoring case keeps a text at the start of others if and only if it is closed behind. -/
theorem isClosedBehind_iff :
    IsClosedBehind s ↔ ∀ t, s <+: t → lowerChars s <+: lowerChars t := by
  refine ⟨?_, fun h => ?_⟩
  · rintro h _ ⟨after, rfl⟩
    rw [lowerChars_eq (s ++ after), lowerBetween_append, lowerBetween_of_isClosedBehind h]
    exact List.prefix_append _ _
  · by_contra hopen
    have hcount := count_lowerChars_concat hopen
    have hle := (h _ (List.prefix_append s ['a'])).sublist.count_le 'ς'
    omega

/-- Ignoring case keeps a text in others if and only if it is closed on both sides. -/
theorem isClosed_iff : IsClosedInFront s ∧ IsClosedBehind s ↔
    ∀ t, s <:+: t → lowerChars s <:+: lowerChars t := by
  refine ⟨?_, fun h => ⟨?_, ?_⟩⟩
  · rintro ⟨hfront, hbehind⟩ _ ⟨before, after, rfl⟩
    rw [lowerChars_eq (before ++ s ++ after), lowerBetween_append, lowerBetween_append,
      List.append_nil, lowerBetween_of_isClosedInFront hfront,
      lowerBetween_of_isClosedBehind hbehind]
    exact List.infix_append _ _ _
  · by_contra hopen
    have hcount := count_lowerChars_cons hopen
    have hle := (h _ (List.suffix_cons 'a' s).isInfix).sublist.count_le 'σ'
    omega
  · by_contra hopen
    have hcount := count_lowerChars_concat hopen
    have hle := (h _ (List.prefix_append s ['a']).isInfix).sublist.count_le 'ς'
    omega

end CommandTemplate.Text
