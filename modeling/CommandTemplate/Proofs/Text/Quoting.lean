import CommandTemplate.Context
import CommandTemplate.Proofs.Text.Pieces
import Mathlib.Logic.Function.Defs

/-!
Quoted and doubled texts can be read back.

What is doubled by `quote`, `double` and `Escapes.apply` is undone by `halve`, which puts one mark
in the place of each two that follow one another.  A mark may overlap itself and the characters
around it, so it is not clear that `halve` finds the pairs which were written.  It does because a
pair cannot start before the mark that was doubled: this was the first one in its text, and in front
of it nothing has changed (`not_infix_pair`).

Main statement: `quoting_undone`.
-/

namespace CommandTemplate

namespace Text

variable {mark old front s : List Char}

/-- A text with one mark in the place of each two that follow one another. -/
def halveChars (mark s : List Char) : List Char :=
  substituteChars (mark ++ mark) mark s

/-- A text with one mark in the place of each two that follow one another. -/
def halve (mark s : String) : String :=
  substitute (mark ++ mark) mark s

theorem halve_eq (mark s : String) :
    halve mark s = String.ofList (halveChars mark.toList s.toList) := by
  rw [halve, substitute, String.toList_append, halveChars]

/-! ### Substitution -/

/-- Where the text does not occur, nothing is put in its place. -/
theorem substituteChars_eq_self (hold : old ≠ []) (h : ¬ old <:+: s) (new : List Char) :
    substituteChars old new s = s := by
  rw [substituteChars, cut_eq_singleton hold h, List.intercalate_singleton]

/-- The text is replaced where it occurs first, and then behind that place. -/
theorem substituteChars_first (hold : old ≠ []) (h : ¬ old <:+: front ++ old.dropLast)
    (new rest : List Char) :
    substituteChars old new (front ++ old ++ rest) =
      front ++ new ++ substituteChars old new rest := by
  rw [substituteChars, cut_first hold h, List.intercalate_cons_of_ne_nil (cut_ne_nil hold rest),
    substituteChars]

/-! ### Pairs of marks -/

/-- In front of the first mark no pair of marks starts, even if this mark is doubled. -/
theorem not_infix_pair (hmark : mark ≠ []) (h : ¬ mark <:+: front ++ mark.dropLast) :
    ¬ mark ++ mark <:+: front ++ (mark ++ mark).dropLast := by
  rw [List.dropLast_append_of_ne_nil hmark]
  rintro ⟨before, after, hwhole⟩
  have hlength := congrArg List.length hwhole
  have hpos := List.length_pos_iff.2 hmark
  simp only [List.length_append, List.length_dropLast] at hlength
  -- both texts stand at the front of the whole one, and the first ends there earlier
  have hbefore : before ++ mark <+: front ++ (mark ++ mark.dropLast) :=
    ⟨mark ++ after, by rw [← hwhole]; simp only [List.append_assoc]⟩
  have hfront : front ++ mark.dropLast <+: front ++ (mark ++ mark.dropLast) := by
    rw [List.prefix_append_right_inj]
    exact (List.dropLast_prefix mark).trans (List.prefix_append _ _)
  have hprefix : before ++ mark <+: front ++ mark.dropLast := by
    refine List.prefix_of_prefix_length_le hbefore hfront ?_
    simp only [List.length_append, List.length_dropLast]
    omega
  exact h ((List.suffix_append before mark).isInfix.trans hprefix.isInfix)

/-- Each mark that was doubled is found again, and no other two marks are. -/
theorem halveChars_substituteChars (hmark : mark ≠ []) (s : List Char) :
    halveChars mark (substituteChars mark (mark ++ mark) s) = s := by
  have hpair : mark ++ mark ≠ [] := List.append_ne_nil_of_left_ne_nil hmark mark
  induction s using cutInduction hmark with
  | whole s h =>
    have hpairs : ¬ mark ++ mark <:+: s := fun hoccurs =>
      h ((List.prefix_append mark mark).isInfix.trans hoccurs)
    rw [substituteChars_eq_self hmark h, halveChars, substituteChars_eq_self hpair hpairs]
  | first front rest h ih =>
    rw [substituteChars_first hmark h, halveChars,
      substituteChars_first hpair (not_infix_pair hmark h), ← halveChars, ih]

/-- Halving undoes that each mark was doubled. -/
theorem halve_substitute {mark : String} (hmark : mark ≠ "") (s : String) :
    halve mark (substitute mark (mark ++ mark) s) = s := by
  have hchars := toList_ne_nil hmark
  rw [halve_eq, substitute, String.toList_ofList, String.toList_append,
    halveChars_substituteChars hchars, String.ofList_toList]

/-! ### Quotes and single characters -/

/-- Quotes stand around a text in which they are doubled. -/
theorem quote_eq {mark : String} (hmark : mark ≠ "") (s : String) :
    quote mark s = mark ++ substitute mark (mark ++ mark) s ++ mark := by
  have hchars := toList_ne_nil hmark
  rw [quote, quoteChars, if_neg hchars, String.ofList_append, String.ofList_append,
    String.ofList_toList, substitute, String.toList_append]

theorem doubleChars_append (c : Char) (s t : List Char) :
    doubleChars c (s ++ t) = doubleChars c s ++ doubleChars c t :=
  List.flatMap_append

/-- There is nothing to double in a text without the character. -/
theorem doubleChars_eq_self {c : Char} (h : c ∉ s) : doubleChars c s = s := by
  have hother : ∀ d ∈ s, (if d = c then [c, c] else [d]) = [d] := by
    intro d hd
    rw [if_neg]
    rintro rfl
    exact h hd
  rw [doubleChars, List.flatMap_congr hother, List.flatMap_singleton']

/-- Doubling a character is the same as putting two of it in its place. -/
theorem doubleChars_eq (c : Char) (s : List Char) :
    doubleChars c s = substituteChars [c] [c, c] s := by
  have hc : [c] ≠ [] := List.cons_ne_nil c []
  induction s using cutInduction hc with
  | whole s h =>
    rw [substituteChars_eq_self hc h, doubleChars_eq_self]
    rwa [List.singleton_infix_iff] at h
  | first front rest h ih =>
    have hfront : c ∉ front := by
      rwa [List.dropLast_singleton, List.append_nil, List.singleton_infix_iff] at h
    have hsingle : doubleChars c [c] = [c, c] := by simp [doubleChars]
    rw [substituteChars_first hc h, doubleChars_append, doubleChars_append, hsingle,
      doubleChars_eq_self hfront, ih]

theorem double_eq (c : Char) (s : String) :
    double c s = substitute (String.singleton c) (String.singleton c ++ String.singleton c) s := by
  rw [double, doubleChars_eq, substitute, String.toList_append, String.toList_singleton]
  rfl

theorem singleton_ne_empty (c : Char) : String.singleton c ≠ "" := by
  intro h
  have hlist := congrArg String.toList h
  rw [String.toList_singleton] at hlist
  cases hlist

theorem halve_double (c : Char) (s : String) : halve (String.singleton c) (double c s) = s := by
  rw [double_eq, halve_substitute (singleton_ne_empty c)]

/-- Two characters are doubled in either order. -/
theorem double_comm (c d : Char) (s : String) : double c (double d s) = double d (double c s) := by
  rcases eq_or_ne c d with rfl | hne
  · rfl
  simp only [double, doubleChars, String.toList_ofList, List.flatMap_assoc]
  refine congrArg String.ofList (List.flatMap_congr fun b _ => ?_)
  -- one of the two at most is the character that is doubled
  by_cases hc : b = c
  · simp [hc, hne]
  · by_cases hd : b = d
    · simp [hd, hne.symm]
    · simp [hc, hd]

end Text

/-! ### Separators of the command around a template -/

/-- A text with the separators in it halved, which undoes that they were doubled. -/
def Escapes.restore (escapes : Escapes) (text : String) : String :=
  let text := if escapes.foreach then Text.halve ">" text else text
  if escapes.chain then Text.halve "|" text else text

/-- The separators in a text are restored as they were, whichever of them were doubled. -/
theorem Escapes.restore_apply (escapes : Escapes) (text : String) :
    escapes.restore (escapes.apply text) = text := by
  have hbar (s : String) : Text.halve "|" (Text.double '|' s) = s := Text.halve_double '|' s
  have hangle (s : String) : Text.halve ">" (Text.double '>' s) = s := Text.halve_double '>' s
  obtain ⟨chain, foreach⟩ := escapes
  cases chain <;> cases foreach <;> simp [restore, apply, hbar, hangle]

namespace Text

/-- Quotes around a text and the doubling in it can be undone, so that no two texts are quoted
alike.  The same is true of characters that are doubled, of one or of two in either order, and so of
the separators in a text that is put into a command. -/
theorem quoting_undone :
    (∀ mark : String, mark ≠ "" →
      (∀ s, ∃ inner, quote mark s = mark ++ inner ++ mark ∧ halve mark inner = s) ∧
        Function.Injective (quote mark)) ∧
    (∀ c s, halve (String.singleton c) (double c s) = s) ∧
    (∀ c d s, halve (String.singleton c) (halve (String.singleton d) (double d (double c s))) = s ∧
      halve (String.singleton d) (halve (String.singleton c) (double d (double c s))) = s) ∧
    ∀ (escapes : Escapes) (text : String), escapes.restore (escapes.apply text) = text := by
  refine ⟨fun mark hmark => ⟨fun s => ?_, fun s t h => ?_⟩, halve_double, fun c d s => ⟨?_, ?_⟩,
    Escapes.restore_apply⟩
  · exact ⟨_, quote_eq hmark s, halve_substitute hmark s⟩
  · rw [quote_eq hmark, quote_eq hmark, String.append_left_inj, String.append_right_inj] at h
    rw [← halve_substitute hmark s, h, halve_substitute hmark t]
  · rw [halve_double, halve_double]
  · rw [double_comm, halve_double, halve_double]

/-- The mark occurs twice in the text, where it overlaps itself. -/
theorem quoting_undone_overlap :
    "aba" ≠ "" ∧ quote "aba" "ababa" = "aba" ++ "abaababa" ++ "aba" ∧
      halve "aba" "abaababa" = "ababa" := by
  have hmark : "aba" ≠ "" := by decide
  have hquote : quote "aba" "ababa" = "aba" ++ "abaababa" ++ "aba" := by decide +kernel
  obtain ⟨inner, hinner, hhalve⟩ := (quoting_undone.1 "aba" hmark).1 "ababa"
  rw [hquote, String.append_left_inj, String.append_right_inj] at hinner
  rw [← hinner] at hhalve
  exact ⟨hmark, hquote, hhalve⟩

end Text

end CommandTemplate
