import CommandTemplate.Text.Pieces
import Mathlib.Data.List.Infix

/-!
Where a text is cut.

A text is cut at the first occurrence of the separator, and its rest is cut in the same way:

    cut sep (front ++ sep ++ rest) = front :: cut sep rest

if `sep` starts nowhere in `front` (`cut_first`).  This is the only way in which later statements
look at `cut`: `cutInduction` goes over a text from one occurrence to the next.

A separator may overlap itself, as `aa` does in `aaa`.  Then two texts with the separator between
them need not be cut there.  It is otherwise if no text but the separator itself stands at both of
its ends (`Unbordered`): pieces that were put together are found again, and they are the only ones
from which the text comes (`cut_eq_iff`).

The tests for parts of a text are the relations of the library (`startsWith_iff`, `contains_iff`).
-/

namespace CommandTemplate.Text

variable {sep front rest s t : List Char}

/-! ### Parts of a text -/

/-- What is put in front can be taken off again. -/
theorem dropFront?_append (front s : List Char) : dropFront? front (front ++ s) = some s := by
  induction front with
  | nil => rfl
  | cons c front ih =>
    show (if c = c then dropFront? front (front ++ s) else none) = some s
    rw [if_pos rfl, ih]

/-- What is dropped and what is left are the text. -/
theorem eq_of_dropFront? (h : dropFront? front s = some rest) : s = front ++ rest := by
  fun_induction dropFront? front s with
  | case1 => cases h; rfl
  | case2 => cases h
  | case3 front f s ih => exact congrArg (f :: ·) (ih h)
  | case4 => cases h

theorem startsWith_iff {front s : String} :
    startsWith front s = true ↔ front.toList <+: s.toList :=
  List.isPrefixOf_iff_prefix

/-- A front is stripped from a text that starts with it. -/
theorem stripFront?_append (front s : String) : stripFront? front (front ++ s) = some s := by
  rw [stripFront?, String.toList_append, dropFront?_append]
  exact congrArg some String.ofList_toList

theorem stripFront?_eq_none {front s : String} (h : startsWith front s = false) :
    stripFront? front s = none := by
  rw [stripFront?, Option.map_eq_none_iff, Option.eq_none_iff_forall_ne_some]
  intro rest hrest
  have hprefix : front.toList <+: s.toList := ⟨rest, (eq_of_dropFront? hrest).symm⟩
  simp [startsWith_iff.2 hprefix] at h

/-- The search for a separator finds it wherever it occurs. -/
theorem occursIn_iff : occursIn sep s = true ↔ sep <:+: s := by
  induction s with
  | nil => rw [occursIn, List.isEmpty_iff, List.infix_nil]
  | cons c s ih =>
    rw [occursIn, Bool.or_eq_true, ih, List.isPrefixOf_iff_prefix, List.infix_cons_iff]

theorem contains_iff {part s : String} : contains part s = true ↔ part.toList <:+: s.toList :=
  occursIn_iff

/-! ### The first occurrence -/

/-- Cutting is done by skipping what belongs to a separator, with nothing to skip at first. -/
theorem cut_eq_cutFrom (hsep : sep ≠ []) (s : List Char) : cut sep s = cutFrom sep 0 s := by
  cases sep with
  | nil => exact absurd rfl hsep
  | cons c sep => rfl

/-- An occurrence of the separator is passed. -/
theorem cutFrom_length_append (sep front s : List Char) :
    cutFrom sep front.length (front ++ s) = cutFrom sep 0 s := by
  induction front with
  | nil => rfl
  | cons c front ih => exact ih

/-- The separator does not start at the front of a text in which it does not occur. -/
theorem isPrefixOf_eq_false (h : ¬ sep <:+: s) : sep.isPrefixOf s = false := by
  rw [← Bool.not_eq_true, List.isPrefixOf_iff_prefix]
  exact fun hprefix => h hprefix.isInfix

/-- A text without the separator is one piece. -/
theorem cut_eq_singleton (hsep : sep ≠ []) (h : ¬ sep <:+: s) : cut sep s = [s] := by
  rw [cut_eq_cutFrom hsep]
  induction s with
  | nil => rfl
  | cons c s ih =>
    have hs : ¬ sep <:+: s := fun hoccurs => h (List.infix_cons hoccurs)
    rw [cutFrom, if_neg (by simp [isPrefixOf_eq_false h]), ih hs]
    rfl

theorem dropLast_prefix_append (front sep rest : List Char) :
    front ++ sep.dropLast <+: front ++ sep ++ rest := by
  rw [List.append_assoc, List.prefix_append_right_inj]
  exact (List.dropLast_prefix sep).trans (List.prefix_append sep rest)

/-- An occurrence that starts in `front` ends before the last character of the next separator. -/
theorem prefix_of_prefix_append {c : Char} (h : sep <+: c :: (front ++ sep ++ rest)) :
    sep <+: c :: (front ++ sep.dropLast) := by
  have hwhole : c :: (front ++ sep.dropLast) <+: c :: (front ++ sep ++ rest) :=
    dropLast_prefix_append (c :: front) sep rest
  refine List.prefix_of_prefix_length_le h hwhole ?_
  simp only [List.length_cons, List.length_append, List.length_dropLast]
  omega

/-- The first piece goes up to the first occurrence of the separator. -/
theorem cut_first (hsep : sep ≠ []) (h : ¬ sep <:+: front ++ sep.dropLast) (rest : List Char) :
    cut sep (front ++ sep ++ rest) = front :: cut sep rest := by
  rw [cut_eq_cutFrom hsep, cut_eq_cutFrom hsep]
  induction front with
  | nil =>
    cases sep with
    | nil => exact absurd rfl hsep
    | cons c sep =>
      have hprefix : (c :: sep).isPrefixOf (c :: (sep ++ rest)) = true :=
        List.isPrefixOf_iff_prefix.2 (List.prefix_append (c :: sep) rest)
      show cutFrom (c :: sep) 0 (c :: (sep ++ rest)) = _
      rw [cutFrom, if_pos hprefix]
      exact congrArg ([] :: ·) (cutFrom_length_append (c :: sep) sep rest)
  | cons c front ih =>
    have hfront : ¬ sep <:+: front ++ sep.dropLast := fun hoccurs => h (List.infix_cons hoccurs)
    have hprefix : ¬ sep.isPrefixOf (c :: (front ++ sep ++ rest)) = true := by
      rw [List.isPrefixOf_iff_prefix]
      exact fun hprefix => h (prefix_of_prefix_append hprefix).isInfix
    show cutFrom sep 0 (c :: (front ++ sep ++ rest)) = _
    rw [cutFrom, if_neg hprefix, ih hfront]
    rfl

/-- Where the separator occurs, there is a first occurrence. -/
theorem exists_first (hsep : sep ≠ []) (h : sep <:+: s) :
    ∃ front rest, s = front ++ sep ++ rest ∧ ¬ sep <:+: front ++ sep.dropLast := by
  induction s with
  | nil => exact absurd (List.infix_nil.1 h) hsep
  | cons c s ih =>
    by_cases hprefix : sep <+: c :: s
    · obtain ⟨rest, hrest⟩ := hprefix
      refine ⟨[], rest, hrest.symm, fun hoccurs => ?_⟩
      have hlength := hoccurs.length_le
      have hpos := List.length_pos_iff.2 hsep
      simp only [List.nil_append, List.length_dropLast] at hlength
      omega
    · obtain ⟨front, rest, rfl, hfront⟩ := ih ((List.infix_cons_iff.1 h).resolve_left hprefix)
      refine ⟨c :: front, rest, rfl, fun hoccurs => ?_⟩
      rcases List.infix_cons_iff.1 hoccurs with hstart | hoccurs
      · exact hprefix (hstart.trans (dropLast_prefix_append (c :: front) sep rest))
      · exact hfront hoccurs

/-- What holds of a text without the separator, and goes from the rest behind its first occurrence
to the whole text, holds of all texts. -/
@[elab_as_elim]
theorem cutInduction {motive : List Char → Prop} (hsep : sep ≠ [])
    (whole : ∀ s, ¬ sep <:+: s → motive s)
    (first : ∀ front rest, ¬ sep <:+: front ++ sep.dropLast → motive rest →
      motive (front ++ sep ++ rest)) (s : List Char) : motive s := by
  by_cases h : sep <:+: s
  · obtain ⟨front, rest, hs, hfront⟩ := exists_first hsep h
    have hshorter : rest.length < s.length := by
      have hpos := List.length_pos_iff.2 hsep
      rw [hs, List.length_append, List.length_append]
      omega
    rw [hs]
    exact first front rest hfront (cutInduction hsep whole first rest)
  · exact whole s h
termination_by s.length

/-! ### The pieces of a text -/

/-- There is always a piece, an empty one if need be. -/
theorem cut_ne_nil (hsep : sep ≠ []) (s : List Char) : cut sep s ≠ [] := by
  induction s using cutInduction hsep with
  | whole s h =>
    rw [cut_eq_singleton hsep h]
    exact List.cons_ne_nil _ _
  | first front rest h _ =>
    rw [cut_first hsep h]
    exact List.cons_ne_nil _ _

/-- The pieces put together are the text. -/
theorem intercalate_cut (hsep : sep ≠ []) (s : List Char) :
    List.intercalate sep (cut sep s) = s := by
  induction s using cutInduction hsep with
  | whole s h => rw [cut_eq_singleton hsep h, List.intercalate_singleton]
  | first front rest h ih =>
    rw [cut_first hsep h, List.intercalate_cons_of_ne_nil (cut_ne_nil hsep rest), ih]

/-- No piece contains the separator. -/
theorem not_infix_of_mem_cut {piece : List Char} (hsep : sep ≠ []) (h : piece ∈ cut sep s) :
    ¬ sep <:+: piece := by
  induction s using cutInduction hsep with
  | whole s hs =>
    rw [cut_eq_singleton hsep hs, List.mem_singleton] at h
    exact h ▸ hs
  | first front rest hfront ih =>
    rw [cut_first hsep hfront, List.mem_cons] at h
    rcases h with rfl | h
    · exact fun hoccurs => hfront (hoccurs.trans (List.prefix_append _ _).isInfix)
    · exact ih h

/-- The last piece is only empty if the text is or the separator stands at its end. -/
theorem suffix_of_getLast?_cut (hsep : sep ≠ []) (h : (cut sep s).getLast? = some []) :
    s = [] ∨ sep <:+ s := by
  induction s using cutInduction hsep with
  | whole s hs =>
    rw [cut_eq_singleton hsep hs] at h
    exact .inl (Option.some.inj h)
  | first front rest hfront ih =>
    right
    rw [cut_first hsep hfront, List.getLast?_cons_of_ne_nil (cut_ne_nil hsep rest)] at h
    rcases ih h with rfl | hsuffix
    · rw [List.append_nil]
      exact List.suffix_append front sep
    · exact hsuffix.trans (List.suffix_append _ rest)

/-! ### Separators that do not overlap themselves -/

/-- Does no text but the whole one stand at both ends of it? -/
def Unbordered (s : List Char) : Prop :=
  ∀ t, t ≠ [] → t <+: s → t <:+ s → t = s

instance (s : List Char) : Decidable (Unbordered s) :=
  decidable_of_iff (∀ t ∈ s.inits, t ≠ [] → t <:+ s → t = s) (by
    simp only [Unbordered, List.mem_inits]
    exact forall_congr' fun t => forall_comm)

/-- A single character has no border. -/
theorem unbordered_singleton (c : Char) : Unbordered [c] := by
  intro t ht hprefix _
  obtain ⟨back, hback⟩ := hprefix
  rcases List.append_eq_singleton_iff.1 hback with ⟨h, -⟩ | ⟨h, -⟩
  · exact absurd h ht
  · exact h

/-- An occurrence that starts in a text and ends in the separator behind it would overlap this. -/
theorem Unbordered.not_infix_append (hunbordered : Unbordered sep) (hsep : sep ≠ [])
    (h : ¬ sep <:+: s) : ¬ sep <:+: s ++ sep.dropLast := by
  rintro ⟨before, after, hwhole⟩
  have hshort : sep.dropLast.length < sep.length := by
    have hpos := List.length_pos_iff.2 hsep
    rw [List.length_dropLast]
    omega
  rcases List.append_eq_append_iff.1 hwhole with ⟨back, hs, -⟩ | ⟨back, hback, hlast⟩
  · exact h ⟨before, back, hs.symm⟩
  have hback_le : back.length ≤ sep.dropLast.length := by
    rw [hlast, List.length_append]
    exact Nat.le_add_right _ _
  rcases List.append_eq_append_iff.1 hback with ⟨front, hs, hfront⟩ | ⟨front, -, hfront⟩
  · -- `sep` is `front ++ back`, and `back` stands in front of `sep`, too
    by_cases hempty : back = []
    · rw [hempty, List.append_nil] at hfront
      exact h ⟨before, [], by rw [hs, hfront, List.append_nil]⟩
    · have hprefix : back <+: sep :=
        (hlast ▸ List.prefix_append back after).trans (List.dropLast_prefix sep)
      have hsame := hunbordered back hempty hprefix ⟨front, hfront.symm⟩
      rw [hsame] at hback_le
      exact absurd hback_le (Nat.not_le.2 hshort)
  · rw [hfront, List.length_append] at hback_le
    omega

/-- Two texts with the separator between them are cut there, and apart from that by themselves. -/
theorem cut_append_separator (hsep : sep ≠ []) (hunbordered : Unbordered sep)
    (s t : List Char) : cut sep (s ++ sep ++ t) = cut sep s ++ cut sep t := by
  induction s using cutInduction hsep with
  | whole s h =>
    rw [cut_first hsep (hunbordered.not_infix_append hsep h), cut_eq_singleton hsep h]
    rfl
  | first front rest h ih =>
    rw [List.append_assoc, List.append_assoc, cut_first hsep h, cut_first hsep h,
      ← List.append_assoc, ih]
    rfl

/-- The pieces of a text are the only ones without the separator in them from which it can be put
together. -/
theorem cut_eq_iff (hsep : sep ≠ []) (hunbordered : Unbordered sep) {pieces : List (List Char)} :
    cut sep s = pieces ↔
      pieces ≠ [] ∧ List.intercalate sep pieces = s ∧ ∀ piece ∈ pieces, ¬ sep <:+: piece := by
  constructor
  · rintro rfl
    exact ⟨cut_ne_nil hsep s, intercalate_cut hsep s, fun _ => not_infix_of_mem_cut hsep⟩
  · rintro ⟨hne, rfl, hpieces⟩
    induction pieces with
    | nil => exact absurd rfl hne
    | cons piece pieces ih =>
      obtain ⟨hpiece, hothers⟩ := List.forall_mem_cons.1 hpieces
      by_cases hlast : pieces = []
      · rw [hlast, List.intercalate_singleton, cut_eq_singleton hsep hpiece]
      · rw [List.intercalate_cons_of_ne_nil hlast, cut_append_separator hsep hunbordered,
          cut_eq_singleton hsep hpiece, ih hlast hothers]
        rfl

/-! ### Pieces as texts -/

section

variable {separator : String}

theorem toList_ne_nil (h : separator ≠ "") : separator.toList ≠ [] :=
  fun hnil => h (String.toList_eq_nil_iff.1 hnil)

theorem toList_intercalate_ofList (separator : String) (pieces : List (List Char)) :
    (String.intercalate separator (pieces.map String.ofList)).toList =
      List.intercalate separator.toList pieces := by
  have hid : String.toList ∘ String.ofList = id := funext fun _ => String.toList_ofList
  rw [String.toList_intercalate, List.map_map, hid, List.map_id]

theorem splitOn_ne_nil (h : separator ≠ "") (s : String) : splitOn separator s ≠ [] := by
  rw [splitOn, ne_eq, List.map_eq_nil_iff]
  exact cut_ne_nil (toList_ne_nil h) s.toList

theorem splitOn_empty (h : separator ≠ "") : splitOn separator "" = [""] := by
  rw [splitOn, cut_eq_cutFrom (toList_ne_nil h)]
  rfl

/-- No piece contains the separator. -/
theorem not_infix_of_mem_splitOn (h : separator ≠ "") {s piece : String}
    (hpiece : piece ∈ splitOn separator s) : ¬ separator.toList <:+: piece.toList := by
  obtain ⟨chars, hchars, rfl⟩ := List.mem_map.1 hpiece
  rw [String.toList_ofList]
  exact not_infix_of_mem_cut (toList_ne_nil h) hchars

/-- The pieces with separators between them are the text. -/
theorem intercalate_splitOn (h : separator ≠ "") (s : String) :
    String.intercalate separator (splitOn separator s) = s := by
  rw [← String.toList_inj, splitOn, toList_intercalate_ofList, intercalate_cut (toList_ne_nil h)]

/-- Pieces that are put together are found again. -/
theorem splitOn_intercalate (h : separator ≠ "") (hunbordered : Unbordered separator.toList)
    {pieces : List String} (hne : pieces ≠ [])
    (hpieces : ∀ piece ∈ pieces, ¬ separator.toList <:+: piece.toList) :
    splitOn separator (String.intercalate separator pieces) = pieces := by
  have hcut : cut separator.toList (String.intercalate separator pieces).toList =
      pieces.map String.toList := by
    rw [cut_eq_iff (toList_ne_nil h) hunbordered, String.toList_intercalate]
    refine ⟨fun hnil => hne (List.map_eq_nil_iff.1 hnil), rfl, fun piece hpiece => ?_⟩
    obtain ⟨text, htext, rfl⟩ := List.mem_map.1 hpiece
    exact hpieces text htext
  have hid : String.ofList ∘ String.toList = id := funext fun _ => String.ofList_toList
  rw [splitOn, hcut, List.map_map, hid, List.map_id]

end

end CommandTemplate.Text
