import CommandTemplate.Text.Names
import Mathlib.Data.List.Sort
import Mathlib.Data.String.Basic

/-!
What is in a set of names, and in which order.
-/

namespace CommandTemplate.Text

/-- The names are those from before and the new one. -/
theorem mem_insertName {name other : String} {names : List String} :
    other ∈ insertName name names ↔ other = name ∨ other ∈ names := by
  induction names with
  | nil => simp [insertName]
  | cons first names ih =>
    rw [insertName]
    split
    · simp
    · split
      · next h => simp [h]
      · rw [List.mem_cons, ih, List.mem_cons]
        exact or_left_comm

/-- Sorting keeps the names that there are. -/
theorem mem_ascending {name : String} {names : List String} :
    name ∈ ascending names ↔ name ∈ names := by
  induction names with
  | nil => rfl
  | cons first names ih =>
    rw [ascending, List.foldr_cons, mem_insertName, List.mem_cons]
    exact or_congr_right ih

/-- A name that is put in where it belongs leaves all names in order, each of them once. -/
theorem pairwise_insertName {name : String} {names : List String}
    (h : names.Pairwise (· < ·)) : (insertName name names).Pairwise (· < ·) := by
  induction names with
  | nil => exact List.pairwise_singleton _ _
  | cons first names ih =>
    obtain ⟨hfirst, hnames⟩ := List.pairwise_cons.1 h
    rw [insertName]
    split
    · next hlt =>
      refine List.pairwise_cons.2 ⟨fun other hmem => ?_, h⟩
      rcases List.mem_cons.1 hmem with rfl | hmem
      · exact hlt
      · exact hlt.trans (hfirst other hmem)
    · next hle =>
      split
      · exact h
      · next hne =>
        refine List.pairwise_cons.2 ⟨fun other hmem => ?_, ih hnames⟩
        rcases mem_insertName.1 hmem with rfl | hmem
        · exact lt_of_le_of_ne (not_lt.1 hle) (Ne.symm hne)
        · exact hfirst other hmem

/-- Sorted names ascend, so none of them is there twice. -/
theorem pairwise_ascending (names : List String) : (ascending names).Pairwise (· < ·) := by
  induction names with
  | nil => exact .nil
  | cons first names ih => exact pairwise_insertName ih

/-- It is the same to choose some names before sorting or afterwards. -/
theorem ascending_filter (p : String → Bool) (names : List String) :
    ascending (names.filter p) = (ascending names).filter p := by
  refine (pairwise_ascending _).eq_of_mem_iff ((pairwise_ascending names).filter p) fun name => ?_
  rw [mem_ascending, List.mem_filter, List.mem_filter, mem_ascending]

end CommandTemplate.Text
