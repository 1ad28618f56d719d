import CommandTemplate.Proofs.Text.Pieces
import CommandTemplate.Text.Sorting
import Mathlib.Data.String.Basic

/-!
Sorted pieces of a text.

`PieceOrder.sort` gives a permutation of its pieces (`sort_perm`), so the separator does not occur
in them either, and if it does not overlap itself the sorted pieces are found again in the text into
which they are put together (`splitOn_sortPieces`).  What is true of the sorted pieces is then true
of the pieces of the sorted text: `sortPieces_sorts`.
-/

namespace CommandTemplate.Text

/-! ### Merge sort -/

section

variable {α : Type} {le : α → α → Bool}

/-- Items that are all in the order of each other stay in the order in which they stand. -/
theorem filter_mergeSort (htrans : ∀ a b c, le a b = true → le b c = true → le a c = true)
    (htotal : ∀ a b, (le a b || le b a) = true) {p : α → Bool}
    (hp : ∀ a b, p a = true → p b = true → le a b = true) (items : List α) :
    (items.mergeSort le).filter p = items.filter p := by
  have hpairwise : (items.filter p).Pairwise fun a b => le a b = true := by
    refine List.pairwise_of_forall_mem_list fun a ha b hb => ?_
    exact hp a b (List.mem_filter.1 ha).2 (List.mem_filter.1 hb).2
  have hsublist : (items.filter p).Sublist ((items.mergeSort le).filter p) := by
    have hsorted := List.sublist_mergeSort htrans htotal hpairwise List.filter_sublist
    simpa only [List.filter_filter, Bool.and_self] using hsorted.filter p
  have hlength : ((items.mergeSort le).filter p).length = (items.filter p).length :=
    ((List.mergeSort_perm items le).filter p).length_eq
  exact (hsublist.eq_of_length hlength.symm).symm

end

namespace PieceOrder

/-- What pieces are compared by. -/
def precedes (key : String → String) (a b : String) : Bool :=
  !decide (key b < key a)

variable {key : String → String}

theorem precedes_iff {a b : String} : precedes key a b = true ↔ key a ≤ key b := by
  rw [precedes, Bool.not_eq_true', decide_eq_false_iff_not, not_lt]

theorem precedes_trans (a b c : String) (hab : precedes key a b = true)
    (hbc : precedes key b c = true) : precedes key a c = true :=
  precedes_iff.2 ((precedes_iff.1 hab).trans (precedes_iff.1 hbc))

theorem precedes_total (a b : String) : (precedes key a b || precedes key b a) = true := by
  rw [Bool.or_eq_true, precedes_iff, precedes_iff]
  exact le_total _ _

/-! ### Orders of pieces -/

/-- Sorting in any order loses no piece and adds none. -/
theorem sort_perm (pieces : List String) (order : PieceOrder) :
    (order.sort pieces).Perm pieces := by
  cases order with
  | ignoringCase => exact List.mergeSort_perm pieces _
  | exact => exact List.mergeSort_perm pieces _
  | asGiven => exact .refl pieces

theorem pairwise_mergeSort (key : String → String) (pieces : List String) :
    (pieces.mergeSort (precedes key)).Pairwise fun a b => key a ≤ key b :=
  (List.pairwise_mergeSort precedes_trans precedes_total pieces).imp precedes_iff.1

/-- Sorting what is sorted changes nothing. -/
theorem sort_sort (pieces : List String) (order : PieceOrder) :
    order.sort (order.sort pieces) = order.sort pieces := by
  have hkey (key : String → String) :
      (pieces.mergeSort (precedes key)).mergeSort (precedes key) =
        pieces.mergeSort (precedes key) :=
    List.mergeSort_of_pairwise (List.pairwise_mergeSort precedes_trans precedes_total pieces)
  cases order with
  | ignoringCase => exact hkey lower
  | exact => exact hkey id
  | asGiven => rfl

end PieceOrder

/-! ### Sorted texts -/

section

variable {separator : String}

theorem sortPieces_empty (h : separator ≠ "") (order : PieceOrder) :
    sortPieces order separator "" = "" := by
  rw [sortPieces, splitOn_empty h]
  cases order <;> simp [PieceOrder.sort]

/-- The sorted pieces are the pieces of the sorted text. -/
theorem splitOn_sortPieces (h : separator ≠ "") (hunbordered : Unbordered separator.toList)
    (order : PieceOrder) (s : String) :
    splitOn separator (sortPieces order separator s) = order.sort (splitOn separator s) := by
  have hperm := PieceOrder.sort_perm (splitOn separator s) order
  refine splitOn_intercalate h hunbordered ?_ fun piece hpiece => ?_
  · exact fun hnil => splitOn_ne_nil h s (List.nil_perm.1 (hnil ▸ hperm))
  · exact not_infix_of_mem_splitOn h (hperm.mem_iff.1 hpiece)

/-- Sorting a text brings its pieces into the order with a name and loses none of them.  Pieces that
are alike but for their case stay in their order, and all do if no order has that name; where no
name is given, it is `abc`.  What is sorted is not changed by sorting it again. -/
theorem sortPieces_sorts (h : separator ≠ "") (hunbordered : Unbordered separator.toList)
    (name s : String) :
    let sorted := sortPieces (.ofName name) separator s
    let pieces := splitOn separator sorted
    pieces.Perm (splitOn separator s) ∧
      (name ∈ ["", "abc"] → pieces.Pairwise (fun a b => lower a ≤ lower b) ∧
        ∀ text, pieces.filter (fun piece => lower piece = text) =
          (splitOn separator s).filter fun piece => lower piece = text) ∧
      (name = "Abc" → pieces.Pairwise (· ≤ ·)) ∧
      (name ∉ ["", "abc", "Abc"] → sorted = s) ∧
      sortPieces (.ofName name) separator sorted = sorted := by
  intro sorted pieces
  -- the separator is unbordered, so the pieces of the sorted text are the sorted pieces
  have hpieces : pieces = (PieceOrder.ofName name).sort (splitOn separator s) :=
    splitOn_sortPieces h hunbordered (.ofName name) s
  refine ⟨?_, fun hname => ?_, fun hname => ?_, fun hname => ?_, ?_⟩
  · rw [hpieces]
    exact PieceOrder.sort_perm _ _
  · have horder : PieceOrder.ofName name = .ignoringCase := by
      simp only [List.mem_cons, List.not_mem_nil, or_false] at hname
      rcases hname with rfl | rfl <;> rfl
    rw [hpieces, horder]
    refine ⟨PieceOrder.pairwise_mergeSort lower _, fun text => ?_⟩
    refine filter_mergeSort PieceOrder.precedes_trans PieceOrder.precedes_total ?_ _
    intro a b ha hb
    rw [PieceOrder.precedes_iff, of_decide_eq_true ha, of_decide_eq_true hb]
  · rw [hpieces, hname]
    exact PieceOrder.pairwise_mergeSort id _
  · have horder : PieceOrder.ofName name = .asGiven := by
      simp only [List.mem_cons, List.not_mem_nil, or_false, not_or] at hname
      simp [PieceOrder.ofName, hname]
    show sortPieces (.ofName name) separator s = s
    rw [horder]
    exact intercalate_splitOn h s
  · show String.intercalate separator ((PieceOrder.ofName name).sort pieces) = sorted
    rw [hpieces, PieceOrder.sort_sort]
    rfl

/-- The pieces `A` and `a`, and `b` and `B`, are alike but for their case. -/
theorem sortPieces_sorts_cases :
    let pieces := splitOn ", " (sortPieces (.ofName "abc") ", " "b, A, a, B")
    ", " ≠ "" ∧ Unbordered ", ".toList ∧ "abc" ∈ ["", "abc"] ∧
      pieces.Pairwise (fun a b => lower a ≤ lower b) ∧
      pieces.filter (fun piece => lower piece = "a") = ["A", "a"] ∧
      pieces.filter (fun piece => lower piece = "b") = ["b", "B"] := by
  have hseparator : ", " ≠ "" := by decide
  have hunbordered : Unbordered ", ".toList := by decide
  have hname : "abc" ∈ ["", "abc"] := by decide
  obtain ⟨hpairwise, hstable⟩ :=
    (sortPieces_sorts hseparator hunbordered "abc" "b, A, a, B").2.1 hname
  refine ⟨hseparator, hunbordered, hname, hpairwise, ?_, ?_⟩
  · rw [hstable]
    decide +kernel
  · rw [hstable]
    decide +kernel

end

end CommandTemplate.Text
