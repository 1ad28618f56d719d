import CommandTemplate.Proofs.Text.Character
import CommandTemplate.Text.Property.Letters
import Mathlib.Tactic.SplitIfs

/-!
Sets of characters that keep out of a range, and what sets have in them.

A set `Avoids` a range if each of its own ranges lies on one side of it.  Joining ranges that touch
keeps them there, so a union of tables avoids a range if the tables do (`avoids_union`), and a table
does if its words do (`avoids_ofText`).  All letters avoid the digits (`avoidsDigits_alphabetic`).

A set `covers` the code points in its ranges.  Ranges are put into order before they are joined, so
a search that ends early finds the same (`has_ofRanges`), and what a set has in it is read off the
words of its tables (`covers_union`, `covers_diff`, `covers_ofText`).
-/

namespace CommandTemplate.Text

namespace CodeSet

/-- Does the range lie in front of another one, or behind it? -/
def isBeside (low high : Nat) (r : Nat × Nat) : Bool :=
  r.2 < low || high < r.1

/-- All ranges of the set lie beside another one. -/
def Avoids (low high : Nat) (s : CodeSet) : Prop :=
  ∀ r ∈ s.ranges, isBeside low high r = true

variable {low high : Nat} {ranges : List (Nat × Nat)} {s t : CodeSet}

/-- A range that is joined with one that it reaches does not come to the other side. -/
theorem isBeside_joinInto (h : low ≤ high) {first : Nat × Nat}
    (hfirst : isBeside low high first = true)
    (hranges : ∀ r ∈ ranges, isBeside low high r = true) :
    ∀ r ∈ joinInto first ranges, isBeside low high r = true := by
  fun_induction joinInto first ranges with
  | case1 first =>
    rw [List.forall_mem_singleton]
    exact hfirst
  | case2 first next rest hreach ih =>
    rw [List.forall_mem_cons] at hranges
    refine ih ?_ hranges.2
    have hnext := hranges.1
    simp only [isBeside, Bool.or_eq_true, decide_eq_true_eq] at hfirst hnext ⊢
    omega
  | case3 first next rest _ ih =>
    rw [List.forall_mem_cons] at hranges ⊢
    exact ⟨hfirst, ih hranges.1 hranges.2⟩

/-- A set of ranges beside another one lies beside it, in whatever order they were given. -/
theorem avoids_ofRanges (h : low ≤ high) (hranges : ∀ r ∈ ranges, isBeside low high r = true) :
    (ofRanges ranges).Avoids low high := by
  have hsorted : ∀ r ∈ (ranges.filter fun r => r.1 ≤ r.2).mergeSort fun a b => a.1 ≤ b.1,
      isBeside low high r = true := fun r hr =>
    hranges r (List.mem_filter.1 (List.mem_mergeSort.1 hr)).1
  unfold Avoids ofRanges join
  dsimp only
  split
  · exact nofun
  · next first rest hrest =>
    rw [hrest, List.forall_mem_cons] at hsorted
    exact isBeside_joinInto h hsorted.1 hsorted.2

theorem avoids_union (h : low ≤ high) (hs : s.Avoids low high) (ht : t.Avoids low high) :
    (s.union t).Avoids low high :=
  avoids_ofRanges h (List.forall_mem_append.2 ⟨hs, ht⟩)

/-- The ranges of the words of a table. -/
def wordRanges (text : List Char) : List (Nat × Nat) :=
  (((text.splitOnP fun c => c = ' ' || c = '\n').filter (· ≠ [])).filterMap
    Span.ofWord?).flatMap Span.ranges

/-- A table avoids a range if its words do. -/
theorem avoids_ofText (h : low ≤ high) (text : List Char)
    (htext : (wordRanges text).all (isBeside low high) = true) :
    (ofText (String.ofList text)).Avoids low high := by
  refine avoids_ofRanges h ?_
  rw [tableWords, String.toList_ofList]
  exact List.all_eq_true.1 htext

/-- What lies in a range is in no set that avoids it. -/
theorem Avoids.not_has (h : s.Avoids low high) {c : Char} (hlow : low ≤ c.toNat)
    (hhigh : c.toNat ≤ high) : s.has c = false := by
  -- the search may end early, so the induction is on the ranges themselves
  obtain ⟨ranges⟩ := s
  show inRanges c.toNat ranges = false
  replace h : ∀ r ∈ ranges, isBeside low high r = true := h
  induction ranges with
  | nil => rfl
  | cons r rest ih =>
    obtain ⟨hr, hrest⟩ := List.forall_mem_cons.1 h
    have hbeside : c.toNat < r.1 ∨ r.2 < c.toNat := by
      simp only [isBeside, Bool.or_eq_true, decide_eq_true_eq] at hr
      omega
    rw [inRanges, ih hrest]
    simp only [Bool.or_false, Bool.and_eq_false_iff, decide_eq_false_iff_not]
    omega

end CodeSet

/-! ### Members -/

namespace CodeSet

/-- Is a code point in one of some ranges, in whatever order they stand? -/
def inAny (n : Nat) (ranges : List (Nat × Nat)) : Bool :=
  ranges.any fun r => r.1 ≤ n && n ≤ r.2

/-- Is a code point in one of the ranges of the set? -/
def covers (s : CodeSet) (n : Nat) : Bool :=
  inAny n s.ranges

/-- Do ranges stand in the order of their first code points? -/
abbrev Ascending (ranges : List (Nat × Nat)) : Prop :=
  ranges.Pairwise fun a b => a.1 ≤ b.1

variable {n : Nat} {r first : Nat × Nat} {ranges : List (Nat × Nat)} {s t : CodeSet}

theorem inAny_cons : inAny n (r :: ranges) = (decide (r.1 ≤ n) && n ≤ r.2 || inAny n ranges) :=
  rfl

/-- In ascending ranges the search need not go on where a range starts too late. -/
theorem inRanges_eq (h : Ascending ranges) : inRanges n ranges = inAny n ranges := by
  induction ranges with
  | nil => rfl
  | cons r rest ih =>
    obtain ⟨hr, hrest⟩ := List.pairwise_cons.1 h
    rw [inRanges, ih hrest, inAny_cons]
    by_cases hlow : r.1 ≤ n
    · simp [hlow]
    · have hnone : inAny n rest = false := by
        rw [inAny, List.any_eq_false]
        intro other hother
        have := hr other hother
        simp only [Bool.and_eq_true, decide_eq_true_eq]
        omega
      simp [hlow, hnone]

/-- A range that is joined with one behind it reaches as far as both. -/
theorem Ascending.join {next : Nat × Nat} (h : Ascending (first :: next :: ranges)) (high : Nat) :
    Ascending ((first.1, high) :: ranges) := by
  obtain ⟨hfirst, hrest⟩ := List.pairwise_cons.1 h
  exact List.pairwise_cons.2
    ⟨fun r hr => hfirst r (List.mem_cons_of_mem _ hr), (List.pairwise_cons.1 hrest).2⟩

/-- Joining ranges leaves the same code points in them. -/
theorem inAny_joinInto (h : Ascending (first :: ranges)) :
    inAny n (joinInto first ranges) = inAny n (first :: ranges) := by
  fun_induction joinInto first ranges with
  | case1 first => rfl
  | case2 first next rest hreach ih =>
    -- both ranges start where the first one does, so their union has no gap
    have hnext := (List.pairwise_cons.1 h).1 next List.mem_cons_self
    rw [ih (h.join _), inAny_cons, inAny_cons, inAny_cons, ← Bool.or_assoc]
    refine congrArg (· || _) (Bool.eq_iff_iff.2 ?_)
    simp only [Bool.and_eq_true, Bool.or_eq_true, decide_eq_true_eq]
    omega
  | case3 first next rest _ ih =>
    rw [inAny_cons, ih (List.pairwise_cons.1 h).2]
    rfl

/-- Joined ranges are in order and start no earlier than the first one did. -/
theorem ascending_joinInto (h : Ascending (first :: ranges)) :
    Ascending (joinInto first ranges) ∧ ∀ r ∈ joinInto first ranges, first.1 ≤ r.1 := by
  fun_induction joinInto first ranges with
  | case1 first => simp [Ascending]
  | case2 first next rest hreach ih => exact ih (h.join _)
  | case3 first next rest _ ih =>
    obtain ⟨hfirst, hrest⟩ := List.pairwise_cons.1 h
    obtain ⟨hjoined, hnext⟩ := ih hrest
    have hall : ∀ r ∈ joinInto next rest, first.1 ≤ r.1 := fun r hr =>
      Nat.le_trans (hfirst next List.mem_cons_self) (hnext r hr)
    exact ⟨List.pairwise_cons.2 ⟨hall, hjoined⟩, List.forall_mem_cons.2 ⟨Nat.le_refl _, hall⟩⟩

/-- The set of some ranges covers what they have in them, and its own ranges are ascending. -/
theorem inAny_ofRanges (n : Nat) (ranges : List (Nat × Nat)) :
    (ofRanges ranges).covers n = inAny n ranges ∧ Ascending (ofRanges ranges).ranges := by
  let sorted := (ranges.filter fun r => r.1 ≤ r.2).mergeSort fun a b => a.1 ≤ b.1
  have hascending : Ascending sorted := by
    have hpairwise : sorted.Pairwise fun a b => decide (a.1 ≤ b.1) = true :=
      List.pairwise_mergeSort (by simp only [decide_eq_true_eq]; omega)
        (by simp only [Bool.or_eq_true, decide_eq_true_eq]; omega) _
    exact hpairwise.imp of_decide_eq_true
  have hsorted : inAny n sorted = inAny n ranges := by
    have hperm := List.mergeSort_perm (ranges.filter fun r => r.1 ≤ r.2) fun a b => a.1 ≤ b.1
    rw [inAny, hperm.any_eq, List.any_filter, inAny]
    refine congrArg (ranges.any ·) (funext fun r => Bool.eq_iff_iff.2 ?_)
    simp only [Bool.and_eq_true, decide_eq_true_eq]
    omega
  show inAny n (join sorted) = _ ∧ Ascending (join sorted)
  rw [← hsorted]
  cases hcases : sorted with
  | nil => exact ⟨rfl, .nil⟩
  | cons first rest =>
    rw [hcases] at hascending
    exact ⟨inAny_joinInto hascending, (ascending_joinInto hascending).1⟩

theorem covers_ofRanges (n : Nat) (ranges : List (Nat × Nat)) :
    (ofRanges ranges).covers n = inAny n ranges :=
  (inAny_ofRanges n ranges).1

/-- Searching in order finds all that a set covers. -/
theorem has_ofRanges (c : Char) (ranges : List (Nat × Nat)) :
    (ofRanges ranges).has c = (ofRanges ranges).covers c.toNat := by
  rw [has, inRanges_eq (inAny_ofRanges c.toNat ranges).2, covers]

theorem has_union (c : Char) (s t : CodeSet) : (s.union t).has c = (s.union t).covers c.toNat :=
  has_ofRanges c _

theorem has_diff (c : Char) (s t : CodeSet) : (s.diff t).has c = (s.diff t).covers c.toNat :=
  has_ofRanges c _

theorem inAny_append {others : List (Nat × Nat)} :
    inAny n (ranges ++ others) = (inAny n ranges || inAny n others) :=
  List.any_append

theorem covers_union : (s.union t).covers n = (s.covers n || t.covers n) := by
  rw [union, covers_ofRanges, inAny_append]
  rfl

/-- The parts of a range beside one code point have all others in them. -/
theorem inAny_outside {point : Nat} (hpoint : point < 0xD7FF) (hn : n ≠ point) (low high : Nat) :
    inAny n (outside low high [(point, point)]) = (decide (low ≤ n) && n ≤ high) := by
  have hbefore : before point = point - 1 := if_neg (by omega)
  have hafter : after point = point + 1 := if_neg (by omega)
  rw [Bool.eq_iff_iff, Bool.and_eq_true, decide_eq_true_eq, decide_eq_true_eq]
  simp only [outside, hbefore, hafter]
  split_ifs <;> simp only [inAny, List.any_cons, List.any_nil, List.any_append, Bool.or_false,
    Bool.false_or, Bool.or_eq_true, Bool.and_eq_true, Bool.false_eq_true, false_iff,
    decide_eq_true_eq] <;> omega

/-- Taking one code point out of a set leaves all others in it. -/
theorem covers_diff {point : Nat} (hpoint : point < 0xD7FF) (ht : t.ranges = [(point, point)])
    (hn : n ≠ point) : (s.diff t).covers n = s.covers n := by
  rw [diff, covers_ofRanges, inAny, List.any_flatMap, ht]
  exact congrArg (s.ranges.any ·) (funext fun r => inAny_outside hpoint hn r.1 r.2)

/-- A table covers what its words have in them. -/
theorem covers_ofText (n : Nat) (text : List Char) :
    (ofText (String.ofList text)).covers n = inAny n (wordRanges text) := by
  rw [ofText, covers_ofRanges, tableWords, String.toList_ofList]
  rfl

end CodeSet

/-! ### Letters -/

namespace CodeSet

/-- A set without decimal digits. -/
def AvoidsDigits (s : CodeSet) : Prop :=
  s.Avoids 48 57

theorem AvoidsDigits.union {s t : CodeSet} (hs : s.AvoidsDigits) (ht : t.AvoidsDigits) :
    (s.union t).AvoidsDigits :=
  avoids_union (by decide) hs ht

theorem avoidsDigits_ofText (text : List Char)
    (h : (wordRanges text).all (isBeside 48 57) = true) :
    (ofText (String.ofList text)).AvoidsDigits :=
  avoids_ofText (by decide) text h

theorem AvoidsDigits.not_has {s : CodeSet} (h : s.AvoidsDigits) {c : Char}
    (hc : c.isDigit = true) : s.has c = false :=
  Avoids.not_has h (isDigit_iff.1 hc).1 (isDigit_iff.1 hc).2

end CodeSet

open CodeSet (AvoidsDigits avoidsDigits_ofText)

-- the characters of a table are listed one by one when its text is compared with a list
set_option maxRecDepth 20000 in
theorem avoidsDigits_uppercaseLetter : Category.uppercaseLetter.AvoidsDigits :=
  avoidsDigits_ofText _ (by decide +kernel)

set_option maxRecDepth 20000 in
theorem avoidsDigits_lowercaseLetter : Category.lowercaseLetter.AvoidsDigits :=
  avoidsDigits_ofText _ (by decide +kernel)

set_option maxRecDepth 20000 in
/-- No letter of any kind is a digit. -/
theorem avoidsDigits_letter : Category.letter.AvoidsDigits := by
  have htitle : Category.titlecaseLetter.AvoidsDigits := avoidsDigits_ofText _ (by decide +kernel)
  have hmodifier : Category.modifierLetter.AvoidsDigits :=
    avoidsDigits_ofText _ (by decide +kernel)
  have hother : Category.otherLetter.AvoidsDigits := avoidsDigits_ofText _ (by decide +kernel)
  have hcased := (avoidsDigits_uppercaseLetter.union avoidsDigits_lowercaseLetter).union htitle
  exact (hcased.union hmodifier).union hother

set_option maxRecDepth 20000 in
/-- Nothing that belongs to an alphabet is a digit. -/
theorem avoidsDigits_alphabetic : Property.alphabetic.AvoidsDigits := by
  have hlower : Property.otherLowercase.AvoidsDigits := avoidsDigits_ofText _ (by decide +kernel)
  have hupper : Property.otherUppercase.AvoidsDigits := avoidsDigits_ofText _ (by decide +kernel)
  have hnumber : Category.letterNumber.AvoidsDigits := avoidsDigits_ofText _ (by decide +kernel)
  have hother : Property.otherAlphabetic.AvoidsDigits := avoidsDigits_ofText _ (by decide +kernel)
  have hcased := (avoidsDigits_letter.union (avoidsDigits_lowercaseLetter.union hlower)).union
    (avoidsDigits_uppercaseLetter.union hupper)
  exact (hcased.union hnumber).union hother

end CommandTemplate.Text
