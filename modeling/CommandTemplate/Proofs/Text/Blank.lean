import CommandTemplate.Proofs.Text.Character
import CommandTemplate.Text.Blank
import Mathlib.Data.List.Basic

/-!
Texts without blanks at their ends.
-/

namespace CommandTemplate.Text

theorem isBlank_of_isDigit {c : Char} (h : c.isDigit = true) : isBlank c = false := by
  rw [isDigit_iff] at h
  rw [← Bool.not_eq_true]
  simp only [isBlank, Bool.or_eq_true, Bool.and_eq_true, decide_eq_true_eq, beq_iff_eq]
  omega

/-- What is left of a list, and the items at its end. -/
theorem exists_dropEndWhile_append {α : Type} (p : α → Bool) (s : List α) :
    ∃ back, s = dropEndWhile p s ++ back ∧ ∀ a ∈ back, p a = true := by
  refine ⟨(s.reverse.takeWhile p).reverse, ?_, fun a ha => ?_⟩
  · rw [dropEndWhile, ← List.reverse_append, List.takeWhile_append_dropWhile, List.reverse_reverse]
  · exact List.all_eq_true.1 List.all_takeWhile a (List.mem_reverse.1 ha)

/-- What is left of a list ends with another item. -/
theorem of_mem_getLast?_dropEndWhile {α : Type} {p : α → Bool} {s : List α} {a : α}
    (h : a ∈ (dropEndWhile p s).getLast?) : p a = false := by
  have hstop := List.head?_dropWhile_not p s.reverse
  rw [dropEndWhile, List.getLast?_reverse] at h
  rw [h] at hstop
  exact hstop

/-- A list that does not end with such an item is left as it is. -/
theorem dropEndWhile_eq_self {α : Type} {p : α → Bool} {s : List α}
    (h : ∀ a ∈ s.getLast?, p a = false) : dropEndWhile p s = s := by
  have hreverse : s.reverse.dropWhile p = s.reverse := by
    rw [← List.head?_reverse] at h
    cases hs : s.reverse with
    | nil => rfl
    | cons a t =>
      rw [hs] at h
      rw [List.dropWhile_cons_of_neg (by simp [h a rfl])]
  rw [dropEndWhile, hreverse, List.reverse_reverse]

/-- All such items at the end are left out. -/
theorem dropEndWhile_append {α : Type} {p : α → Bool} {s back : List α}
    (h : ∀ a ∈ back, p a = true) : dropEndWhile p (s ++ back) = dropEndWhile p s := by
  rw [dropEndWhile, List.reverse_append, List.dropWhile_append_of_pos, dropEndWhile]
  exact fun a ha => h a (List.mem_reverse.1 ha)

variable {s : List Char}

/-- A text with other characters at both ends is left as it is. -/
theorem trimChars_eq_self_of_ends (hfirst : ∀ c ∈ s.head?, isBlank c = false)
    (hlast : ∀ c ∈ s.getLast?, isBlank c = false) : trimChars s = s := by
  have hfront : s.dropWhile isBlank = s := by
    cases s with
    | nil => rfl
    | cons c s => rw [List.dropWhile_cons_of_neg (by simp [hfirst c rfl])]
  rw [trimChars, hfront, dropEndWhile_eq_self hlast]

/-- A text without blanks is left as it is. -/
theorem trimChars_eq_self (h : ∀ c ∈ s, isBlank c = false) : trimChars s = s :=
  trimChars_eq_self_of_ends (fun c hc => h c (List.mem_of_mem_head? hc))
    fun c hc => h c (List.mem_of_getLast? hc)

/-- What is left of a text does not end with a blank. -/
theorem not_isBlank_of_mem_getLast? {c : Char} (h : c ∈ (trimChars s).getLast?) :
    isBlank c = false :=
  of_mem_getLast?_dropEndWhile h

/-- Trimming only takes characters away. -/
theorem trimChars_sublist (s : List Char) : (trimChars s).Sublist s := by
  rw [trimChars, dropEndWhile, ← List.reverse_sublist, List.reverse_reverse]
  exact (List.dropWhile_sublist _).trans (List.dropWhile_sublist _).reverse

theorem trimChars_cons_of_isBlank {c : Char} (h : isBlank c = true) :
    trimChars (c :: s) = trimChars s := by
  rw [trimChars, List.dropWhile_cons_of_pos h, trimChars]

/-- What a text starts with stays in front if it is not blank. -/
theorem exists_trimChars_cons {c : Char} (h : isBlank c = false) :
    ∃ t, trimChars (c :: s) = c :: t := by
  rw [trimChars, List.dropWhile_cons_of_neg (by simp [h]), dropEndWhile, List.reverse_cons,
    List.dropWhile_append]
  split
  · refine ⟨[], ?_⟩
    rw [List.dropWhile_cons_of_neg (by simp [h])]
    rfl
  · exact ⟨_, by rw [List.reverse_append]; rfl⟩

/-- What is left of a text does not start with a blank. -/
theorem not_isBlank_of_mem_head? {c : Char} (h : c ∈ (trimChars s).head?) : isBlank c = false := by
  have hstop := List.head?_dropWhile_not isBlank s
  cases hrest : s.dropWhile isBlank with
  | nil =>
    rw [trimChars, hrest] at h
    cases h
  | cons b rest =>
    rw [hrest] at hstop
    have hb : isBlank b = false := hstop
    have htrim : trimChars s = trimChars (b :: rest) := by
      rw [trimChars, trimChars, hrest, List.dropWhile_cons_of_neg (by simp [hb])]
    obtain ⟨t, ht⟩ := exists_trimChars_cons (s := rest) hb
    rw [htrim, ht] at h
    cases h
    exact hb

/-- There is nothing left to trim in a trimmed text. -/
theorem trim_trim (s : String) : trim (trim s) = trim s := by
  rw [trim, trim, String.toList_ofList]
  exact congrArg String.ofList (trimChars_eq_self_of_ends (fun _ => not_isBlank_of_mem_head?)
    fun _ => not_isBlank_of_mem_getLast?)

/-- A text is trimmed if and only if there is no blank at either end. -/
theorem trim_eq_self_iff {s : String} : trim s = s ↔
    (∀ c ∈ s.toList.head?, isBlank c = false) ∧ ∀ c ∈ s.toList.getLast?, isBlank c = false := by
  rw [trim, ← String.toList_inj, String.toList_ofList]
  constructor
  · intro h
    rw [← h]
    exact ⟨fun _ => not_isBlank_of_mem_head?, fun _ => not_isBlank_of_mem_getLast?⟩
  · exact fun h => trimChars_eq_self_of_ends h.1 h.2

/-- There are no blanks at the ends of two texts that have none there. -/
theorem trim_append {front s : String} (hfront : ∀ c ∈ front.toList.head?, isBlank c = false)
    (hs : trim s = s) (hne : s ≠ "") : trim (front ++ s) = front ++ s := by
  obtain ⟨hhead, hlast⟩ := trim_eq_self_iff.1 hs
  rw [trim_eq_self_iff, String.toList_append]
  refine ⟨fun c hc => ?_, fun c hc => ?_⟩
  · rw [List.head?_append] at hc
    rcases Option.or_eq_some_iff.1 hc with hc | hc
    · exact hfront c hc
    · exact hhead c hc.2
  · have hchars : s.toList ≠ [] := by simpa using hne
    rw [List.getLast?_append_of_ne_nil _ hchars] at hc
    exact hlast c hc

/-- Taking items off the front leaves the last one, if it is none of them. -/
theorem mem_getLast?_dropWhile_iff {α : Type} {p : α → Bool} {s : List α} {a : α}
    (ha : p a = false) : a ∈ (s.dropWhile p).getLast? ↔ a ∈ s.getLast? := by
  have hall : a ∉ (s.takeWhile p).getLast? := fun h =>
    Bool.false_ne_true (ha.symm.trans
      (List.all_eq_true.1 List.all_takeWhile a (List.mem_of_getLast? h)))
  have hparts := congrArg List.getLast? (List.takeWhile_append_dropWhile (p := p) (l := s))
  rw [List.getLast?_append] at hparts
  rw [← hparts]
  simp only [Option.mem_def, Option.or_eq_some_iff] at hall ⊢
  exact ⟨.inl, fun h => h.elim id fun h => absurd h.2 hall⟩

/-- Taking a character off the front comes to the same before and after trimming only if there is
nothing to be trimmed. -/
theorem trimStartOf_trim_iff {c : Char} (hc : isBlank c = false) {s : String} :
    trimStartOf c s = trimStartOf c (trim s) ↔ trim s = s := by
  refine ⟨fun h => trim_eq_self_iff.2 ⟨fun b hb => ?_, fun b hb => ?_⟩, fun h => by rw [h]⟩
  all_goals
    rw [trimStartOf, trimStartOf, String.ofList_inj, trim, String.toList_ofList] at h
    rw [← Bool.not_eq_true]
    intro hblank
    have hother : (b == c) = false := by
      rw [beq_eq_false_iff_ne]
      rintro rfl
      exact Bool.false_ne_true (hc.symm.trans hblank)
  · -- The text is longer than what trimming leaves of it.
    obtain ⟨rest, hrest⟩ := List.head?_eq_some_iff.1 hb
    rw [hrest, List.dropWhile_cons_of_neg (by simp [hother]), trimChars_cons_of_isBlank hblank] at h
    have hlength := ((List.dropWhile_sublist (· == c)).trans (trimChars_sublist rest)).length_le
    rw [← h, List.length_cons] at hlength
    omega
  · -- The text ends with a blank, and what trimming leaves of it does not.
    have hlast := (mem_getLast?_dropWhile_iff (p := (· == c)) hother).2 hb
    rw [h, mem_getLast?_dropWhile_iff (p := (· == c)) hother] at hlast
    exact Bool.false_ne_true ((not_isBlank_of_mem_getLast? hlast).symm.trans hblank)

end CommandTemplate.Text
