import CommandTemplate.Text.Scanner

/-!
What the readers of a scanner do.

`Scanner.run` and `Scanner.accept` are described without the proofs that they carry: a run takes
the longest front whose characters satisfy a test (`run_append`), and a character is accepted
exactly where it comes next (`accept_cons`, `of_accept`).
-/

namespace CommandTemplate.Text.Scanner

/-! ### One character -/

@[simp] theorem peek?_cons {c : Char} {rest : List Char} {p : Nat} :
    peek? ⟨c :: rest, p⟩ = some c := rfl

/-- A scanner with a next character. -/
theorem eq_cons_of_peek? {s : Scanner} {c : Char} (h : s.peek? = some c) :
    ∃ rest, s = ⟨c :: rest, s.position⟩ := by
  obtain ⟨rest, p⟩ := s
  cases rest with
  | nil => cases h
  | cons d rest => cases h; exact ⟨rest, rfl⟩

/-- A character that comes next is accepted. -/
theorem accept_cons (c : Char) (rest : List Char) (p : Nat) :
    ∃ h, accept c ⟨c :: rest, p⟩ = some ⟨⟨rest, p + 1⟩, h⟩ := by
  simp [accept, LeadsTo.step, LeadsTo.refl]

theorem exists_accept {c : Char} {s : Scanner} (h : s.peek? = some c) :
    ∃ t, s.accept c = some t := by
  obtain ⟨rest, hs⟩ := eq_cons_of_peek? h
  rw [hs]
  obtain ⟨ht, hk⟩ := accept_cons c rest s.position
  exact ⟨_, hk⟩

/-- Nothing is accepted but what comes next. -/
theorem accept_eq_none {c : Char} {s : Scanner} (h : s.peek? ≠ some c) : s.accept c = none := by
  obtain ⟨rest, p⟩ := s
  cases rest with
  | nil => rfl
  | cons d rest =>
    have hd : d ≠ c := fun hd => h (hd ▸ rfl)
    simp [accept, hd]

/-- What is accepted stands at the front. -/
theorem of_accept {c : Char} {s : Scanner} {t : Past s} (h : s.accept c = some t) :
    ∃ rest p, s = ⟨c :: rest, p⟩ ∧ t.1 = ⟨rest, p + 1⟩ := by
  obtain ⟨rest, p⟩ := s
  cases rest with
  | nil => cases h
  | cons d rest =>
    by_cases hd : d = c
    · subst hd
      obtain ⟨_, hk⟩ := accept_cons d rest p
      cases Option.some.inj (hk.symm.trans h)
      exact ⟨rest, p, rfl, rfl⟩
    · simp [accept, hd] at h

theorem peek?_ne_of_accept {c : Char} {s : Scanner} (h : s.accept c = none) :
    s.peek? ≠ some c := by
  intro hp
  obtain ⟨t, ht⟩ := exists_accept hp
  cases h.symm.trans ht

/-! ### Runs of characters -/

/-- The characters at the front that satisfy a test, and the scanner after them. -/
def run (p : Char → Bool) (s : Scanner) : List Char × Scanner :=
  ((s.readWhile p).1, (s.readWhile p).2.1)

/-- A run ends where a character follows that does not satisfy the test. -/
theorem run_append {p : Char → Bool} {text rest : List Char} {q : Nat}
    (hall : ∀ c ∈ text, p c = true) (hend : ∀ c ∈ rest.head?, p c = false) :
    run p ⟨text ++ rest, q⟩ = (text, ⟨rest, q + text.length⟩) := by
  show ((readWhileFrom p (text ++ rest) q).1, (readWhileFrom p (text ++ rest) q).2.1) = _
  induction text generalizing q with
  | nil =>
    cases rest with
    | nil => rfl
    | cons c rest =>
      have hc : p c = false := hend c rfl
      simp [readWhileFrom, hc, After.none]
  | cons c text ih =>
    have hc : p c = true := hall c List.mem_cons_self
    have ht := ih (q := q + 1) fun d hd => hall d (List.mem_cons_of_mem c hd)
    simp only [Prod.mk.injEq] at ht
    simp only [List.cons_append, readWhileFrom, hc, if_true, After.behind, ht.1, ht.2,
      List.length_cons, Prod.mk.injEq, Scanner.mk.injEq, true_and]
    omega

/-- The characters of a run satisfy its test. -/
theorem of_mem_run {p : Char → Bool} {s : Scanner} {c : Char} (h : c ∈ (s.run p).1) :
    p c = true := by
  obtain ⟨rest, q⟩ := s
  simp only [run, readWhile] at h
  induction rest generalizing q with
  | nil => cases h
  | cons d rest ih =>
    simp only [readWhileFrom] at h
    split at h
    · next hd =>
      rcases List.mem_cons.1 h with rfl | h
      · exact hd
      · exact ih _ h
    · cases h

theorem leadsTo_run (p : Char → Bool) (s : Scanner) : LeadsTo s (s.run p).2 :=
  (s.readWhile p).2.2

/-- What was there is the run and what is left. -/
theorem rest_eq_run_append (p : Char → Bool) (s : Scanner) :
    s.rest = (s.run p).1 ++ (s.run p).2.rest := by
  obtain ⟨rest, q⟩ := s
  simp only [run, readWhile]
  induction rest generalizing q with
  | nil => rfl
  | cons c rest ih =>
    simp only [readWhileFrom]
    split
    · exact congrArg (c :: ·) (ih (q + 1))
    · rfl

/-- A run ends at a character that does not satisfy its test. -/
theorem of_mem_peek?_run {p : Char → Bool} {s : Scanner} {c : Char} (h : c ∈ (s.run p).2.peek?) :
    p c = false := by
  obtain ⟨rest, q⟩ := s
  simp only [run, readWhile] at h
  induction rest generalizing q with
  | nil => cases h
  | cons d rest ih =>
    simp only [readWhileFrom] at h
    split at h
    · exact ih _ h
    · next hd =>
      cases h
      exact Bool.eq_false_iff.2 hd

end CommandTemplate.Text.Scanner
