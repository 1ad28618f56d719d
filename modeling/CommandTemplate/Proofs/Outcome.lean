/-!
Computations that may fail.

A computation in several steps succeeds exactly if all of its steps do (`bind_eq_ok`), and what it
fails with comes from one of them (`bind_eq_error`).  A reader yields a value and what it leaves
over, which comes with a proof; `Gives x a u` says that the reader `x` succeeds with `a` and leaves
`u` over, whatever that proof is.
-/

namespace CommandTemplate

variable {ε α β σ : Type} {good : σ → Prop}

/-- A sequence succeeds if and only if both of its parts do. -/
theorem bind_eq_ok {x : Except ε α} {f : α → Except ε β} {b : β} :
    (x >>= f) = .ok b ↔ ∃ a, x = .ok a ∧ f a = .ok b := by
  constructor
  · intro h
    cases x with
    | error e => cases h
    | ok a => exact ⟨a, rfl, h⟩
  · rintro ⟨a, rfl, h⟩
    exact h

/-- A sequence fails with the fault of its first part, or else with that of its second. -/
theorem bind_eq_error {x : Except ε α} {f : α → Except ε β} {e : ε} :
    (x >>= f) = .error e ↔ x = .error e ∨ ∃ a, x = .ok a ∧ f a = .error e := by
  cases x with
  | error fault => simp [bind, Except.bind]
  | ok a => simp [bind, Except.bind]

/-- What is known of a value tells that there is one. -/
theorem exists_of_toOption {x : Except ε α} {f : α → β} {b : β}
    (h : x.toOption.map f = some b) : ∃ a, x = .ok a ∧ f a = b := by
  cases x with
  | error e => cases h
  | ok a => exact ⟨a, rfl, Option.some.inj h⟩

/-- What cannot fail is not at fault. -/
theorem error_of_bind {x : Except ε α} {f : α → Except ε β} {e : ε} (h : (x >>= f) = .error e)
    (hf : ∀ a, ∃ b, f a = .ok b) : x = .error e := by
  rcases bind_eq_error.1 h with h | ⟨a, -, h⟩
  · exact h
  · obtain ⟨b, hb⟩ := hf a
    cases hb.symm.trans h

def Gives (x : Except ε (α × Subtype good)) (a : α) (u : σ) : Prop :=
  ∃ v, x = .ok (a, v) ∧ v.1 = u

/-- A computation in front of a reader. -/
theorem gives_bind {x : Except ε β} {f : β → Except ε (α × Subtype good)} {a : α} {b : β} {u : σ}
    (hx : x = .ok b) (hf : Gives (f b) a u) : Gives (x >>= f) a u := by
  rw [hx]
  exact hf

end CommandTemplate
