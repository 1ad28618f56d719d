import CommandTemplate.Proofs.Evaluation.Agreement

/-!
Evaluations with a limit.

An evaluation `Follows` another one if it is exhausted or yields the same, after traces that are
related as those before were.  `evaluate_of_le` says that a limit is of no account where it is not
reached: what commands yield that call one another less than `n` times, they yield under every
higher limit.
-/

namespace CommandTemplate

open Parameters (AgreeOn)

namespace Evaluation

/-- What an evaluation yields after what was done so far. -/
def runFrom {α : Type} (x : Evaluation α) (trace : Trace) : Except Halt α × Trace :=
  StateT.run (ExceptT.run x) trace

variable {α β : Type}

/-- An evaluation goes on with the value and from the trace that the first part leaves. -/
theorem runFrom_bind (x : Evaluation α) (f : α → Evaluation β) (s : Trace) :
    (x >>= f).runFrom s =
      match x.runFrom s with
      | (.ok a, t) => (f a).runFrom t
      | (.error halt, t) => (.error halt, t) := by
  show (ExceptT.bindCont f (x.runFrom s).1).run (x.runFrom s).2 = _
  obtain ⟨result, t⟩ := x.runFrom s
  cases result <;> rfl

/-- Only an abort is caught; what is exhausted stays so. -/
theorem runFrom_orEmpty (x : Evaluation String) (s : Trace) :
    (orEmpty x).runFrom s =
      match x.runFrom s with
      | (.error .aborted, t) => (.ok "", t)
      | (.error .exhausted, t) => (.error .exhausted, t)
      | (.ok text, t) => (.ok text, t) := by
  show StateT.run (ExceptT.run (ExceptT.tryCatch x _)) s = _
  rw [ExceptT.tryCatch, ExceptT.run_mk, StateT.run_bind]
  show (x.runFrom s >>= fun r => _ : Id (Except Halt String × Trace)) = _
  generalize x.runFrom s = r
  obtain ⟨result, t⟩ := r
  cases result with
  | ok text => rfl
  | error halt => cases halt <;> rfl

theorem runFrom_map (f : α → β) (x : Evaluation α) (s : Trace) :
    (f <$> x).runFrom s = ((x.runFrom s).1.map f, (x.runFrom s).2) := by
  rw [map_eq_pure_bind, runFrom_bind]
  obtain ⟨result, t⟩ := x.runFrom s
  cases result <;> rfl

/-- Is the first evaluation exhausted, or else the same as the second? -/
def Follows (S : Trace → Trace → Prop) (α : Type) (x y : Evaluation α) : Prop :=
  ∀ s t, S s t → (x.runFrom s).1 = .error .exhausted ∨
    (x.runFrom s).1 = (y.runFrom t).1 ∧ S (x.runFrom s).2 (y.runFrom t).2

variable {S : Trace → Trace → Prop}

theorem follows_exhausted (y : Evaluation α) : Follows S α (throw .exhausted) y :=
  fun _ _ _ => .inl rfl

/-- The two ways in which an evaluation follows another one. -/
theorem Follows.cases {x y : Evaluation α} (h : Follows S α x y) {s t : Trace} (hst : S s t) :
    (∃ u, x.runFrom s = (.error .exhausted, u)) ∨
      ∃ result u v, x.runFrom s = (result, u) ∧ y.runFrom t = (result, v) ∧ S u v := by
  rcases h s t hst with hexhausted | ⟨hresult, htrace⟩
  · exact .inl ⟨(x.runFrom s).2, Prod.ext hexhausted rfl⟩
  · refine .inr ⟨(x.runFrom s).1, (x.runFrom s).2, (y.runFrom t).2, rfl, ?_, htrace⟩
    exact Prod.ext hresult.symm rfl

/-- Following goes along with all ways of putting evaluations together. -/
theorem congruence_follows : Congruence (Follows S) where
  pure a s t h := .inr ⟨rfl, h⟩
  abort s t h := .inr ⟨rfl, h⟩
  bind := by
    intro α β x y f g hxy hfg s t h
    rw [runFrom_bind, runFrom_bind]
    obtain ⟨u, hx⟩ | ⟨result, u, v, hx, hy, huv⟩ := hxy.cases h
    · rw [hx]
      exact .inl rfl
    · rw [hx, hy]
      cases result with
      | ok a => exact hfg a u v huv
      | error halt => exact .inr ⟨rfl, huv⟩
  orEmpty := by
    intro x y hxy s t h
    rw [runFrom_orEmpty, runFrom_orEmpty]
    obtain ⟨u, hx⟩ | ⟨result, u, v, hx, hy, huv⟩ := hxy.cases h
    · rw [hx]
      exact .inl rfl
    · rw [hx, hy]
      cases result with
      | ok text => exact .inr ⟨rfl, huv⟩
      | error halt => cases halt <;> exact .inr ⟨rfl, huv⟩

theorem follows_rfl (x : Evaluation α) : Follows Eq α x x := by
  rintro s _ rfl
  exact .inr ⟨rfl, rfl⟩

/-- What follows an evaluation that is not exhausted is the same. -/
theorem Follows.runFrom_eq {x y : Evaluation α} (h : Follows Eq α x y) {s : Trace}
    (hx : (x.runFrom s).1 ≠ .error .exhausted) : y.runFrom s = x.runFrom s := by
  obtain ⟨hresult, htrace⟩ := (h s s rfl).resolve_left hx
  exact Prod.ext hresult.symm htrace.symm

end Evaluation

open Evaluation

/-! ### Limits -/

/-- Parameters that agree on all names yield the same or are exhausted before. -/
theorem simulation_follows (context : Context) :
    Simulation (Follows Eq) (AgreeOn (fun _ => True) context) :=
  AgreeOn.simulation congruence_follows context.matcherReads_all (fun _ => follows_rfl _)
    (fun _ _ _ => follows_rfl _) fun _ _ _ _ _ => follows_rfl _

/-- All nodes are covered if the commands follow one another. -/
theorem covers_follows {callCommand callCommand' : Template → Evaluator} {context : Context}
    (hcall : ∀ template, Evaluator.Related (Follows Eq) (AgreeOn (fun _ => True) context)
      (callCommand template) (callCommand' template)) (nodes : List Item) :
    Simulation.Covers (Follows Eq) (AgreeOn (fun _ => True) context) callCommand callCommand'
      nodes :=
  AgreeOn.covers (simulation_follows context) (fun _ _ => trivial) fun _ template _ =>
    hcall template

namespace Template

/-- How commands are evaluated with a limit. -/
def call : Nat → Template → Evaluator
  | 0 => fun _ _ => throw .exhausted
  | depth + 1 => evaluate depth

/-- A limit is of no account but to calls of commands. -/
theorem evaluate_eq (depth : Nat) (t : Template) :
    t.evaluate depth = Item.evaluateAll (call depth) t := by
  cases depth <;> rfl

/-- The texts of the items of a template, where commands are evaluated in a given way. -/
def texts (callCommand : Template → Evaluator) (t : Template) (p : Parameters) :
    Evaluation (List String) :=
  textsOf p (t.map (Item.evaluate callCommand))

/-- With a higher limit an evaluation goes on where it was exhausted, and else does the same. -/
theorem follows_of_le {n m : Nat} (h : n ≤ m) (context : Context) (t : Template) :
    Evaluator.Related (Follows Eq) (AgreeOn (fun _ => True) context) (t.evaluate n)
      (t.evaluate m) := by
  induction n generalizing m t with
  | zero =>
    -- where a command is called, the limit is reached
    rw [evaluate_eq, evaluate_eq]
    exact (simulation_follows context).items
      (covers_follows (fun _ _ _ _ => follows_exhausted _) _) t fun node hnode => hnode
  | succ n ih =>
    obtain ⟨m, rfl⟩ := Nat.exists_eq_add_of_le' (Nat.one_le_of_lt h)
    exact (simulation_follows context).items
      (covers_follows (fun template => ih (Nat.le_of_succ_le_succ h) template) _) t
      fun node hnode => hnode

/-- A limit that is not reached may be raised. -/
theorem evaluate_of_le {n m : Nat} (h : n ≤ m) {t : Template} {p : Parameters} {s : Trace}
    (ht : ((t.evaluate n p).runFrom s).1 ≠ .error .exhausted) :
    (t.evaluate m p).runFrom s = (t.evaluate n p).runFrom s :=
  (follows_of_le h p.context t p p (.refl p)).runFrom_eq ht

/-- How commands are evaluated does not matter to a template that calls none. -/
theorem texts_of_uncalled {t : Template} {p : Parameters} {s : Trace}
    (ht : ((t.texts (call 0) p).runFrom s).1 ≠ .error .exhausted)
    (callCommand : Template → Evaluator) :
    (t.texts callCommand p).runFrom s = (t.texts (call 0) p).runFrom s := by
  have hsimulation := simulation_follows p.context
  have hitems : List.Forall₂ (Evaluator.Related (Follows Eq) (AgreeOn (fun _ => True) p.context))
      (t.map (Item.evaluate (call 0))) (t.map (Item.evaluate callCommand)) := by
    rw [List.forall₂_map_left_iff, List.forall₂_map_right_iff, List.forall₂_same]
    exact fun item _ => hsimulation.item
      (covers_follows (fun _ _ _ _ => follows_exhausted _) item.nodes) item fun _ hnode => hnode
  exact (hsimulation.stepwise.textsOf (.refl p) hitems).runFrom_eq ht

end Template

end CommandTemplate
