import CommandTemplate.Proofs.Evaluation.Limit

/-!
What holds of the queries of an evaluation.

An evaluation `Keeps I` if the queries made up to its end are such as `I` says whenever those made
before it are.  That goes along with all steps, so it holds of a whole template if it holds of the
two steps that make queries (`Item.keeps_evaluateAll`), and these are asked for only where there are
nodes of their kind.
-/

namespace CommandTemplate

open Parameters (AgreeOn)

namespace Evaluation

variable {α : Type} {I : List Query → Prop}

/-- Is what `I` says of the queries made so far true afterwards if it was before? -/
def Keeps (I : List Query → Prop) (x : Evaluation α) : Prop :=
  ∀ s, I s.queries → I (x.runFrom s).2.queries

theorem keeps_pure (a : α) : (pure a : Evaluation α).Keeps I :=
  fun _ hs => hs

theorem keeps_abort : (abort : Evaluation α).Keeps I :=
  fun _ hs => hs

theorem keeps_exhausted : (throw .exhausted : Evaluation α).Keeps I :=
  fun _ hs => hs

theorem keeps_draw (chance : Nat → Nat) : (draw chance).Keeps I :=
  fun _ hs => hs

theorem keeps_ofOption (a : Option α) : (ofOption a).Keeps I := by
  cases a with
  | none => exact keeps_abort
  | some a => exact keeps_pure a

/-- A query is made after those that were made before. -/
theorem keeps_ask {query : Query} (h : ∀ made, I made → I (made ++ [query]))
    (answer : List Query → α) : (ask query answer).Keeps I :=
  fun s hs => h s.queries hs

/-- What is kept by the parts of an evaluation is kept by the whole. -/
theorem congruence_keeps (I : List Query → Prop) : Congruence fun _ x _ => x.Keeps I where
  pure := keeps_pure
  abort := keeps_abort
  bind := by
    intro α β x _ f _ hx hf s hs
    have hxs := hx s hs
    rw [runFrom_bind]
    generalize x.runFrom s = r at hxs
    obtain ⟨result, t⟩ := r
    -- what comes second is left out if the first part halts
    cases result with
    | ok a => exact hf a t hxs
    | error halt => exact hxs
  orEmpty := by
    intro x _ hx s hs
    have hxs := hx s hs
    rw [runFrom_orEmpty]
    generalize x.runFrom s = r at hxs
    obtain ⟨result, t⟩ := r
    rcases result with (_ | _) | _ <;> exact hxs

/-- What two evaluations keep, they keep one after the other. -/
theorem Keeps.bind {β : Type} {x : Evaluation α} {f : α → Evaluation β} (hx : x.Keeps I)
    (hf : ∀ a, (f a).Keeps I) : (x >>= f).Keeps I :=
  (congruence_keeps I).bind (y := x) (g := f) hx hf

theorem Keeps.orEmpty {x : Evaluation String} (hx : x.Keeps I) : (orEmpty x).Keeps I :=
  (congruence_keeps I).orEmpty (y := x) hx

end Evaluation

open Evaluation

/-! ### Templates -/

theorem stepwise_keeps (I : List Query → Prop) (context : Context) :
    Stepwise (Alone fun _ => Keeps I) (AgreeOn (fun _ => True) context) :=
  AgreeOn.stepwise keeps_pure keeps_abort Keeps.bind keeps_draw context

/-- Nodes are covered if the commands keep what `I` says and so do the two steps that make queries,
each of them where there are nodes of its kind. -/
theorem covers_keeps {I : List Query → Prop} {context : Context}
    {callCommand : Template → Evaluator} {nodes : List Item}
    (hcall : ∀ name template, context.template? name = some template →
      ∀ p : Parameters, p.context = context → (callCommand template p).Keeps I)
    (hfetch : ∀ arguments required, .call .request arguments required ∈ nodes →
      ∀ shows trims address, (fetched context required shows trims address).Keeps I)
    (hprompt : ∀ arguments required, .call .input arguments required ∈ nodes →
      ∀ kind message initial, (prompted context kind message initial).Keeps I) :
    Stepwise.Covers (Alone fun _ => Keeps I) (AgreeOn (fun _ => True) context) callCommand
      callCommand nodes where
  identifier _ _ _ hR := hR.values _ trivial
  escaped _ _ _ hR := by rw [hR.left, hR.right]
  replacement _ hitem _ _ hR := Keeps.orEmpty (hitem _ _ hR)
  call {builtin arguments required} hnode hargs p q hR := by
    have h := stepwise_keeps I context
    -- what the functions do on their own is asked for one by one
    refine h.builtin hR builtin (h.demand required) hargs ?_ ?_ ?_ ?_
    · rintro -
      exact Keeps.orEmpty (h.argumentAt hargs 0 p q hR)
    · rintro -
      refine h.replacing hR hargs fun name template htemplate p' _ hR' => ?_
      rw [hR.left] at htemplate
      exact hcall name template htemplate p' hR'.left
    · rintro rfl
      rw [hR.left]
      exact hfetch arguments required hnode
    · rintro rfl
      rw [hR.left]
      exact hprompt arguments required hnode

/-- Items keep what `I` says if the commands do that they call, and the services. -/
theorem Item.keeps_evaluateAll {I : List Query → Prop} {callCommand : Template → Evaluator}
    {items : List Item} {p : Parameters}
    (hcall : ∀ name template, p.context.template? name = some template →
      ∀ q : Parameters, q.context = p.context → (callCommand template q).Keeps I)
    (hfetch : ∀ arguments required, .call .request arguments required ∈ Item.nodesOfItems items →
      ∀ shows trims address, (fetched p.context required shows trims address).Keeps I)
    (hprompt : ∀ arguments required, .call .input arguments required ∈ Item.nodesOfItems items →
      ∀ kind message initial, (prompted p.context kind message initial).Keeps I) :
    (Item.evaluateAll callCommand items p).Keeps I := by
  have hcovers := covers_keeps hcall hfetch hprompt
  exact (stepwise_keeps I p.context).items hcovers items (fun _ hnode => hnode) p p (.refl p)

end CommandTemplate
