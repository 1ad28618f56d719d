import CommandTemplate.Proofs.Evaluation.Steps

/-!
Comparing two evaluations of one template.

The evaluations have different parameters or call commands in different ways, but they go through
the same steps.  A `Congruence` is a way to compare evaluations that goes along with the steps;
a `Simulation` is one together with a way to compare parameters which leaves nothing for a built-in
function to see but values by their names.  `Simulation.item` is the statement that all else rests
on: where the nodes of an item are `Covered`, its evaluations compare.  What is special to a purpose
is how identifiers, escaped items and the calls of commands compare.
-/

namespace CommandTemplate

open Evaluation

/-- A way to compare evaluations that goes along with the steps they are made of. -/
structure Evaluation.Congruence (E : (α : Type) → Evaluation α → Evaluation α → Prop) : Prop where
  pure {α : Type} (a : α) : E α (pure a) (pure a)
  abort {α : Type} : E α abort abort
  bind {α β : Type} {x y : Evaluation α} {f g : α → Evaluation β} :
    E α x y → (∀ a, E β (f a) (g a)) → E β (x >>= f) (y >>= g)
  orEmpty {x y : Evaluation String} : E String x y → E String (orEmpty x) (orEmpty y)

/-- A way to compare evaluations and a way to compare the parameters that they start from. -/
structure Simulation (E : (α : Type) → Evaluation α → Evaluation α → Prop)
    (R : Parameters → Parameters → Prop) : Prop extends Congruence E where
  arguments {p q : Parameters} : R p q → p.arguments = q.arguments
  document {p q : Parameters} : R p q → p.document = q.document
  context {p q : Parameters} : R p q → ∃ escapes, q.context = { p.context with escapes }
  matches_rule {p q : Parameters} : R p q → ∀ rule, matchesRule p rule = matchesRule q rule
  withDocument {p q : Parameters} :
    R p q → ∀ document, R (p.withDocument document) (q.withDocument document)
  forMatch {p q : Parameters} :
    R p q → ∀ whole groups, R (p.forMatch whole groups) (q.forMatch whole groups)
  draw (chance : Nat → Nat) : E Nat (draw chance) (draw chance)
  fetch {p q : Parameters} : R p q → ∀ fetcher ∈ p.context.fetcher, ∀ address,
    E Response (ask (.fetch address fetchLabel) (fetcher · address))
      (ask (.fetch address fetchLabel) (fetcher · address))
  prompt {p q : Parameters} : R p q → ∀ prompt ∈ p.context.prompt, ∀ kind message initial,
    E (Option String) (ask (.prompt kind message initial) (prompt · kind message initial))
      (ask (.prompt kind message initial) (prompt · kind message initial))

/-- How the nodes compare for which a simulation alone does not say it. -/
structure Simulation.Covers (E : (α : Type) → Evaluation α → Evaluation α → Prop)
    (R : Parameters → Parameters → Prop) (callCommand callCommand' : Template → Evaluator)
    (nodes : List Item) : Prop where
  identifier {name : String} : .identifier name ∈ nodes →
    ∀ {p q : Parameters}, R p q → p.get? name = q.get? name
  escaped {item : Item} : .escaped item ∈ nodes →
    ∀ {p q : Parameters}, R p q → p.context.escapes = q.context.escapes
  replace {arguments : List Template} {required : Bool} :
    .call .replace arguments required ∈ nodes →
    List.Forall₂ (Evaluator.Related E R) (Item.evaluators callCommand arguments)
      (Item.evaluators callCommand' arguments) →
    ∀ {p q : Parameters}, R p q → ∀ text search,
      E String (replacing callCommand (Item.evaluators callCommand arguments) text search p)
        (replacing callCommand' (Item.evaluators callCommand' arguments) text search q)

namespace Simulation

variable {E : (α : Type) → Evaluation α → Evaluation α → Prop} {R : Parameters → Parameters → Prop}
  {p q : Parameters} {callCommand callCommand' : Template → Evaluator} {nodes : List Item}

/-- A simulation goes along with single steps. -/
theorem stepwise (h : Simulation E R) : Stepwise E R where
  pure := h.pure
  abort := h.abort
  bind := h.bind
  draw := h.draw
  arguments := h.arguments
  document := h.document
  context := h.context
  matches_rule := h.matches_rule
  withDocument := h.withDocument
  forMatch := h.forMatch

/-! ### Services -/

/-- Fetching is the same step on both sides. -/
protected theorem fetched (h : Simulation E R) (hR : R p q) (required shows trims : Bool)
    (address : String) :
    E String (fetched p.context required shows trims address)
      (fetched q.context required shows trims address) :=
  h.stepwise.fetched hR (h.stepwise.demand required) (h.fetch hR) shows trims address

/-- Prompting is the same step on both sides. -/
protected theorem prompted (h : Simulation E R) (hR : R p q) (kind message initial : String) :
    E String (prompted p.context kind message initial)
      (prompted q.context kind message initial) := by
  obtain ⟨escapes, hcontext⟩ := h.context hR
  have hq : prompted q.context kind message initial =
      prompted p.context kind message initial := by rw [hcontext]; rfl
  rw [hq]
  unfold prompted
  cases hprompt : p.context.prompt with
  | none => exact h.abort
  | some prompt =>
    exact h.bind (h.prompt hR prompt hprompt kind message initial) h.stepwise.ofOption

/-! ### Items -/

/-- A simulation leaves only the replacements among the calls open. -/
theorem Covers.stepwise (hnodes : Covers E R callCommand callCommand' nodes) (h : Simulation E R) :
    Stepwise.Covers E R callCommand callCommand' nodes where
  identifier := hnodes.identifier
  escaped := hnodes.escaped
  replacement _ hitem _ _ hR := h.orEmpty (hitem _ _ hR)
  call {builtin _ required} hnode hargs p q hR := by
    refine h.stepwise.builtin hR builtin (h.stepwise.demand required) hargs (fun _ => ?_) ?_
      (fun _ => h.fetched hR required) (fun _ => h.prompted hR)
    · exact h.orEmpty (h.stepwise.argumentAt hargs 0 p q hR)
    · rintro rfl text search
      exact hnodes.replace hnode hargs hR text search

theorem item (h : Simulation E R) (hnodes : Covers E R callCommand callCommand' nodes) (item : Item)
    (hsub : ∀ node ∈ item.nodes, node ∈ nodes) :
    Evaluator.Related E R (item.evaluate callCommand) (item.evaluate callCommand') :=
  h.stepwise.item (hnodes.stepwise h) item hsub

theorem items (h : Simulation E R) (hnodes : Covers E R callCommand callCommand' nodes)
    (items : List Item) (hsub : ∀ node ∈ Item.nodesOfItems items, node ∈ nodes) :
    Evaluator.Related E R (Item.evaluateAll callCommand items)
      (Item.evaluateAll callCommand' items) :=
  h.stepwise.items (hnodes.stepwise h) items hsub

end Simulation

end CommandTemplate
