import CommandTemplate.Proofs.Evaluation.Fetching
import CommandTemplate.Proofs.Evaluation.Requiring

/-!
What the required flag does.

A required item may be aborted where the same item without its flag is not, and that is all: an
evaluation `Cuts` another one if it either goes the same way or is aborted on it.  This goes along
with all steps, since what follows on an abort only adds queries (`Extends`), so the flags of a call
may be compared by `Stepwise.builtin`.  `Item.runFrom_requiring` is the statement for single items,
whatever they call.
-/

namespace CommandTemplate

open Evaluation

namespace Evaluation

variable {α β : Type}

/-! ### Queries are only added -/

/-- Do the queries made before stay the first ones? -/
def Extends (x : Evaluation α) : Prop :=
  ∀ made, x.Keeps fun queries => made <+: queries

theorem prefix_append_of_prefix {made queries : List Query} (query : Query)
    (h : made <+: queries) : made <+: queries ++ [query] :=
  h.trans (List.prefix_append queries [query])

/-- What was asked before comes first afterwards. -/
theorem Extends.prefix_runFrom {x : Evaluation α} (h : x.Extends) (s : Trace) :
    s.queries <+: (x.runFrom s).2.queries :=
  h s.queries s (List.prefix_refl _)

/-- Two evaluations that only add queries do so one after the other. -/
theorem Extends.bind {x : Evaluation α} {f : α → Evaluation β} (hx : x.Extends)
    (hf : ∀ a, (f a).Extends) : (x >>= f).Extends :=
  fun made => Keeps.bind (hx made) fun a => hf a made

theorem extends_ask (query : Query) (answer : List Query → α) : (ask query answer).Extends :=
  fun _ => keeps_ask (fun _ => prefix_append_of_prefix query) answer

/-! ### Aborting on the way -/

/-- Does the first evaluation go the same way as the second, or is it aborted on it? -/
structure Cuts (α : Type) (x y : Evaluation α) : Prop where
  sameOrAborted : ∀ s, x.runFrom s = y.runFrom s ∨
    (x.runFrom s).1 = .error .aborted ∧ (x.runFrom s).2.queries <+: (y.runFrom s).2.queries
  extends_right : y.Extends

theorem Extends.cuts {x : Evaluation α} (h : x.Extends) : Cuts α x x :=
  ⟨fun _ => .inl rfl, h⟩

/-- What follows is cut where the first part was, or goes on in the same way. -/
theorem Cuts.bind {x y : Evaluation α} {f g : α → Evaluation β} (hxy : Cuts α x y)
    (hfg : ∀ a, Cuts β (f a) (g a)) : Cuts β (x >>= f) (y >>= g) := by
  refine ⟨fun s => ?_, hxy.extends_right.bind fun a => (hfg a).extends_right⟩
  rw [runFrom_bind, runFrom_bind]
  have hgoes := hxy.sameOrAborted s
  generalize x.runFrom s = r, y.runFrom s = r' at hgoes
  obtain ⟨result, t⟩ := r
  obtain ⟨result', t'⟩ := r'
  rcases hgoes with hsame | ⟨haborted, hqueries⟩
  · cases hsame
    cases result with
    | ok a => exact (hfg a).sameOrAborted t
    | error halt => exact .inl rfl
  · -- what is aborted stays so, while the other one may go on
    obtain rfl : result = .error .aborted := haborted
    refine .inr ⟨rfl, hqueries.trans ?_⟩
    cases result' with
    | ok a => exact (hfg a).extends_right.prefix_runFrom t'
    | error halt => exact List.prefix_refl _

/-- A demand is the one step at which the flag matters. -/
theorem cuts_demand (text : String) : Cuts String (demand true text) (demand false text) := by
  have hpure : (demand false text).Extends := fun made => keeps_pure text
  refine ⟨fun s => ?_, hpure⟩
  by_cases hempty : text.isEmpty = true
  · have habort : demand true text = abort := by simp [demand, hempty]
    rw [habort]
    exact .inr ⟨rfl, List.prefix_refl _⟩
  · have hsame : demand true text = demand false text := by simp [demand, hempty]
    rw [hsame]
    exact .inl rfl

/-- Cutting goes along with all steps, from the same parameters. -/
theorem stepwise_cuts : Stepwise Cuts Eq where
  pure a := Extends.cuts fun _ => keeps_pure a
  abort := Extends.cuts fun _ => keeps_abort
  bind := Cuts.bind
  draw chance := Extends.cuts fun _ => keeps_draw chance
  arguments h := congrArg Parameters.arguments h
  document h := congrArg Parameters.document h
  context {p q} h := ⟨p.context.escapes, by rw [h]⟩
  matches_rule h rule := by rw [h]
  withDocument h document := by rw [h]
  forMatch h whole groups := by rw [h]

end Evaluation

/-! ### Items -/

/-- What is asked before an item is evaluated stays first if that is so for the commands. -/
theorem Item.extends_of_call {callCommand : Template → Evaluator}
    (hcall : ∀ template q, (callCommand template q).Extends) (item : Item) (p : Parameters) :
    (item.evaluate callCommand p).Extends := by
  intro made
  have hcovers : Stepwise.Covers (Alone fun _ => Keeps (made <+: ·))
      (Parameters.AgreeOn (fun _ => True) p.context) callCommand callCommand item.nodes :=
    covers_keeps (fun _ template _ q _ => hcall template q made)
      (fun _ _ _ => keeps_fetched (fun _ _ _ => prefix_append_of_prefix _) _)
      fun _ _ _ _ _ _ => keeps_prompted fun _ => prefix_append_of_prefix _
  exact (stepwise_keeps _ p.context).item hcovers item (fun _ hnode => hnode) p p (.refl p)

namespace Template

/-- The queries before an evaluation of a template are the first ones afterwards. -/
theorem extends_evaluate (depth : Nat) (t : Template) (p : Parameters) :
    (t.evaluate depth p).Extends := by
  -- the items of a template are those of a group
  induction depth generalizing t p with
  | zero => exact Item.extends_of_call (fun _ _ _ => keeps_exhausted) (.group t) p
  | succ depth ih => exact Item.extends_of_call ih (.group t) p

/-- A call only adds queries as well, unless it lies too deep. -/
theorem extends_call (depth : Nat) (t : Template) (p : Parameters) : (call depth t p).Extends := by
  cases depth with
  | zero => exact fun _ => keeps_exhausted
  | succ depth => exact extends_evaluate depth t p

end Template

theorem Item.extends_evaluate (depth : Nat) (item : Item) (p : Parameters) :
    (item.evaluate (Template.call depth) p).Extends :=
  item.extends_of_call (Template.extends_call depth) p

namespace Builtin

/-- A call with its flag is the call without it, or is aborted on the way. -/
theorem cuts_evaluate (depth : Nat) (builtin : Builtin) (arguments : List Template)
    (p : Parameters) :
    Cuts String
      (builtin.evaluate (Template.call depth) true
        (Item.evaluators (Template.call depth) arguments) p)
      (builtin.evaluate (Template.call depth) false
        (Item.evaluators (Template.call depth) arguments) p) := by
  have h := stepwise_cuts
  have hevaluate (items : Template) (q : Parameters) :
      (Item.evaluateAll (Template.call depth) items q).Extends := by
    rw [← Template.evaluate_eq]
    exact items.extends_evaluate depth q
  have hargs : List.Forall₂ (Evaluator.Related Cuts Eq)
      (Item.evaluators (Template.call depth) arguments)
      (Item.evaluators (Template.call depth) arguments) := by
    induction arguments with
    | nil => exact .nil
    | cons first others ih =>
      refine .cons ?_ ih
      rintro q _ rfl
      exact (hevaluate first q).cuts
  have hcall : ∀ template, Evaluator.Related Cuts Eq (Template.call depth template)
      (Template.call depth template) := by
    rintro template q _ rfl
    exact (template.extends_call depth q).cuts
  refine h.builtin rfl builtin cuts_demand hargs ?_ ?_ ?_ ?_
  · rintro -
    -- the condition of a required `if` is no more required than that of another one
    rw [argumentAt_evaluators]
    exact Extends.cuts fun made => Keeps.orEmpty (hevaluate _ p made)
  · rintro - text search
    exact h.replacing rfl hargs (fun _ template _ => hcall template) text search
  · rintro - shows trims address
    exact h.fetched rfl cuts_demand (fun _ _ _ => (extends_ask _ _).cuts) shows trims address
  · rintro - kind message initial
    exact Extends.cuts fun _ => keeps_prompted fun _ => prefix_append_of_prefix _

/-- The functions that look at the text they yield, not only at those of their arguments. -/
def checksText : Builtin → Bool
  | .ifGiven | .ifEqual | .isMatch | .choose | .setting | .lookup _ | .request | .input => true
  | .switch | .join | .lower | .upper | .trim | .urlEncode | .calc | .randomNumber | .dateTime
  | .sort | .replace | .quote | .round | .json => false

end Builtin

namespace Evaluation

/-- What is demanded is not empty. -/
theorem yields_demand (text : String) : (demand true text).Yields (· ≠ "") := by
  intro s value hvalue
  unfold demand at hvalue
  split at hvalue
  · cases hvalue
  · next hempty =>
    cases hvalue
    intro heq
    exact hempty (by rw [heq]; rfl)

theorem Yields.of_bind {α β : Type} {P : β → Prop} {x : Evaluation α} {f : α → Evaluation β}
    (h : ∀ a, (f a).Yields P) : (x >>= f).Yields P :=
  (yields_true x).bind fun a _ => h a

/-- A message says something, whatever went wrong. -/
theorem yields_fetched (context : Context) (shows trims : Bool) (address : String) :
    (fetched context true shows trims address).Yields (· ≠ "") := by
  have hfail (message : String) :
      (if shows then pure ("Error: " ++ message) else demand true "" :
        Evaluation String).Yields (· ≠ "") := by
    split
    · rintro s _ ⟨⟩
      simp
    · exact yields_demand ""
  unfold fetched
  cases context.fetcher.filter fun _ => context.allowRequest with
  | none => exact hfail _
  | some fetcher =>
    dsimp only
    split
    · refine .of_bind fun response => ?_
      split
      · exact hfail _
      · exact yields_demand _
      · exact hfail _
    · exact hfail _

end Evaluation

/-- A function that looks at its text yields none that is empty where it is required. -/
theorem Builtin.yields_evaluate {builtin : Builtin} (h : builtin.checksText = true)
    (callCommand : Template → Evaluator) (arguments : List Evaluator) (p : Parameters) :
    (builtin.evaluate callCommand true arguments p).Yields (· ≠ "") := by
  have hdemand (x : Evaluation String) : (x >>= demand true).Yields (· ≠ "") :=
    .of_bind yields_demand
  cases builtin with
  | ifGiven => exact .of_bind fun value => hdemand _
  | ifEqual => exact .of_bind fun value => .of_bind fun other => hdemand _
  | isMatch => exact .of_bind fun rule => yields_demand _
  | choose =>
    dsimp only [Builtin.evaluate]
    split
    · exact yields_demand ""
    · exact .of_bind fun n => hdemand _
  | setting =>
    refine .of_bind fun name => ?_
    dsimp only
    split
    · exact yields_demand _
    · exact .of_bind fun key => yields_demand _
  | lookup path => exact hdemand _
  | request => exact .of_bind fun address => .of_bind fun options => yields_fetched _ _ _ _
  | input =>
    exact .of_bind fun kind => .of_bind fun message => .of_bind fun initial => hdemand _
  | _ => cases h

namespace Item

/-- An item with its own flag set or not; those of the items in it stay as they are. -/
def requiring (required : Bool) : Item → Item
  | .replacement item _ => .replacement item required
  | .call builtin arguments _ => .call builtin arguments required
  | item => item

/-- Is the item the call of a function that looks at the text it yields? -/
def checksText : Item → Bool
  | .call builtin _ _ => builtin.checksText
  | _ => false

/-- An item with its flag is the item without it, or is aborted on the way. -/
theorem cuts_evaluate (depth : Nat) (item : Item) (p : Parameters) :
    Cuts String ((item.requiring true).evaluate (Template.call depth) p)
      ((item.requiring false).evaluate (Template.call depth) p) := by
  cases item with
  | replacement item required =>
    have hitem : (orEmpty (item.evaluate (Template.call depth) p)).Extends :=
      fun made => Keeps.orEmpty (item.extends_evaluate depth p made)
    exact hitem.cuts.bind cuts_demand
  | call builtin arguments required => exact builtin.cuts_evaluate depth arguments p
  | _ => exact (extends_evaluate depth _ p).cuts

/-- From whatever was asked and drawn before, a required item goes the same way as the same item
without its flag, or is aborted on it, with the first of its queries. -/
theorem runFrom_requiring (depth : Nat) (item : Item) (p : Parameters) (s : Trace) :
    let required := ((item.requiring true).evaluate (Template.call depth) p).runFrom s
    let free := ((item.requiring false).evaluate (Template.call depth) p).runFrom s
    (required.1 = .error .aborted ∨ required = free) ∧
      required.2.queries <+: free.2.queries ∧
      (item.checksText = true → required.1 ≠ .ok "") := by
  intro required free
  have hcuts : required = free ∨
      required.1 = .error .aborted ∧ required.2.queries <+: free.2.queries :=
    (item.cuts_evaluate depth p).sameOrAborted s
  refine ⟨?_, ?_, fun hchecks hempty => ?_⟩
  · exact hcuts.symm.imp_left And.left
  · rcases hcuts with hsame | ⟨-, hqueries⟩
    · exact hsame ▸ List.prefix_refl _
    · exact hqueries
  · cases item with
    | call builtin arguments flag =>
      have hyields := Builtin.yields_evaluate hchecks (Template.call depth)
        (evaluators (Template.call depth) arguments) p
      exact hyields s "" hempty rfl
    | _ => cases hchecks

/-- A page without text is fetched all the same where there has to be some. -/
theorem runFrom_requiring_request :
    let item : Item := .call .request [[.literal "http://[::1]"]] false
    let p : Parameters :=
      { context := { fetcher := some fun _ _ => { body := some "" }, allowRequest := true } }
    let required := ((item.requiring true).evaluate (Template.call 0) p).runFrom {}
    let free := ((item.requiring false).evaluate (Template.call 0) p).runFrom {}
    item.checksText = true ∧ required.1 ≠ .ok "" ∧
      free = (.ok "", { queries := [.fetch "http://[::1]" fetchLabel] }) ∧
      required = (.error .aborted, free.2) := by
  intro item p required free
  have hchecks : item.checksText = true := rfl
  refine ⟨hchecks, (item.runFrom_requiring 0 p {}).2.2 hchecks, ?_, ?_⟩ <;> rfl

end Item

end CommandTemplate
