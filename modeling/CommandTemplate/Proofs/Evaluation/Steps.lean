import CommandTemplate.Evaluation.Template
import CommandTemplate.Proofs.Template.Nodes
import Mathlib.Data.List.Forall2
import Mathlib.Data.List.GetD

/-!
The steps of an evaluation.

Two evaluations of one template may start from different parameters or call commands in different
ways, and still go through the same steps.  `Stepwise E R` says that the relation `E` of evaluations
goes along with all steps but two, catching an abort and turning to a service, and that parameters
which are related by `R` leave nothing for a built-in function to see but values by their names.
What is left open is asked for where it occurs: `Stepwise.builtin` compares two evaluations of a
call, and `Stepwise.item` those of an item whose nodes are `Covered`.

What is said of one evaluation is such a relation, too, in which the other side does not matter
(`Evaluation.Alone`).
-/

namespace CommandTemplate

open Evaluation

/-! ### Related evaluations -/

/-- The command that parameters have under a name, as a template. -/
def Context.template? (context : Context) (name : String) : Option Template :=
  context.commands.bind (·.find? name) >>= Command.template?

/-- Without a registry there is no command to call. -/
theorem Context.template?_eq_none {context : Context} (h : context.commands = none)
    (name : String) : context.template? name = none := by
  rw [template?, h]
  rfl

/-- A way to compare evaluations that goes along with the steps which neither catch an abort nor
turn to a service, and a way to compare the parameters that they start from. -/
structure Stepwise (E : (α : Type) → Evaluation α → Evaluation α → Prop)
    (R : Parameters → Parameters → Prop) : Prop where
  pure {α : Type} (a : α) : E α (pure a) (pure a)
  abort {α : Type} : E α abort abort
  bind {α β : Type} {x y : Evaluation α} {f g : α → Evaluation β} :
    E α x y → (∀ a, E β (f a) (g a)) → E β (x >>= f) (y >>= g)
  draw (chance : Nat → Nat) : E Nat (draw chance) (draw chance)
  arguments {p q : Parameters} : R p q → p.arguments = q.arguments
  document {p q : Parameters} : R p q → p.document = q.document
  context {p q : Parameters} : R p q → ∃ escapes, q.context = { p.context with escapes }
  matches_rule {p q : Parameters} : R p q → ∀ rule, matchesRule p rule = matchesRule q rule
  withDocument {p q : Parameters} :
    R p q → ∀ document, R (p.withDocument document) (q.withDocument document)
  forMatch {p q : Parameters} :
    R p q → ∀ whole groups, R (p.forMatch whole groups) (q.forMatch whole groups)

/-- What is said of one evaluation, as a relation that looks at its left side only. -/
def Evaluation.Alone (P : (α : Type) → Evaluation α → Prop) (α : Type) (x _ : Evaluation α) :
    Prop :=
  P α x

/-- Evaluators that compare from all parameters that do. -/
def Evaluator.Related (E : (α : Type) → Evaluation α → Evaluation α → Prop)
    (R : Parameters → Parameters → Prop) (e e' : Evaluator) : Prop :=
  ∀ p q, R p q → E String (e p) (e' q)

/-- What `replace` does with a text and what is searched in it. -/
def replacing (callCommand : Template → Evaluator) (arguments : List Evaluator)
    (text search : String) (p : Parameters) : Evaluation String := do
  let mode ← argumentAt arguments 3 p
  replaced callCommand (.ofName (Text.trim mode)) text search (argumentAt arguments 2) p

/-- A text with the matches of a pattern replaced by what a command makes of them. -/
def replaceByCommand (callCommand : Template → Evaluator) (regex : Regex) (text : String)
    (p : Parameters) (name : String) : Evaluation String :=
  match p.context.template? name with
  | none => return "Error: Unknown custom command '" ++ name ++ "'"
  | some template => replaceMatches regex (callCommand template) text p

/-- A replacement by a command is one by the template that has the name. -/
theorem replaced_byCommand (callCommand : Template → Evaluator) (text search : String)
    (replacement : Evaluator) (p : Parameters) :
    replaced callCommand .byCommand text search replacement p =
      match Regex.compile search with
      | .error fault => pure (patternFault fault)
      | .ok regex => replacement p >>= fun name =>
        replaceByCommand callCommand regex text p (Text.trim name) := rfl

/-- Each argument is evaluated as a template. -/
theorem evaluators_eq_map (callCommand : Template → Evaluator) (arguments : List Template) :
    Item.evaluators callCommand arguments = arguments.map (Item.evaluateAll callCommand) := by
  induction arguments with
  | nil => rfl
  | cons first others ih => rw [Item.evaluators, ih, List.map_cons]

/-- An argument that is not there is an empty template. -/
theorem argumentAt_evaluators (callCommand : Template → Evaluator) (arguments : List Template)
    (place : Nat) : argumentAt (Item.evaluators callCommand arguments) place =
      Item.evaluateAll callCommand (arguments.getD place []) := by
  rw [evaluators_eq_map]
  exact List.getD_map arguments [] (Item.evaluateAll callCommand)

namespace Stepwise

variable {E : (α : Type) → Evaluation α → Evaluation α → Prop} {R : Parameters → Parameters → Prop}
  {p q : Parameters} {arguments arguments' : List Evaluator} {e e' : Evaluator}
  {callCommand callCommand' : Template → Evaluator}

/-! ### Single steps -/

theorem map {α β : Type} {x y : Evaluation α} (h : Stepwise E R) (f : α → β) (hxy : E α x y) :
    E β (f <$> x) (f <$> y) := by
  rw [map_eq_pure_bind, map_eq_pure_bind]
  exact h.bind hxy fun a => h.pure (f a)

theorem ofOption {α : Type} (h : Stepwise E R) (a : Option α) : E α (ofOption a) (ofOption a) := by
  cases a with
  | none => exact h.abort
  | some a => exact h.pure a

theorem demand (h : Stepwise E R) (required : Bool) (text : String) :
    E String (demand required text) (demand required text) := by
  unfold Evaluation.demand
  split
  · exact h.abort
  · exact h.pure text

protected theorem randomBetween (h : Stepwise E R) (chance : Nat → Nat) (low high : Option Int) :
    E String (randomBetween chance low high) (randomBetween chance low high) := by
  unfold randomBetween
  split
  · split
    · exact h.bind (h.draw chance) fun _ => h.pure _
    · exact h.pure _
  · exact h.pure _

/-! ### Arguments -/

protected theorem argumentAt (h : Stepwise E R)
    (hargs : List.Forall₂ (Evaluator.Related E R) arguments arguments') (place : Nat) :
    Evaluator.Related E R (argumentAt arguments place) (argumentAt arguments' place) := by
  induction hargs generalizing place with
  | nil => exact fun _ _ _ => h.pure ""
  | cons hfirst _ ih =>
    cases place with
    | zero => exact hfirst
    | succ place => exact ih place

/-- The case that is chosen depends on texts only, and they compare. -/
protected theorem switchOn (h : Stepwise E R) (hR : R p q) (value : String) :
    ∀ {cases cases' : List Evaluator}, List.Forall₂ (Evaluator.Related E R) cases cases' →
      E String (switchOn value p cases) (switchOn value q cases')
  | [], _, .nil => h.pure ""
  | [_], _, .cons houtput .nil => houtput p q hR
  | _ :: _ :: _, _, .cons hkey (.cons houtput hcases) =>
    h.bind (hkey p q hR) fun text => by
      split
      · exact houtput p q hR
      · exact h.switchOn hR value hcases

protected theorem textsOf (h : Stepwise E R) (hR : R p q)
    (hargs : List.Forall₂ (Evaluator.Related E R) arguments arguments') :
    E (List String) (textsOf p arguments) (textsOf q arguments') := by
  induction hargs with
  | nil => exact h.pure []
  | cons hfirst _ ih =>
    exact h.bind (hfirst p q hR) fun text => h.bind ih fun texts => h.pure (text :: texts)

/-! ### Replacing -/

/-- Each match is replaced with parameters that are related. -/
protected theorem replaceSegments (h : Stepwise E R) (hR : R p q)
    (he : Evaluator.Related E R e e') (segments : List Regex.Segment) :
    E String (replaceSegments e p segments) (replaceSegments e' q segments) := by
  induction segments with
  | nil => exact h.pure ""
  | cons m segments ih =>
    exact h.bind (he _ _ (h.forMatch hR _ _)) fun text => h.bind ih fun rest => h.pure _

protected theorem replaceMatches (h : Stepwise E R) (hR : R p q) (he : Evaluator.Related E R e e')
    (regex : Regex) (text : String) :
    E String (replaceMatches regex e text p) (replaceMatches regex e' text q) :=
  h.bind (h.replaceSegments hR he _) fun _ => h.pure _

/-- Both sides find the same command, since their contexts have the same ones. -/
protected theorem replaceByCommand (h : Stepwise E R) (hR : R p q) (regex : Regex)
    (text name : String)
    (hcall : ∀ template, p.context.template? name = some template →
      Evaluator.Related E R (callCommand template) (callCommand' template)) :
    E String (replaceByCommand callCommand regex text p name)
      (replaceByCommand callCommand' regex text q name) := by
  unfold replaceByCommand
  obtain ⟨escapes, hcontext⟩ := h.context hR
  have hname : q.context.template? name = p.context.template? name := by rw [hcontext]; rfl
  rw [hname]
  cases htemplate : p.context.template? name with
  | none => exact h.pure _
  | some template => exact h.replaceMatches hR (hcall template htemplate) regex text

/-- Replacements without commands, and those with commands whose calls compare. -/
protected theorem replaced (h : Stepwise E R) (hR : R p q) (mode : ReplaceMode)
    (text search : String) (he : Evaluator.Related E R e e')
    (hcall : mode = .byCommand → ∀ name template, p.context.template? name = some template →
      Evaluator.Related E R (callCommand template) (callCommand' template)) :
    E String (replaced callCommand mode text search e p)
      (replaced callCommand' mode text search e' q) := by
  -- the modes are told apart before anything is evaluated
  cases mode with
  | fixed substitution => exact h.bind (he p q hR) fun _ => h.pure _
  | evaluated =>
    rw [replaced, replaced]
    split
    · exact h.pure _
    · exact h.replaceMatches hR he _ text
  | byCommand =>
    rw [replaced_byCommand, replaced_byCommand]
    split
    · exact h.pure _
    · exact h.bind (he p q hR) fun name =>
        h.replaceByCommand hR _ text (Text.trim name) (hcall rfl _)

/-- Replacements where all commands that there are compare. -/
protected theorem replacing (h : Stepwise E R) (hR : R p q)
    (hargs : List.Forall₂ (Evaluator.Related E R) arguments arguments')
    (hcall : ∀ name template, p.context.template? name = some template →
      Evaluator.Related E R (callCommand template) (callCommand' template))
    (text search : String) :
    E String (replacing callCommand arguments text search p)
      (replacing callCommand' arguments' text search q) :=
  h.bind (h.argumentAt hargs 3 p q hR) fun _ =>
    h.replaced hR _ text search (h.argumentAt hargs 2) fun _ => hcall

/-! ### Calls -/

/-- Fetching compares where demands and the question itself do. -/
protected theorem fetched (h : Stepwise E R) (hR : R p q) {required required' : Bool}
    (hdemand : ∀ text, E String (Evaluation.demand required text)
      (Evaluation.demand required' text))
    (hask : ∀ fetcher ∈ p.context.fetcher, ∀ address,
      E Response (ask (.fetch address fetchLabel) (fetcher · address))
        (ask (.fetch address fetchLabel) (fetcher · address)))
    (shows trims : Bool) (address : String) :
    E String (fetched p.context required shows trims address)
      (fetched q.context required' shows trims address) := by
  obtain ⟨escapes, hcontext⟩ := h.context hR
  -- fetching looks at the context, but not at its escapes
  have hq : fetched q.context required' shows trims address =
      fetched p.context required' shows trims address := by rw [hcontext]; rfl
  have hfail (message : String) :
      E String (if shows then Pure.pure ("Error: " ++ message) else Evaluation.demand required "")
        (if shows then Pure.pure ("Error: " ++ message) else Evaluation.demand required' "") := by
    split
    · exact h.pure _
    · exact hdemand ""
  rw [hq]
  unfold CommandTemplate.fetched
  cases hfetcher : p.context.fetcher.filter fun _ => p.context.allowRequest with
  | none => exact hfail _
  | some fetcher =>
    dsimp only
    -- only an address of the web is asked for, any other one has failed
    split
    · have hmem := (Option.filter_eq_some_iff.1 hfetcher).1
      refine h.bind (hask fetcher hmem _) fun response => ?_
      split
      · exact hfail _
      · exact hdemand _
      · exact hfail _
    · exact hfail _

/-- A call compares where its arguments do, and where its flags demand what compares.  For a
condition, a replacement and the two functions that turn to a service, the step that is their own
has to compare as well. -/
protected theorem builtin (h : Stepwise E R) (hR : R p q) (builtin : Builtin)
    {required required' : Bool}
    (hdemand : ∀ text, E String (Evaluation.demand required text)
      (Evaluation.demand required' text))
    (hargs : List.Forall₂ (Evaluator.Related E R) arguments arguments')
    (hcondition : builtin = .ifGiven →
      E String (orEmpty (argumentAt arguments 0 p)) (orEmpty (argumentAt arguments' 0 q)))
    (hreplace : builtin = .replace → ∀ text search,
      E String (replacing callCommand arguments text search p)
        (replacing callCommand' arguments' text search q))
    (hfetch : builtin = .request → ∀ shows trims address,
      E String (fetched p.context required shows trims address)
        (fetched q.context required' shows trims address))
    (hprompt : builtin = .input → ∀ kind message initial,
      E String (prompted p.context kind message initial)
        (prompted q.context kind message initial)) :
    E String (builtin.evaluate callCommand required arguments p)
      (builtin.evaluate callCommand' required' arguments' q) := by
  have hargument place : E String (argumentAt arguments place p)
      (argumentAt arguments' place q) := h.argumentAt hargs place p q hR
  have hfirst : E String (argumentAt arguments 0 p >>= Evaluation.demand required)
      (argumentAt arguments' 0 q >>= Evaluation.demand required') :=
    h.bind (hargument 0) hdemand
  have hlength : arguments.length = arguments'.length := hargs.length_eq
  have hdrop := List.forall₂_drop 1 hargs
  -- the contexts are alike but for their escapes
  obtain ⟨escapes, hcontext⟩ := h.context hR
  have hchance : p.context.chance = q.context.chance := by rw [hcontext]
  have hnow : p.context.now = q.context.now := by rw [hcontext]
  have halmanac : p.context.almanac = q.context.almanac := by rw [hcontext]
  have hsetting name key : settingText p.context name key = settingText q.context name key := by
    rw [hcontext]; rfl
  -- what a function does next depends on the texts of its arguments only, never on the parameters
  cases builtin with
  | ifGiven =>
    refine h.bind (hcondition rfl) fun value => h.bind ?_ hdemand
    split
    · exact hargument 2
    · exact hargument 1
  | ifEqual =>
    refine h.bind (hargument 0) fun value => h.bind (hargument 1) fun other => h.bind ?_ hdemand
    split
    · exact hargument 2
    · exact hargument 3
  | switch => exact h.bind hfirst fun value => h.switchOn hR value hdrop
  | join =>
    refine h.bind hfirst fun value => ?_
    dsimp only
    split
    · exact h.pure value
    · exact h.bind (hargument 1) fun _ => h.pure _
  | lower | upper | trim | urlEncode | «calc» => exact h.map _ hfirst
  | isMatch =>
    refine h.bind hfirst fun rule => ?_
    rw [h.matches_rule hR]
    exact hdemand _
  | choose =>
    simp only [Builtin.evaluate, List.isEmpty_iff_length_eq_zero, hlength, hchance]
    split
    · exact hdemand ""
    · exact h.bind (h.draw _) fun n => h.bind (hargument _) hdemand
  | randomNumber =>
    simp only [Builtin.evaluate, hlength, hchance]
    refine h.bind hfirst fun start => ?_
    split
    · exact h.randomBetween _ _ _
    · exact h.bind (hargument 1) fun stop => h.randomBetween _ _ _
  | dateTime =>
    simp only [Builtin.evaluate, hnow, halmanac]
    exact h.bind (hargument 0) fun _ => h.bind (hargument 1) fun _ =>
      h.bind (hargument 2) fun _ => h.bind (hargument 3) fun _ => h.pure _
  | sort =>
    exact h.bind hfirst fun _ => h.bind (hargument 1) fun _ =>
      h.bind (hargument 2) fun _ => h.pure _
  | replace =>
    exact h.bind hfirst fun text => h.bind (hargument 1) fun search => hreplace rfl text search
  | quote => exact h.bind hfirst fun _ => h.bind (hargument 1) fun _ => h.pure _
  | round =>
    exact h.bind hfirst fun _ => h.bind (hargument 1) fun _ => h.bind (hargument 2) fun _ =>
      h.bind (hargument 3) fun _ => h.pure _
  | setting =>
    simp only [Builtin.evaluate, hlength, hsetting]
    refine h.bind (hargument 0) fun name => ?_
    split
    · exact hdemand _
    · exact h.bind (hargument 1) fun key => hdemand _
  | json =>
    exact h.bind hfirst fun text => h.bind (h.ofOption _) fun document =>
      h.argumentAt hargs 1 _ _ (h.withDocument hR document)
  | lookup path =>
    simp only [Builtin.evaluate, h.document hR]
    refine h.bind ?_ hdemand
    split
    · exact hargument 0
    · exact h.pure _
  | request =>
    exact h.bind hfirst fun address => h.bind (h.textsOf hR hdrop) fun options =>
      hfetch rfl _ _ _
  | input =>
    exact h.bind (hargument 0) fun kind => h.bind (hargument 1) fun message =>
      h.bind (hargument 2) fun initial => h.bind (hprompt rfl _ _ _) hdemand

/-! ### Items -/

/-- How the nodes compare for which the steps alone do not say it. -/
structure Covers (E : (α : Type) → Evaluation α → Evaluation α → Prop)
    (R : Parameters → Parameters → Prop) (callCommand callCommand' : Template → Evaluator)
    (nodes : List Item) : Prop where
  identifier {name : String} : .identifier name ∈ nodes →
    ∀ {p q : Parameters}, R p q → p.get? name = q.get? name
  escaped {item : Item} : .escaped item ∈ nodes →
    ∀ {p q : Parameters}, R p q → p.context.escapes = q.context.escapes
  replacement {item : Item} {required : Bool} : .replacement item required ∈ nodes →
    Evaluator.Related E R (item.evaluate callCommand) (item.evaluate callCommand') →
    ∀ {p q : Parameters}, R p q →
      E String (orEmpty (item.evaluate callCommand p)) (orEmpty (item.evaluate callCommand' q))
  call {builtin : Builtin} {arguments : List Template} {required : Bool} :
    .call builtin arguments required ∈ nodes →
    List.Forall₂ (Evaluator.Related E R) (Item.evaluators callCommand arguments)
      (Item.evaluators callCommand' arguments) →
    ∀ {p q : Parameters}, R p q →
      E String (builtin.evaluate callCommand required (Item.evaluators callCommand arguments) p)
        (builtin.evaluate callCommand' required (Item.evaluators callCommand' arguments) q)

variable {nodes : List Item}

-- `nodes` stays the same in the recursion, and all nodes of what is left are among them
mutual

/-- Two evaluations of an item compare if those of its nodes do. -/
theorem item (h : Stepwise E R) (hnodes : Covers E R callCommand callCommand' nodes) :
    ∀ item : Item, (∀ node ∈ item.nodes, node ∈ nodes) →
      Evaluator.Related E R (item.evaluate callCommand) (item.evaluate callCommand')
  | .literal text, _ => fun _ _ _ => h.pure text
  | .identifier name, hsub => fun p q hR => by
    rw [Item.evaluate, Item.evaluate, hnodes.identifier (hsub _ List.mem_cons_self) hR]
    exact h.ofOption _
  | .argument index toEnd, _ => fun p q hR => by
    rw [Item.evaluate, Item.evaluate, Parameters.argument?, Parameters.argument?, h.arguments hR]
    exact h.ofOption _
  | .replacement item required, hsub => fun p q hR => by
    have hitem := h.item hnodes item (List.forall_mem_cons.1 hsub).2
    exact h.bind (hnodes.replacement (hsub _ List.mem_cons_self) hitem hR) (h.demand required)
  | .escaped item, hsub => fun p q hR => by
    have hitem := h.item hnodes item (List.forall_mem_cons.1 hsub).2
    rw [Item.evaluate, Item.evaluate, hnodes.escaped (hsub _ List.mem_cons_self) hR]
    exact h.map _ (hitem p q hR)
  | .group items, hsub => h.items hnodes items (List.forall_mem_cons.1 hsub).2
  | .call builtin arguments required, hsub => fun p q hR =>
    hnodes.call (hsub _ List.mem_cons_self)
      (h.evaluators hnodes arguments (List.forall_mem_cons.1 hsub).2) hR

theorem items (h : Stepwise E R) (hnodes : Covers E R callCommand callCommand' nodes) :
    ∀ items : List Item, (∀ node ∈ Item.nodesOfItems items, node ∈ nodes) →
      Evaluator.Related E R (Item.evaluateAll callCommand items)
        (Item.evaluateAll callCommand' items)
  | [], _ => fun _ _ _ => h.pure ""
  | item :: items, hsub => fun p q hR => by
    obtain ⟨hitem, hitems⟩ := List.forall_mem_append.1 hsub
    exact h.bind (h.item hnodes item hitem p q hR) fun text =>
      h.bind (h.items hnodes items hitems p q hR) fun rest => h.pure (text ++ rest)

theorem evaluators (h : Stepwise E R) (hnodes : Covers E R callCommand callCommand' nodes) :
    ∀ arguments : List (List Item), (∀ node ∈ Item.nodesOfArguments arguments, node ∈ nodes) →
      List.Forall₂ (Evaluator.Related E R) (Item.evaluators callCommand arguments)
        (Item.evaluators callCommand' arguments)
  | [], _ => .nil
  | first :: others, hsub => by
    obtain ⟨hfirst, hothers⟩ := List.forall_mem_append.1 hsub
    exact .cons (h.items hnodes first hfirst) (h.evaluators hnodes others hothers)

end

end Stepwise

end CommandTemplate
