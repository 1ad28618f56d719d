import CommandTemplate.Proofs.Evaluation.Simulation
import CommandTemplate.Proofs.Parameters
import CommandTemplate.Proofs.Text.Names

/-!
What an evaluation can read.

`Parameters.AgreeOn N context p q` says that `p` and `q` give the same values to the names in `N`
and are the same in all that has no name.  That is kept when other parameters are made from them for
a match or with a document (`AgreeOn.forMatch`), so it goes along with the evaluation of templates:
`AgreeOn.simulation`.

`Parameters.Agree names p q` says the same of finitely many names and the message.  An evaluator
`Reads` some names if it cannot tell such parameters apart: it yields the same value after the same
queries and draws.  A template reads only its own names.  A registry would let it read the names of
other templates, and a matcher of its own could read any; `Parameters.Agree` leaves them out.
-/

namespace CommandTemplate

open Evaluation

/-! ### Parameters that agree -/

/-- Is there no matcher but the one that reads `msg`, and no registry? -/
structure Context.Plain (context : Context) : Prop where
  commands : context.commands = none
  matcher : context.matcher = none ∨ context.matcher = some ruleMatcher

/-- Does the matcher read only some names, besides what has no name? -/
def Context.MatcherReads (N : String → Prop) (context : Context) : Prop :=
  ∀ matcher ∈ context.matcher, ∀ b b' : Bindings,
    (∀ name, N name → b.value? name = b'.value? name) → b.arguments = b'.arguments →
      b.document = b'.document → matcher b = matcher b'

namespace Parameters

/-- The same values of the names in `N`, and all else the same. -/
structure AgreeOn (N : String → Prop) (context : Context) (p q : Parameters) : Prop where
  values : ∀ name, N name → p.get? name = q.get? name
  arguments : p.arguments = q.arguments
  document : p.document = q.document
  left : p.context = context
  right : q.context = context

/-- The same values of some names, the message for rules among them, and all else the same. -/
structure Agree (names : List String) (p q : Parameters) : Prop where
  message : p.get? "msg" = q.get? "msg"
  values : ∀ name ∈ names, p.get? name = q.get? name
  arguments : p.arguments = q.arguments
  document : p.document = q.document
  context : p.context = q.context
  plain : p.context.Plain

namespace AgreeOn

variable {N : String → Prop} {context : Context} {p q : Parameters}

theorem refl (p : Parameters) : AgreeOn N p.context p p :=
  ⟨fun _ _ => rfl, rfl, rfl, rfl, rfl⟩

/-- The same value under the same name leaves parameters in agreement. -/
theorem put (h : AgreeOn N context p q) (name value : String) :
    AgreeOn N context (p.put name value) (q.put name value) := by
  refine ⟨fun other ho => ?_, ?_, h.document, h.left, h.right⟩
  · rw [get?_put, get?_put, h.values other ho]
  -- a value under the name of the arguments sets these as well
  · show (if _ then _ else p.arguments) = if _ then _ else q.arguments
    rw [h.arguments]

theorem withArguments (h : AgreeOn N context p q) (arguments : List String) :
    AgreeOn N context { p with arguments } { q with arguments } :=
  ⟨h.values, rfl, h.document, h.left, h.right⟩

theorem withDocument (h : AgreeOn N context p q) (document : Json) :
    AgreeOn N context (p.withDocument document) (q.withDocument document) :=
  ⟨h.values, h.arguments, rfl, h.left, h.right⟩

/-- Several values under the same names leave parameters in agreement. -/
theorem putAll (h : AgreeOn N context p q) (values : List (String × String)) :
    AgreeOn N context (p.putAll values) (q.putAll values) := by
  induction values generalizing p q with
  | nil => exact h
  | cons value values ih => exact ih (h.put value.1 value.2)

/-- The parameters for a match hide what was given to the same names before. -/
theorem forMatch (h : AgreeOn N context p q) (whole : String) (groups : List String) :
    AgreeOn N context (p.forMatch whole groups) (q.forMatch whole groups) :=
  ((h.put argumentsName whole).withArguments [whole]).putAll (groupValues groups)

/-- A rule holds of both if the matcher reads only the names on which they agree. -/
theorem matchesRule_eq (h : AgreeOn N context p q) (hmatcher : context.MatcherReads N)
    (rule : String) : matchesRule p rule = matchesRule q rule := by
  rw [matchesRule, matchesRule, h.left, h.right]
  cases hm : context.matcher with
  | none => rfl
  | some matcher =>
    exact congrFun (hmatcher matcher hm _ _ h.values h.arguments h.document) rule

/-- Where all names are read, a matcher is shown the same. -/
theorem bindings_eq (h : AgreeOn (fun _ => True) context p q) : p.bindings = q.bindings := by
  rw [bindings, bindings, funext fun name => h.values name trivial, h.arguments, h.document]

/-- What the steps pass on holds of an evaluation with whichever parameters of a context. -/
theorem stepwise {P : (α : Type) → Evaluation α → Prop}
    (hpure : ∀ {α : Type} (a : α), P α (pure a)) (habort : ∀ {α : Type}, P α abort)
    (hbind : ∀ {α β : Type} {x : Evaluation α} {f : α → Evaluation β},
      P α x → (∀ a, P β (f a)) → P β (x >>= f))
    (hdraw : ∀ chance, P Nat (draw chance)) (context : Context) :
    Stepwise (Alone P) (AgreeOn (fun _ => True) context) where
  pure := hpure
  abort := habort
  bind hx hf := hbind hx hf
  draw := hdraw
  arguments hR := hR.arguments
  document hR := hR.document
  context hR := ⟨context.escapes, by rw [hR.left, hR.right]⟩
  matches_rule hR rule := by
    rw [matchesRule, matchesRule, hR.left, hR.right, hR.bindings_eq]
  withDocument hR := hR.withDocument
  forMatch hR := hR.forMatch

/-- Evaluations from parameters that agree go through the same steps, whichever way of comparing
goes along with these and with questions to the services. -/
theorem simulation {E : (α : Type) → Evaluation α → Evaluation α → Prop} (h : Congruence E)
    (hmatcher : context.MatcherReads N)
    (hdraw : ∀ chance, E Nat (draw chance) (draw chance))
    (hfetch : ∀ fetcher ∈ context.fetcher, ∀ address,
      E Response (ask (.fetch address fetchLabel) (fetcher · address))
        (ask (.fetch address fetchLabel) (fetcher · address)))
    (hprompt : ∀ prompt ∈ context.prompt, ∀ kind message initial,
      E (Option String) (ask (.prompt kind message initial) (prompt · kind message initial))
        (ask (.prompt kind message initial) (prompt · kind message initial))) :
    Simulation E (AgreeOn N context) where
  toCongruence := h
  arguments hR := hR.arguments
  document hR := hR.document
  context hR := ⟨context.escapes, by rw [hR.left, hR.right]⟩
  matches_rule hR := hR.matchesRule_eq hmatcher
  withDocument hR := hR.withDocument
  forMatch hR := hR.forMatch
  draw := hdraw
  fetch hR := by rw [hR.left]; exact hfetch
  prompt hR := by rw [hR.left]; exact hprompt

/-- Nodes whose names are in `N` are covered if the commands compare that they may call. -/
theorem covers {E : (α : Type) → Evaluation α → Evaluation α → Prop}
    {callCommand callCommand' : Template → Evaluator} (h : Simulation E (AgreeOn N context))
    {nodes : List Item} (hnames : ∀ name, .identifier name ∈ nodes → N name)
    (hcall : ∀ name template, context.template? name = some template →
      Evaluator.Related E (AgreeOn N context) (callCommand template) (callCommand' template)) :
    Simulation.Covers E (AgreeOn N context) callCommand callCommand' nodes where
  identifier hnode _ _ hR := hR.values _ (hnames _ hnode)
  escaped _ _ _ hR := by rw [hR.left, hR.right]
  replace _ hargs _ _ hR := by
    refine h.stepwise.replacing hR hargs fun name template htemplate => hcall name template ?_
    rw [← hR.left]
    exact htemplate

end AgreeOn

/-- Agreeing on a list of names. -/
theorem Agree.agreeOn {names : List String} {p q : Parameters} (h : Agree names p q) :
    AgreeOn (fun name => name = "msg" ∨ name ∈ names) p.context p q := by
  refine ⟨?_, h.arguments, h.document, rfl, h.context.symm⟩
  rintro name (rfl | hname)
  · exact h.message
  · exact h.values name hname

end Parameters

open Parameters (Agree AgreeOn)

/-- The one matcher that the program has reads nothing but `msg`. -/
theorem Context.matcherReads_message {N : String → Prop} {context : Context}
    (h : context.matcher = none ∨ context.matcher = some ruleMatcher) (hmessage : N "msg") :
    context.MatcherReads N := by
  intro matcher hmatcher b b' hvalues _ _
  rcases h with hm | hm
  · rw [hm] at hmatcher
    cases hmatcher
  · rw [hm] at hmatcher
    obtain rfl := Option.some.inj hmatcher
    funext rule
    rw [ruleMatcher, ruleMatcher, hvalues "msg" hmessage]

theorem Context.matcherReads_all (context : Context) : context.MatcherReads fun _ => True := by
  rintro matcher - ⟨value, arguments, document⟩ ⟨other, _, _⟩ hvalues rfl rfl
  rw [show value = other from funext fun name => hvalues name trivial]

/-! ### Evaluators -/

/-- Parameters that agree on some names are the same to an evaluator. -/
def Evaluator.Reads (names : List String) (e : Evaluator) : Prop :=
  ∀ p q, Agree names p q → e p = e q

/-- Being the same goes along with all steps. -/
theorem Evaluation.congruence_eq : Congruence fun _ x y => x = y where
  pure _ := rfl
  abort := rfl
  bind := by
    rintro _ _ x _ f g rfl hfg
    rw [funext hfg]
  orEmpty := by
    rintro x _ rfl
    rfl

/-! ### Templates -/

/-- Items read the names that occur in them. -/
theorem Item.reads_evaluateAll (callCommand : Template → Evaluator) {names : List String}
    (items : List Item) (hnames : ∀ name ∈ Item.namesOfItems items, name ∈ names) :
    Evaluator.Reads names (Item.evaluateAll callCommand items) := by
  intro p q hp
  have hmatcher : p.context.MatcherReads fun name => name = "msg" ∨ name ∈ names :=
    Context.matcherReads_message hp.plain.matcher (.inl rfl)
  have hsimulation := AgreeOn.simulation congruence_eq hmatcher (fun _ => rfl)
    (fun _ _ _ => rfl) fun _ _ _ _ _ => rfl
  refine hsimulation.items (AgreeOn.covers hsimulation ?_ ?_) items (fun _ hnode => hnode) p q
    hp.agreeOn
  · exact fun name hnode => .inr (hnames name ((Item.mem_namesOfItems items).2 hnode))
  · intro name template htemplate
    rw [Context.template?_eq_none hp.plain.commands] at htemplate
    cases htemplate

namespace Template

theorem mem_identifiersStarting {front name : String} {t : Template} :
    name ∈ t.identifiersStarting front ↔
      name ∈ Item.namesOfItems t ∧ Text.startsWith front name = true := by
  rw [identifiersStarting, Text.mem_ascending, List.mem_filter]

/-- A template reads its own names, whatever the limit is. -/
theorem reads_evaluate (t : Template) (depth : Nat) :
    Evaluator.Reads (t.identifiersStarting "") (t.evaluate depth) := by
  have hnames : ∀ name ∈ Item.namesOfItems t, name ∈ t.identifiersStarting "" := fun name h =>
    mem_identifiersStarting.2 ⟨h, by simp [Text.startsWith]⟩
  cases depth with
  | zero => exact Item.reads_evaluateAll _ t hnames
  | succ depth => exact Item.reads_evaluateAll _ t hnames

/-- A template cannot tell apart parameters that agree on `msg` and on its own names: it yields the
same after the same queries and draws. -/
theorem evaluate_eq_of_agree {t : Template} {p q : Parameters} (hcontext : p.context = q.context)
    (hcommands : p.context.commands = none)
    (hmatcher : p.context.matcher = none ∨ p.context.matcher = some ruleMatcher)
    (harguments : p.arguments = q.arguments) (hdocument : p.document = q.document)
    (hmessage : p.get? "msg" = q.get? "msg")
    (hvalues : ∀ name ∈ t.identifiersStarting "", p.get? name = q.get? name) (depth : Nat) :
    t.evaluate depth p = t.evaluate depth q :=
  t.reads_evaluate depth p q
    ⟨hmessage, hvalues, harguments, hdocument, hcontext, ⟨hcommands, hmatcher⟩⟩

/-- The value of `other` does not matter to a template that tests a rule. -/
theorem evaluate_eq_rule :
    evaluate 1 [.escaped (.call .isMatch [[.replacement (.identifier "rule") false]] false)]
      { values := [("other", "1"), ("rule", "w:hi"), ("msg", "oh hi")],
        context := { matcher := some ruleMatcher } } =
    evaluate 1 [.escaped (.call .isMatch [[.replacement (.identifier "rule") false]] false)]
      { values := [("msg", "oh hi"), ("rule", "w:hi")],
        context := { matcher := some ruleMatcher } } := by
  apply evaluate_eq_of_agree
  · rfl
  · rfl
  · exact .inr rfl
  · rfl
  · rfl
  · decide
  · decide

end Template

end CommandTemplate
