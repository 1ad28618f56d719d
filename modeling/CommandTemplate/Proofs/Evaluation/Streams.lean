import CommandTemplate.Proofs.Evaluation.Escaping
import CommandTemplate.Proofs.Evaluation.Invocation
import CommandTemplate.Proofs.Evaluation.Limit
import CommandTemplate.Proofs.Text.Casing

/-!
When the state of the stream is asked for.

A command asks for it only if it mentions a parameter of the stream itself.  `evaluateAsking` always
asks.  The results are the same where the commands that are called mention no such parameter either
(`evaluate_eq_evaluateAsking`), since parameters which differ in those of the stream only are the
same to all that is evaluated then, and answers do not depend on whether the stream was asked for.
A command that is called does not have the state of the stream asked for, though it may mention it
(`evaluate_ne_relay`).
-/

namespace CommandTemplate

open Evaluation
open Parameters (AgreeOn)

/-! ### Parameters of the stream -/

/-- May the state of a stream be put under a name? -/
def isOfStream (name : String) : Bool :=
  Text.startsWith streamFront (Text.lower name)

namespace Parameters

/-- The same parameters but for those of the stream. -/
abbrev AgreeButStream (context : Context) : Parameters → Parameters → Prop :=
  AgreeOn (fun name => isOfStream name = false) context

theorem AgreeOn.trans {N : String → Prop} {context : Context} {p q r : Parameters}
    (hpq : AgreeOn N context p q) (hqr : AgreeOn N context q r) : AgreeOn N context p r :=
  ⟨fun name hname => (hpq.values name hname).trans (hqr.values name hname),
    hpq.arguments.trans hqr.arguments, hpq.document.trans hqr.document, hpq.left, hqr.right⟩

/-- A value of the stream may be put in on one side only. -/
theorem AgreeButStream.putIfAbsent {context : Context} {p q : Parameters} {name : String}
    (h : AgreeButStream context p q) (hname : isOfStream name = true) (value : String) :
    AgreeButStream context p (q.putIfAbsent name value) := by
  unfold Parameters.putIfAbsent
  split
  · exact h
  · refine h.trans ⟨fun other hother => ?_, ?_, rfl, h.right, h.right⟩
    · rw [get?_put, if_neg]
      intro heq
      rw [isOfStream, heq, ← isOfStream, hname] at hother
      cases hother
    · -- the name is not that of the arguments
      show q.arguments = if Text.lower name = argumentsName then _ else q.arguments
      rw [if_neg]
      intro heq
      rw [isOfStream, heq] at hname
      cases hname

/-- The state of a stream changes no other parameters. -/
theorem agreeButStream_putStream (p : Parameters) (state : Option StreamState) :
    AgreeButStream p.context p (state.elim p p.putStream) := by
  cases state with
  | none => exact .refl p
  | some state =>
    refine .putIfAbsent (.putIfAbsent (.putIfAbsent (.putIfAbsent (.putIfAbsent (.refl p)
      ?_ _) ?_ _) ?_ _) ?_ _) ?_ _ <;> decide +kernel

end Parameters

open Parameters (AgreeButStream)

/-! ### Answers -/

/-- Is it a question for the state of a stream? -/
def Query.isStream : Query → Bool
  | .stream _ => true
  | .fetch _ _ | .prompt _ _ _ => false

/-- The same queries but for those for streams, and as many draws. -/
structure Trace.AgreeButStreams (s t : Trace) : Prop where
  queries : s.queries.filter (!·.isStream) = t.queries.filter (!·.isStream)
  draws : s.draws = t.draws

/-- Do the services take no notice of the state of streams? -/
structure Context.IgnoresStreams (context : Context) : Prop where
  fetcher : ∀ fetcher ∈ context.fetcher, ∀ queries others : List Query,
    queries.filter (!·.isStream) = others.filter (!·.isStream) → fetcher queries = fetcher others
  prompt : ∀ prompt ∈ context.prompt, ∀ queries others : List Query,
    queries.filter (!·.isStream) = others.filter (!·.isStream) → prompt queries = prompt others
  matcher : context.MatcherReads fun name => isOfStream name = false

/-- A question is answered in the same way where answers do not depend on streams. -/
theorem follows_ask {α : Type} {query : Query} {answer : List Query → α}
    (hanswer : ∀ queries others : List Query,
      queries.filter (!·.isStream) = others.filter (!·.isStream) → answer queries = answer others) :
    Follows Trace.AgreeButStreams α (ask query answer) (ask query answer) := by
  intro s t h
  refine .inr ⟨congrArg Except.ok (hanswer _ _ h.queries), ?_, h.draws⟩
  show List.filter _ (s.queries ++ [query]) = List.filter _ (t.queries ++ [query])
  rw [List.filter_append, List.filter_append, h.queries]

/-- Evaluations without the stream go through the same steps, whether it was asked for or not. -/
theorem Context.IgnoresStreams.simulation {context : Context} (h : context.IgnoresStreams) :
    Simulation (Follows Trace.AgreeButStreams) (AgreeButStream context) := by
  refine AgreeOn.simulation congruence_follows h.matcher ?_ ?_ ?_
  · intro chance s t hst
    exact .inr ⟨congrArg (Except.ok ∘ chance) hst.draws, hst.queries, congrArg (· + 1) hst.draws⟩
  · exact fun fetcher hfetcher address => follows_ask fun queries others hqueries =>
      congrFun (h.fetcher fetcher hfetcher queries others hqueries) address
  · intro prompt hprompt kind message initial
    refine follows_ask fun queries others hqueries => ?_
    rw [h.prompt prompt hprompt queries others hqueries]

/-! ### Commands without the stream -/

namespace Template

/-- An identifier in a template that was parsed. -/
theorem isIdentifier_of_mem_nodes {source : String} {t : Template} (h : parse source = .ok t)
    {name : String} (hname : .identifier name ∈ t.nodes) :
    Item.IsIdentifier (.identifier name) := by
  rcases sound_of_mem_nodes h hname with htop | hsound | hidentifier
  · cases htop
  · cases hsound
  · exact hidentifier

/-- Does a template mention no parameter of the stream? -/
def sparesStream (t : Template) : Bool :=
  (t.identifiersStarting streamFront).isEmpty

/-- A template that mentions no parameter of the stream has no such identifier, for identifiers are
in lower case. -/
theorem isOfStream_of_sparesStream {source : String} {t : Template} (h : parse source = .ok t)
    (hspares : t.sparesStream = true) {name : String} (hname : .identifier name ∈ t.nodes) :
    isOfStream name = false := by
  have hlower : Text.lower name = name := by
    cases isIdentifier_of_mem_nodes h hname with
    | name _ hchars _ => exact Text.lower_eq_self fun c hc => ascii_of_isNameChar (hchars c hc)
  rw [isOfStream, hlower, ← Bool.not_eq_true]
  intro hstream
  have hmem := mem_identifiersStarting.2 ⟨(Item.mem_namesOfItems t).2 hname, hstream⟩
  rw [List.isEmpty_iff.1 hspares] at hmem
  cases hmem

/-- The text of a template, which is exhausted where it calls a command that mentions a parameter of
the stream. -/
def evaluateSparing : Nat → Template → Evaluator
  | 0 => Item.evaluateAll fun _ _ => throw .exhausted
  | depth + 1 => Item.evaluateAll fun called p =>
    if called.sparesStream then evaluateSparing depth called p else throw .exhausted

/-- Where no such command is called, the two evaluations of a template are the same. -/
theorem follows_evaluateSparing {S : Trace → Trace → Prop} {N : String → Prop} {context : Context}
    (h : Simulation (Follows S) (AgreeOn N context))
    (hcommands : ∀ name template, context.template? name = some template →
      template.sparesStream = true → ∀ name, .identifier name ∈ template.nodes → N name)
    (depth : Nat) {t : Template} (ht : ∀ name, .identifier name ∈ t.nodes → N name) :
    Evaluator.Related (Follows S) (AgreeOn N context) (t.evaluateSparing depth)
      (t.evaluate depth) := by
  induction depth generalizing t with
  | zero =>
    exact h.items (AgreeOn.covers h ht fun _ _ _ _ _ _ => follows_exhausted _) t
      fun _ hnode => hnode
  | succ depth ih =>
    refine h.items (AgreeOn.covers h ht fun name template htemplate p q hR => ?_) t
      fun _ hnode => hnode
    split
    · next hspares => exact ih (hcommands name template htemplate hspares) p q hR
    · exact follows_exhausted _

end Template

/-- The text of a command, which is exhausted where it calls one that mentions a parameter of the
stream. -/
def Command.evaluateSparing (depth : Nat) (command : Command) (p : Parameters) :
    Evaluation String := do
  (← ofOption command.template?).evaluateSparing depth p

/-- Where no such command is called, the two evaluations of a command are the same. -/
theorem Command.follows_evaluateSparing {S : Trace → Trace → Prop} {N : String → Prop}
    {context : Context} (h : Simulation (Follows S) (AgreeOn N context))
    (hcommands : ∀ name template, context.template? name = some template →
      template.sparesStream = true → ∀ name, .identifier name ∈ template.nodes → N name)
    (depth : Nat) {command : Command} (hcommand : ∀ template, command.template? = some template →
      ∀ name, .identifier name ∈ template.nodes → N name) :
    Evaluator.Related (Follows S) (AgreeOn N context) (command.evaluateSparing depth)
      (command.evaluate depth) := by
  intro p q hR
  unfold Command.evaluateSparing Command.evaluate
  cases htemplate : command.template? with
  | none => exact congruence_follows.abort
  | some template =>
    exact Template.follows_evaluateSparing h hcommands depth (hcommand template htemplate) p q hR

namespace Registry

/-- A command that is found was parsed when it was loaded. -/
theorem parse_of_find? {lines : List String} {name : String} {command : Command} {t : Template}
    (h : (ofLines lines).find? name = some command) (ht : command.template? = some t) :
    ∃ raw, Template.parse raw = .ok t :=
  parse_of_mem_ofLines (mem_of_find? h) ht

/-- The text of the command with a name, where the state of the stream is always asked for. -/
def evaluateAsking (r : Registry) (depth : Nat) (name channel : String) (p : Parameters) :
    Evaluation String := do
  let command ← ofOption (r.find? name)
  let p ← withStream (channelName channel) (p.forChannel channel)
  command.evaluate depth p

/-- The stream is asked for first, and then the command is evaluated. -/
theorem evaluateAsking_eq {r : Registry} {name : String} {command : Command}
    (h : r.find? name = some command) (depth : Nat) (channel : String) (p : Parameters) :
    r.evaluateAsking depth name channel p =
      withStream (channelName channel) (p.forChannel channel) >>= command.evaluate depth := by
  rw [evaluateAsking, h, ofOption, pure_bind]

/-- With or without the state of a stream, a command that does not mention it yields what it does if
the commands that it calls do not mention it either. -/
theorem result_evaluateSparing {lines : List String} {p q : Parameters} {t : Trace}
    (hcommands : p.context.commands = some (ofLines lines)) (hservices : p.context.IgnoresStreams)
    {depth : Nat} {name : String} {command : Command}
    (hfind : (ofLines lines).find? name = some command)
    (hempty : command.identifiersStarting streamFront = [])
    (hspares : (command.evaluateSparing depth p).run.1 ≠ .error .exhausted)
    (hq : AgreeButStream p.context p q) (ht : Trace.AgreeButStreams {} t) :
    (command.evaluateSparing depth p).run.1 = ((command.evaluate depth q).runFrom t).1 := by
  have hcalled : ∀ name template, p.context.template? name = some template →
      template.sparesStream = true → ∀ name, .identifier name ∈ template.nodes →
        isOfStream name = false := by
    intro called template htemplate hspares name hname
    obtain ⟨command, hfind, hcommand⟩ := exists_of_template? hcommands htemplate
    obtain ⟨raw, hparse⟩ := parse_of_find? hfind hcommand
    exact Template.isOfStream_of_sparesStream hparse hspares hname
  have hcommand : ∀ template, command.template? = some template →
      ∀ name, .identifier name ∈ template.nodes → isOfStream name = false := by
    intro template htemplate name hname
    obtain ⟨raw, hparse⟩ := parse_of_find? hfind htemplate
    refine Template.isOfStream_of_sparesStream hparse (List.isEmpty_iff.2 ?_) hname
    rwa [Command.identifiersStarting, htemplate] at hempty
  have hfollows := Command.follows_evaluateSparing hservices.simulation hcalled depth hcommand
  exact ((hfollows p q hq {} t ht).resolve_left hspares).1

/-- Asking for the state of the stream only if the command mentions it makes no difference if the
commands that it calls do not mention it. -/
theorem evaluate_eq_evaluateAsking {lines : List String} {p : Parameters}
    (hcommands : p.context.commands = some (ofLines lines)) (hservices : p.context.IgnoresStreams)
    {depth : Nat} {name channel : String}
    (hspares : ∀ command, (ofLines lines).find? name = some command →
      command.identifiersStarting streamFront = [] →
        (command.evaluateSparing depth (p.forChannel channel)).run.1 ≠ .error .exhausted) :
    ((ofLines lines).evaluate depth name channel p).run.1 =
      ((ofLines lines).evaluateAsking depth name channel p).run.1 := by
  cases hfind : (ofLines lines).find? name with
  | none =>
    have habort (f : Command → Evaluation String) : ofOption none >>= f = abort := rfl
    rw [evaluate, evaluateAsking, hfind, habort, habort]
  | some command =>
    rw [evaluate_eq hfind, evaluateAsking_eq hfind]
    split
    · next hempty =>
      have hempty := List.isEmpty_iff.1 hempty
      have hcontext := p.context_forChannel channel
      rw [← hcontext] at hcommands hservices
      -- under the hypothesis nothing is exhausted that could tell the two apart
      have hresult {q : Parameters} {t : Trace} :=
        result_evaluateSparing (q := q) (t := t) hcommands hservices hfind hempty
          (hspares command hfind hempty)
      rw [withStream_bind]
      split
      · rfl
      · -- both are compared with the evaluation that is exhausted where the stream is mentioned
        have hlazy := hresult (.refl _) (t := {}) ⟨rfl, rfl⟩
        exact hlazy.symm.trans
          (hresult (Parameters.agreeButStream_putStream _ _) ⟨rfl, rfl⟩)
    · rfl

/-! ### A command that calls another one -/

/-- Two lines, of which the first one defines a command that calls the other one. -/
theorem ofLines_relay {line raw : String} {t : Template}
    (hline : splitLine? line = some ("inner", raw)) (hparse : Template.parse raw = .ok t) :
    ofLines ["outer $replace(a,a,inner,regCustom)", line] =
      [("inner", ⟨some "inner", raw, .ok t⟩),
        ("outer", ⟨some "outer", "$replace(a,a,inner,regCustom)", .ok (.calling "inner")⟩)] := by
  have houter : normalName "outer" = "outer" := by decide +kernel
  have hinner : normalName "inner" = "inner" := by decide +kernel
  have hsplit : splitLine? "outer $replace(a,a,inner,regCustom)" =
      some ("outer", "$replace(a,a,inner,regCustom)") := by decide +kernel
  have hcalling : Template.parse ("$replace(a,a," ++ "inner" ++ ",regCustom)") = .ok _ :=
    Template.parse_calling (by decide) (by simp)
  rw [ofLines, List.filterMap_cons_some (commandOf?_eq hsplit houter (by decide) hcalling),
    List.filterMap_cons_some (commandOf?_eq hline hinner (by decide) hparse)]
  rfl

/-- The command that is called mentions no parameter of the stream. -/
theorem evaluate_eq_relay :
    let r := ofLines ["outer $replace(a,a,inner,regCustom)", "inner $(v)"]
    let p : Parameters :=
      { values := [("v", "text")],
        context :=
        { commands := some r, matcher := some ruleMatcher,
          streams := some fun _ _ => some { live := true, title := "Run" } } }
    p.context.IgnoresStreams ∧
      (r.evaluate 2 "outer" "room" p).run.1 = (r.evaluateAsking 2 "outer" "room" p).run.1 := by
  intro r p
  have hidentifier : Item.IsIdentifier (.identifier "v") :=
    .name (by decide) (by simp [isNameChar]) (Template.argumentDigits?_eq_none_iff.1 rfl)
  have hline : splitLine? "inner $(v)" = some ("inner", "$(v)") := by decide +kernel
  have hr := ofLines_relay hline (Template.parse_mention hidentifier)
  have hservices : p.context.IgnoresStreams :=
    ⟨fun fetcher h => absurd h (Option.not_mem_none fetcher),
      fun prompt h => absurd h (Option.not_mem_none prompt),
      Context.matcherReads_message (.inr rfl) (by decide +kernel)⟩
  refine ⟨hservices, evaluate_eq_evaluateAsking rfl hservices fun command hfind _ => ?_⟩
  have houter : normalName "outer" = "outer" := by decide +kernel
  rw [hr, find?, houter] at hfind
  cases hfind
  simp only [p, r, hr]
  decide +kernel

/-- The command that is called mentions the title of the stream, for which nobody asks then. -/
theorem evaluate_ne_relay :
    let r := ofLines ["outer $replace(a,a,inner,regCustom)", "inner $(streamtitle)"]
    let p : Parameters :=
      { context :=
        { commands := some r, streams := some fun _ _ => some { live := true, title := "Run" } } }
    (r.evaluate 2 "outer" "room" p).run.1 = .ok "" ∧
      (r.evaluateAsking 2 "outer" "room" p).run.1 = .ok "Run" := by
  have hidentifier : Item.IsIdentifier (.identifier "streamtitle") :=
    .name (by decide) (by simp [isNameChar]) (Template.argumentDigits?_eq_none_iff.1 rfl)
  have hline : splitLine? "inner $(streamtitle)" = some ("inner", "$(streamtitle)") := by
    decide +kernel
  rw [ofLines_relay hline (Template.parse_mention hidentifier)]
  constructor <;> decide +kernel

end Registry

end CommandTemplate
