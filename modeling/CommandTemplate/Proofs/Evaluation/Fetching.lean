import CommandTemplate.Proofs.Evaluation.Calling
import CommandTemplate.Proofs.Evaluation.Invocation
import CommandTemplate.Proofs.Evaluation.Queries
import CommandTemplate.Proofs.Text.Blank

/-!
Which addresses are fetched.

A context has a fetcher or not, and lets it be used or not.  The parameters of callbacks, of
commands and of the bodies of documents all have the context of those they are made from, so what a
context does not grant is fetched nowhere in an evaluation: `Template.keepsGranted_evaluate` is by
induction on how deeply commands call one another.  A registry asks for the state of a stream and
then evaluates the template of a command, so the same goes for what it runs
(`Registry.granted_of_run`).
-/

namespace CommandTemplate

open Evaluation

/-- Does the context let addresses be fetched, if the query fetches one, and is it a trimmed address
of a web page? -/
def Query.Granted (context : Context) : Query → Prop
  | .fetch address _ => context.allowRequest = true ∧ context.fetcher.isSome = true ∧
      Text.trim address = address ∧ Url.isWebAddress address = true
  | .prompt _ _ _ | .stream _ => True

namespace Evaluation

/-- Before it fetches an address, `request` sees to it that the context grants that. -/
theorem keeps_fetched {I : List Query → Prop} {context : Context}
    (hfetch : ∀ address, (Query.fetch address fetchLabel).Granted context →
      ∀ made, I made → I (made ++ [.fetch address fetchLabel]))
    (required shows trims : Bool) (address : String) :
    (fetched context required shows trims address).Keeps I := by
  have hdemand text : (demand required text).Keeps I :=
    (stepwise_keeps I context).demand required text
  have hfail (message : String) :
      (if shows then pure ("Error: " ++ message) else demand required "" :
        Evaluation String).Keeps I := by
    split
    · exact keeps_pure _
    · exact hdemand ""
  unfold fetched
  cases hfetcher : context.fetcher.filter fun _ => context.allowRequest with
  | none => exact hfail _
  | some fetcher =>
    obtain ⟨hsome, hallowed⟩ := Option.filter_eq_some_iff.1 hfetcher
    dsimp only
    split
    · next hweb =>
      -- here alone a query is made, and all that it needs has been looked at
      have hgranted : (Query.fetch (Text.trim address) fetchLabel).Granted context :=
        ⟨hallowed, Option.isSome_of_eq_some hsome, Text.trim_trim address, hweb⟩
      refine Keeps.bind (keeps_ask (hfetch _ hgranted) _) fun response => ?_
      split
      · exact hfail _
      · exact hdemand _
      · exact hfail _
    · exact hfail _

/-- The user is asked once, if at all. -/
theorem keeps_prompted {I : List Query → Prop} {context : Context} {kind message initial : String}
    (hprompt : ∀ made, I made → I (made ++ [.prompt kind message initial])) :
    (prompted context kind message initial).Keeps I := by
  unfold prompted
  cases context.prompt with
  | none => exact keeps_abort
  | some prompt => exact Keeps.bind (keeps_ask hprompt _) keeps_ofOption

/-- Are all queries granted if those made before were? -/
def KeepsGranted {α : Type} (context : Context) (x : Evaluation α) : Prop :=
  x.Keeps fun queries => ∀ query ∈ queries, query.Granted context

variable {α : Type} {context : Context}

/-- One more query that is granted leaves all of them granted. -/
theorem forall_granted_append {query : Query} (h : query.Granted context) (made : List Query)
    (hmade : ∀ query ∈ made, query.Granted context) :
    ∀ other ∈ made ++ [query], other.Granted context :=
  List.forall_mem_append.2 ⟨hmade, List.forall_mem_singleton.2 h⟩

theorem keepsGranted_ask {query : Query} (h : query.Granted context) (answer : List Query → α) :
    (ask query answer).KeepsGranted context :=
  keeps_ask (forall_granted_append h) answer

/-- A prompt fetches nothing. -/
theorem keepsGranted_prompted (context : Context) (kind message initial : String) :
    (prompted context kind message initial).KeepsGranted context := by
  have hprompt : (Query.prompt kind message initial).Granted context := trivial
  exact keeps_prompted (forall_granted_append hprompt)

end Evaluation

/-! ### Templates -/

/-- Items fetch what is granted if the commands do that are called from them. -/
theorem Item.keepsGranted_evaluateAll {callCommand : Template → Evaluator} {p : Parameters}
    (hcall : ∀ template (q : Parameters), q.context = p.context →
      (callCommand template q).KeepsGranted p.context) (items : List Item) :
    (Item.evaluateAll callCommand items p).KeepsGranted p.context := by
  refine Item.keeps_evaluateAll ?_ ?_ ?_
  · exact fun _ template _ => hcall template
  · exact fun _ _ _ => keeps_fetched (fun _ => forall_granted_append) _
  · exact fun _ _ _ => keepsGranted_prompted p.context

namespace Template

/-- A command has the context of the template that calls it. -/
theorem keepsGranted_evaluate (depth : Nat) (t : Template) (p : Parameters) :
    (t.evaluate depth p).KeepsGranted p.context := by
  induction depth generalizing t p with
  | zero => exact Item.keepsGranted_evaluateAll (fun _ _ _ => keeps_exhausted) t
  | succ depth ih =>
    refine Item.keepsGranted_evaluateAll (fun template q hq => ?_) t
    rw [← hq]
    exact ih template q

/-- Nothing is fetched that the context does not grant, and nothing but trimmed addresses of web
pages. -/
theorem granted_of_fetch {depth : Nat} {t : Template} {p : Parameters} {address label : String}
    (h : .fetch address label ∈ (t.evaluate depth p).run.2.queries) :
    p.context.allowRequest = true ∧ p.context.fetcher.isSome = true ∧
      Text.trim address = address ∧ Url.isWebAddress address = true :=
  keepsGranted_evaluate depth t p {} nofun _ h

/-- A command fetches the address that it is given with blanks around it. -/
theorem granted_calling :
    let command : Template := [.escaped (.call .request [[.literal " http://[::1] "]] false)]
    let context : Context :=
      { commands := some [("page", ⟨some "page", "$request( http://[::1] )", .ok command⟩)],
        fetcher := some fun _ _ => {}, allowRequest := true }
    let p : Parameters := { context }
    .fetch "http://[::1]" fetchLabel ∈ ((calling "page").evaluate 1 p).run.2.queries ∧
      p.context.allowRequest = true ∧ p.context.fetcher.isSome = true ∧
      Text.trim "http://[::1]" = "http://[::1]" ∧ Url.isWebAddress "http://[::1]" = true := by
  intro command context p
  have hcommand : p.context.template? (Text.trim "page") = some command := by decide +kernel
  have hfetch : .fetch "http://[::1]" fetchLabel ∈
      ((calling "page").evaluate 1 p).run.2.queries := by
    rw [evaluate, evaluateAll_calling _ hcommand]
    decide +kernel
  exact ⟨hfetch, granted_of_fetch hfetch⟩

end Template

/-! ### Commands -/

/-- A command gets the context of the parameters that it is run with. -/
theorem Registry.keepsGranted_evaluate (r : Registry) (depth : Nat) (name channel : String)
    (p : Parameters) : (r.evaluate depth name channel p).KeepsGranted p.context := by
  refine (congruence_keeps _).registry (m := depth) ?_ ?_ name channel
  · intro _ _ channel
    have hstream : (Query.stream channel).Granted p.context := trivial
    exact keepsGranted_ask hstream _
  · intro _ _ template _ q hq
    rw [← hq]
    exact template.keepsGranted_evaluate depth q

/-- No command of a registry fetches what the context does not grant. -/
theorem Registry.granted_of_run {r : Registry} {name channel : String} {p : Parameters}
    {address label : String} (h : .fetch address label ∈ (r.run name channel p).2) :
    p.context.allowRequest = true ∧ p.context.fetcher.isSome = true ∧
      Text.trim address = address ∧ Url.isWebAddress address = true :=
  r.keepsGranted_evaluate _ name channel p {} nofun _ h

end CommandTemplate
