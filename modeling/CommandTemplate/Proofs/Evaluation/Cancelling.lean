import CommandTemplate.Proofs.Evaluation.Fetching

/-!
Prompts that are cancelled.

A text is not missed where something else stands for it: in the condition of `if`, and in an
identifier that has no value.  Everywhere else a cancelled prompt ends the whole evaluation.  So an
evaluation without prompts in conditions `Heeds` the user: either no prompt was cancelled, or the
last query was a prompt that was, and the evaluation is aborted.
-/

namespace CommandTemplate

open Parameters (AgreeOn)

/-- How the user answers prompts after the queries that were made. -/
abbrev Prompt := List Query → String → String → String → Option String

/-- Is the query a prompt that the user cancels? -/
def Query.Cancelled (prompt : Prompt) (made : List Query) : Query → Prop
  | .prompt kind message initial => prompt made kind message initial = none
  | .fetch _ _ | .stream _ => False

/-- Is none of the queries a cancelled prompt? -/
def Uncancelled (prompt : Prompt) (queries : List Query) : Prop :=
  ∀ made query rest, queries = made ++ query :: rest → ¬ query.Cancelled prompt made

/-- Is the last query a cancelled prompt, and none before? -/
def EndsCancelled (prompt : Prompt) (queries : List Query) : Prop :=
  ∃ made query, queries = made ++ [query] ∧ Uncancelled prompt made ∧ query.Cancelled prompt made

variable {prompt : Prompt}

/-- Before the first query nothing is cancelled. -/
theorem uncancelled_nil : Uncancelled prompt [] := by
  intro made query rest h
  exact absurd h.symm (List.append_ne_nil_of_right_ne_nil made (List.cons_ne_nil query rest))

/-- One more query that is not cancelled leaves none that is. -/
theorem Uncancelled.concat {made : List Query} {query : Query} (h : Uncancelled prompt made)
    (hquery : ¬ query.Cancelled prompt made) : Uncancelled prompt (made ++ [query]) := by
  intro before other rest heq
  -- what follows is empty behind the new query only
  rcases List.eq_nil_or_concat rest with rfl | ⟨rest, last, rfl⟩
  · obtain ⟨rfl, hother⟩ := List.append_inj' heq rfl
    cases hother
    exact hquery
  · rw [List.concat_eq_append, ← List.cons_append, ← List.append_assoc] at heq
    exact h before other rest (List.append_inj' heq rfl).1

/-- Where the queries end with the first prompt that is cancelled, none follows on one. -/
theorem EndsCancelled.eq_nil {made rest : List Query} {query : Query}
    (h : EndsCancelled prompt (made ++ query :: rest)) (hquery : query.Cancelled prompt made) :
    rest = [] := by
  obtain ⟨before, last, heq, hbefore, -⟩ := h
  rcases List.eq_nil_or_concat rest with rfl | ⟨rest, other, rfl⟩
  · rfl
  · rw [List.concat_eq_append, ← List.cons_append, ← List.append_assoc] at heq
    exact absurd hquery (hbefore made query rest (List.append_inj' heq rfl).1.symm)

/-! ### Evaluations -/

namespace Evaluation

variable {α β : Type}

/-- Is the evaluation aborted right after the first prompt that is cancelled? -/
def Heeds (prompt : Prompt) (x : Evaluation α) : Prop :=
  ∀ s, Uncancelled prompt s.queries →
    Uncancelled prompt (x.runFrom s).2.queries ∨
      (x.runFrom s).1 = .error .aborted ∧ EndsCancelled prompt (x.runFrom s).2.queries

/-- An evaluation that cancels nothing heeds the user. -/
theorem Keeps.heeds {x : Evaluation α} (h : x.Keeps (Uncancelled prompt)) : x.Heeds prompt :=
  fun s hs => .inl (h s hs)

/-- Where the first of two evaluations is cancelled, the second one is left out. -/
theorem Heeds.bind {x : Evaluation α} {f : α → Evaluation β} (hx : x.Heeds prompt)
    (hf : ∀ a, (f a).Heeds prompt) : (x >>= f).Heeds prompt := by
  intro s hs
  have hxs := hx s hs
  rw [runFrom_bind]
  generalize x.runFrom s = r at hxs
  obtain ⟨result, t⟩ := r
  cases result with
  | ok a =>
    -- what yields a value was not cancelled
    have ht : Uncancelled prompt t.queries := hxs.resolve_right fun h => nomatch h.1
    exact hf a t ht
  | error halt => exact hxs.imp_right fun ⟨hhalt, hends⟩ => ⟨by cases hhalt; rfl, hends⟩

/-- A prompt is a query whose answer is yielded, if there is one. -/
theorem runFrom_prompted {context : Context} (h : context.prompt = some prompt)
    (kind message initial : String) (s : Trace) :
    (prompted context kind message initial).runFrom s =
      (ofOption (prompt s.queries kind message initial)).runFrom
        { s with queries := s.queries ++ [.prompt kind message initial] } := by
  rw [prompted, h]
  show (ask (.prompt kind message initial) (prompt · kind message initial) >>=
    ofOption).runFrom s = _
  rw [runFrom_bind]
  rfl

/-- A prompt is the one step that cancels, and it aborts at once. -/
theorem heeds_prompted {context : Context} (h : context.prompt = some prompt)
    (kind message initial : String) : (prompted context kind message initial).Heeds prompt := by
  intro s hs
  rw [runFrom_prompted h]
  cases hanswer : prompt s.queries kind message initial with
  | none =>
    have hcancelled : (Query.prompt kind message initial).Cancelled prompt s.queries := hanswer
    exact .inr ⟨rfl, s.queries, _, rfl, hs, hcancelled⟩
  | some answer =>
    have hanswered : ¬ (Query.prompt kind message initial).Cancelled prompt s.queries :=
      fun hnone => nomatch hanswer.symm.trans hnone
    exact .inl (hs.concat hanswered)

theorem keeps_fetched_uncancelled (context : Context) (required shows trims : Bool)
    (address : String) :
    (fetched context required shows trims address).Keeps (Uncancelled prompt) :=
  keeps_fetched (fun _ _ _ hmade => hmade.concat id) required shows trims address

end Evaluation

open Evaluation

/-! ### Templates -/

/-- Heeding the user goes along with all steps but catching an abort. -/
theorem stepwise_heeds (prompt : Prompt) (context : Context) :
    Stepwise (Alone fun _ => Heeds prompt) (AgreeOn (fun _ => True) context) :=
  AgreeOn.stepwise (fun a => (keeps_pure a).heeds) keeps_abort.heeds Heeds.bind
    (fun chance => (keeps_draw chance).heeds) context

namespace Template

/-- Is nothing asked in the condition of an `if`? -/
def ConditionsUnasked (t : Template) : Prop :=
  ∀ arguments required, .call .ifGiven arguments required ∈ t.nodes →
    ∀ asked required', .call .input asked required' ∉ nodes (arguments.getD 0 [])

variable {context : Context} {callCommand : Template → Evaluator}

/-- A template without prompts cancels none. -/
theorem keeps_uncancelled {t : Template} {p : Parameters} (hcommands : p.context.commands = none)
    (ht : ∀ asked required, .call .input asked required ∉ t.nodes) :
    (Item.evaluateAll callCommand t p).Keeps (Uncancelled prompt) := by
  refine Item.keeps_evaluateAll ?_ ?_ ?_
  · intro name template htemplate
    rw [Context.template?_eq_none hcommands] at htemplate
    cases htemplate
  · intro arguments required _ shows trims address
    exact keeps_fetched_uncancelled p.context required shows trims address
  · intro asked required hnode
    exact absurd hnode (ht asked required)

/-- The nodes of a template that was parsed are covered, since nothing is asked where an abort is
caught. -/
theorem covers_heeds {source : String} {t : Template} (hparse : parse source = .ok t)
    (hconditions : t.ConditionsUnasked) (hprompt : context.prompt = some prompt)
    (hcommands : context.commands = none) :
    Stepwise.Covers (Alone fun _ => Heeds prompt) (AgreeOn (fun _ => True) context) callCommand
      callCommand t.nodes where
  identifier _ _ _ hR := hR.values _ trivial
  escaped _ _ _ hR := by rw [hR.left, hR.right]
  replacement {item required} hnode _ p q _ := by
    -- only identifiers stand in replacements, and they ask nothing
    have hitem : item.IsIdentifier := by
      rcases sound_of_mem_nodes hparse hnode with h | h | h <;> cases h
      assumption
    refine Keeps.heeds (Keeps.orEmpty ?_)
    cases hitem with
    | name | argument => exact keeps_ofOption _
  call {builtin arguments required} hnode hargs p q hR := by
    have h := stepwise_heeds prompt context
    refine h.builtin hR builtin (h.demand required) hargs ?_ ?_ ?_ ?_
    · rintro rfl
      rw [argumentAt_evaluators]
      have hcondition := hconditions arguments required hnode
      have hp : p.context.commands = none := by rw [hR.left, hcommands]
      exact (keeps_uncancelled hp hcondition).orEmpty.heeds
    · rintro -
      refine h.replacing hR hargs fun name template htemplate => ?_
      rw [hR.left, Context.template?_eq_none hcommands] at htemplate
      cases htemplate
    · intro _ shows trims address
      exact (keeps_fetched_uncancelled p.context required shows trims address).heeds
    · intro _ kind message initial
      exact heeds_prompted (hR.left ▸ hprompt) kind message initial

/-- A cancelled prompt is the last query, and the template yields nothing. -/
theorem aborted_of_cancelled {source : String} {t : Template} (hparse : parse source = .ok t)
    (hconditions : t.ConditionsUnasked) {p : Parameters} (hprompt : p.context.prompt = some prompt)
    (hcommands : p.context.commands = none) {depth : Nat} {made rest : List Query}
    {kind message initial : String}
    (hqueries : (t.evaluate depth p).run.2.queries = made ++ .prompt kind message initial :: rest)
    (hcancelled : prompt made kind message initial = none) :
    (t.evaluate depth p).run.1 = .error .aborted ∧ rest = [] := by
  have hheeds : (t.evaluate depth p).Heeds prompt := by
    rw [evaluate_eq]
    exact (stepwise_heeds prompt p.context).items
      (covers_heeds hparse hconditions hprompt hcommands) t (fun _ h => h) p p (.refl p)
  rcases hheeds {} uncancelled_nil with huncancelled | ⟨haborted, hends⟩
  · exact absurd hcancelled (huncancelled made _ rest hqueries)
  · have hends' : EndsCancelled prompt (made ++ .prompt kind message initial :: rest) :=
      hqueries ▸ hends
    exact ⟨haborted, hends'.eq_nil hcancelled⟩

/-- The name of a prompt in a text is read up to its closing parenthesis. -/
theorem readsSpecial_input {d : Nat} (hd : d < maxNesting) (rest : List Char) (p : Nat) :
    ReadsSpecial d ⟨['i', 'n', 'p', 'u', 't', '(', ')'] ++ rest, p⟩ (.call .input [] false)
      ⟨rest, p + 7⟩ := by
  have hrun : Text.Scanner.run Char.isAlpha ⟨['i', 'n', 'p', 'u', 't', '(', ')'] ++ rest, p⟩ =
      (['i', 'n', 'p', 'u', 't'], ⟨'(' :: ')' :: rest, p + 5⟩) := rfl
  exact .call hd (.optional (by simp [Text.Scanner.peek?])) hrun (by decide)
    (.plain (by decide) rfl .nothing)

/-- Of three prompts the second one, which a condition leads to, is cancelled. -/
theorem aborted_condition :
    let source := "$input()$if(n,$input())$input()"
    let t : Template := [.escaped (.call .input [] false),
      .escaped (.call .ifGiven [[.replacement (.identifier "n") false], [.call .input [] false]]
        false), .escaped (.call .input [] false)]
    let prompt : Prompt := fun made _ _ _ => if made = [] then some "a" else none
    let p : Parameters := { values := [("n", "1")], context := { prompt := some prompt } }
    parse source = .ok t ∧ t.ConditionsUnasked ∧
      (t.evaluate 1 p).run.2.queries = [.prompt "" "" "", .prompt "" "" ""] ∧
      (t.evaluate 1 p).run.1 = .error .aborted := by
  intro source t prompt p
  -- the template is read from the inside: the prompt in the condition, then what is around it
  have hthen : ReadsItems 1 .commaOrParenthesis ⟨"$input())$input()".toList, 14⟩
      (textItems [] ++ [.call .input [] false]) ⟨")$input()".toList, 22⟩ :=
    .special rfl (readsSpecial_input (by decide) _ _) (.text rfl (by decide))
  have hcondition : ReadsSpecial 0 ⟨"if(n,$input())$input()".toList, 9⟩
      (.call .ifGiven [[.replacement (.identifier "n") false], [.call .input [] false]] false)
      ⟨"$input()".toList, 23⟩ := by
    refine .call ?_ (.optional ?_) rfl ?_ (.plain ?_ rfl
      (.identifierFirst (.identifier ?_ rfl rfl) (.last hthen ?_))) <;> decide
  have hlast : ReadsItems 0 .none ⟨"$input()".toList, 23⟩
      (textItems [] ++ [.call .input [] false]) ⟨[], 31⟩ :=
    .special rfl (readsSpecial_input (by decide) _ _) (.text rfl (by decide))
  have hfirst : ReadsSpecial 0 ⟨"input()$if(n,$input())$input()".toList, 1⟩ (.call .input [] false)
      ⟨"$if(n,$input())$input()".toList, 8⟩ := readsSpecial_input (by decide) _ 1
  have hreads : ReadsItems 0 .none (.ofString "$input()$if(n,$input())$input()") _ ⟨[], 31⟩ :=
    .special rfl hfirst (.special rfl hcondition hlast)
  have hparse : parse source = .ok t := parse_of_reads hreads
  have hconditions : t.ConditionsUnasked := by
    intro arguments required hnode asked required'
    obtain ⟨rfl, -⟩ : arguments = [[.replacement (.identifier "n") false],
        [.call .input [] false]] ∧ required = false := by
      simpa [t, nodes, Item.nodes, Item.nodesOfItems, Item.nodesOfArguments] using hnode
    simp [nodes, Item.nodes, Item.nodesOfItems]
  have hqueries : (t.evaluate 1 p).run.2.queries = [.prompt "" "" "", .prompt "" "" ""] := by
    decide +kernel
  -- the last of the queries is the second one, which is cancelled
  have hlist : (t.evaluate 1 p).run.2.queries = [.prompt "" "" ""] ++ .prompt "" "" "" :: [] :=
    hqueries
  have haborted := aborted_of_cancelled hparse hconditions rfl rfl hlist rfl
  exact ⟨hparse, hconditions, hqueries, haborted.1⟩

end Template

end CommandTemplate
