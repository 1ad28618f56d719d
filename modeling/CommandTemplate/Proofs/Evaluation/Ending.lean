import CommandTemplate.Proofs.Evaluation.Calling
import CommandTemplate.Proofs.Evaluation.Invocation
import CommandTemplate.Proofs.Evaluation.Limit

/-!
Commands that end.

A command that calls itself does not end: it is exhausted under every limit (`exhausted_loop`).
Commands end that call others by fixed names and downwards: `Registry.Ranked rank` says that each
`$replace` in a command has a fixed mode that calls no command, or the fixed name of a command of
lower rank.  Then `exists_limit` gives one limit for all commands, parameters and channels.
-/

namespace CommandTemplate

open Parameters (AgreeOn)

/-! ### Evaluations that end -/

namespace Evaluation

/-- Is the evaluation never exhausted? -/
def Ends {α : Type} (x : Evaluation α) : Prop :=
  ∀ s, (x.runFrom s).1 ≠ .error .exhausted

theorem ends_ask {α : Type} (query : Query) (answer : List Query → α) : (ask query answer).Ends :=
  fun _ => nofun

/-- Evaluations that end do so when they are put together. -/
theorem congruence_ends : Congruence fun _ x _ => x.Ends where
  pure _ _ := nofun
  abort _ := nofun
  bind := by
    intro α β x _ f _ hx hf s
    rw [runFrom_bind]
    have hxs := hx s
    generalize x.runFrom s = r at hxs
    obtain ⟨result, t⟩ := r
    cases result with
    | ok a => exact hf a t
    | error halt => exact fun h => hxs (congrArg _ (Except.error.inj h))
  orEmpty := by
    intro x _ hx s
    rw [runFrom_orEmpty]
    have hxs := hx s
    generalize x.runFrom s = r at hxs
    obtain ⟨result, t⟩ := r
    cases result with
    | ok text => exact nofun
    | error halt =>
      cases halt with
      | aborted => exact nofun
      | exhausted => exact absurd rfl hxs

end Evaluation

open Evaluation

theorem simulation_ends (context : Context) :
    Simulation (fun _ x _ => x.Ends) (AgreeOn (fun _ => True) context) :=
  AgreeOn.simulation congruence_ends context.matcherReads_all (fun _ _ => nofun)
    (fun _ _ _ => ends_ask _ _) fun _ _ _ _ _ => ends_ask _ _

/-! ### Calls by fixed names -/

/-- Does a node, if it replaces, call no command or one whose name is fixed and in `N`? -/
def Item.CallsOnly (N : String → Prop) : Item → Prop
  | .call .replace arguments _ =>
    (∃ mode, Template.fixedText? (arguments.getD 3 []) = some mode ∧
      ReplaceMode.ofName (Text.trim mode) ≠ .byCommand) ∨
    ∃ name, Template.fixedText? (arguments.getD 2 []) = some name ∧ N (Text.trim name)
  | _ => True

/-- Nodes that call only some commands compare if these do. -/
theorem Simulation.replacing_of_callsOnly {E : (α : Type) → Evaluation α → Evaluation α → Prop}
    {R : Parameters → Parameters → Prop} {callCommand callCommand' : Template → Evaluator}
    {p q : Parameters} {arguments : List Template} {required : Bool} {N : String → Prop}
    (h : Simulation E R) (hR : R p q)
    (hnode : (Item.call .replace arguments required).CallsOnly N)
    (hargs : List.Forall₂ (Evaluator.Related E R) (Item.evaluators callCommand arguments)
      (Item.evaluators callCommand' arguments))
    (hcall : ∀ name, N name → ∀ template, p.context.template? name = some template →
      Evaluator.Related E R (callCommand template) (callCommand' template))
    (text search : String) :
    E String (replacing callCommand (Item.evaluators callCommand arguments) text search p)
      (replacing callCommand' (Item.evaluators callCommand' arguments) text search q) := by
  -- either the mode is known, and it calls nothing, or the name of the command is
  have himage := h.stepwise.argumentAt hargs 2
  rcases hnode with ⟨mode, hfixed, hmode⟩ | ⟨name, hfixed, hname⟩
  · have hmodes callCommand p :
        argumentAt (Item.evaluators callCommand arguments) 3 p = pure mode := by
      rw [argumentAt_evaluators, Template.evaluateAll_of_fixedText? hfixed]
    unfold replacing
    rw [hmodes, hmodes, pure_bind, pure_bind]
    exact h.stepwise.replaced hR _ text search himage fun heq => absurd heq hmode
  · have hnames callCommand p :
        argumentAt (Item.evaluators callCommand arguments) 2 p = pure name := by
      rw [argumentAt_evaluators, Template.evaluateAll_of_fixedText? hfixed]
    refine h.bind (h.stepwise.argumentAt hargs 3 p q hR) fun mode => ?_
    cases ReplaceMode.ofName (Text.trim mode) with
    | fixed | evaluated => exact h.stepwise.replaced hR _ text search himage nofun
    | byCommand =>
      rw [replaced_byCommand, replaced_byCommand]
      split
      · exact h.pure _
      · rw [hnames, hnames, pure_bind, pure_bind]
        exact h.stepwise.replaceByCommand hR _ text _ (hcall _ hname)

/-- A node calls only what it may if more may be called. -/
theorem Item.CallsOnly.mono {N M : String → Prop} (h : ∀ name, N name → M name) {node : Item}
    (hnode : node.CallsOnly N) : node.CallsOnly M := by
  unfold Item.CallsOnly at hnode ⊢
  split
  · rcases hnode with hmode | ⟨name, hfixed, hname⟩
    · exact .inl hmode
    · exact .inr ⟨name, hfixed, h _ hname⟩
  · trivial

/-! ### Registries -/

namespace Registry

/-- Do the commands call one another by fixed names and downwards only? -/
def Ranked (rank : String → Nat) (r : Registry) : Prop :=
  ∀ entry ∈ r, ∀ template, entry.2.template? = some template → ∀ node ∈ template.nodes,
    node.CallsOnly fun called =>
      (r.find? called).isSome = true → rank (normalName called) < rank entry.1

variable {r : Registry} {rank : String → Nat} {context : Context}

/-- A template ends under a limit that is above the ranks of the commands it calls. -/
theorem Ranked.ends_evaluate (hranked : r.Ranked rank) (hcontext : context.commands = some r)
    (n : Nat) {t : Template}
    (ht : ∀ node ∈ t.nodes, node.CallsOnly fun called =>
      (r.find? called).isSome = true → rank (normalName called) < n) :
    Evaluator.Related (fun _ x _ => x.Ends) (AgreeOn (fun _ => True) context) (t.evaluate n)
      (t.evaluate n) := by
  induction n using Nat.strongRecOn generalizing t with
  | ind n ih =>
    rw [Template.evaluate_eq]
    have h := simulation_ends context
    refine h.items ⟨?_, ?_, ?_⟩ t fun _ hnode => hnode
    · exact fun _ _ _ hR => hR.values _ trivial
    · intro _ _ _ _ hR
      rw [hR.left, hR.right]
    · intro arguments required hnode hargs p q hR text search
      refine h.replacing_of_callsOnly hR (ht _ hnode) hargs ?_ text search
      intro name hname template htemplate
      rw [hR.left] at htemplate
      obtain ⟨command, hfind, hcommand⟩ := exists_of_template? hcontext htemplate
      have hlower : rank (normalName name) < n := hname (by rw [hfind]; rfl)
      -- what this command calls has a lower rank still, so the limit less one is above that
      cases n with
      | zero => exact absurd hlower (Nat.not_lt_zero _)
      | succ n =>
        refine ih n (Nat.lt_succ_self n) fun node hnode => ?_
        refine (hranked _ (mem_of_find? hfind) template hcommand node hnode).mono ?_
        exact fun called hcalled hsome => (hcalled hsome).trans_le (Nat.le_of_lt_succ hlower)

/-- The ranks of all commands lie below some number. -/
theorem exists_rank_le (rank : String → Nat) (r : Registry) :
    ∃ n, ∀ entry ∈ r, rank entry.1 ≤ n := by
  induction r with
  | nil => exact ⟨0, nofun⟩
  | cons first others ih =>
    obtain ⟨n, hn⟩ := ih
    refine ⟨max (rank first.1) n, List.forall_mem_cons.2 ⟨Nat.le_max_left _ _, ?_⟩⟩
    exact fun entry hentry => (hn entry hentry).trans (Nat.le_max_right _ _)

/-- One limit is enough for all evaluations of the commands. -/
theorem exists_limit (hranked : r.Ranked rank) :
    ∃ n, ∀ m, n ≤ m → ∀ (name channel : String) (p : Parameters), p.context.commands = some r →
      (r.evaluate m name channel p).run.1 ≠ .error .exhausted ∧
        r.evaluate m name channel p = r.evaluate n name channel p := by
  obtain ⟨n, hn⟩ := exists_rank_le rank r
  refine ⟨n, fun m hm name channel p hp => ?_⟩
  have hends : ∀ entry ∈ r, ∀ template, entry.2.template? = some template →
      ∀ q : Parameters, q.context = p.context → (template.evaluate n q).Ends := by
    intro entry hentry template htemplate q hq
    refine hranked.ends_evaluate (hq ▸ hp) n (fun node hnode => ?_) q q (.refl q)
    refine (hranked entry hentry template htemplate node hnode).mono ?_
    exact fun called hcalled hsome => (hcalled hsome).trans_le (hn entry hentry)
  have heq : r.evaluate m name channel p = r.evaluate n name channel p := by
    refine congruence_eq.registry (fun _ _ _ => rfl) ?_ name channel
    intro entry hentry template htemplate q hq
    exact funext fun s => Template.evaluate_of_le hm (hends entry hentry template htemplate q hq s)
  have hend : (r.evaluate n name channel p).Ends :=
    congruence_ends.registry (m := n) (fun _ _ _ => ends_ask _ _) hends name channel
  refine ⟨?_, heq⟩
  rw [heq]
  exact hend {}

/-- A command that calls another one. -/
theorem exists_limit_outer :
    let r : Registry :=
      [("outer", ⟨some "outer", "$replace(a,a,inner,regCustom)", .ok (.calling "inner")⟩),
        ("inner", ⟨some "inner", "$(v)", .ok [.escaped (.replacement (.identifier "v") false)]⟩)]
    let rank := fun name => if name = "outer" then 1 else 0
    r.Ranked rank ∧
      ∃ n, ∀ m, n ≤ m → ∀ (name channel : String) (p : Parameters), p.context.commands = some r →
        (r.evaluate m name channel p).run.1 ≠ .error .exhausted ∧
          r.evaluate m name channel p = r.evaluate n name channel p := by
  intro r rank
  have hranked : r.Ranked rank := by
    intro entry hentry template htemplate node hnode
    simp only [r, List.mem_cons, List.not_mem_nil, or_false] at hentry
    rcases hentry with rfl | rfl
    · cases htemplate
      simp only [Template.nodes, Template.calling, Template.callingItem, Item.nodesOfItems,
        Item.nodes, Item.nodesOfArguments, List.append_nil, List.cons_append, List.nil_append,
        List.mem_cons, List.not_mem_nil, or_false] at hnode
      -- one node of the first command replaces, and its name is fixed
      rcases hnode with rfl | rfl | rfl | rfl | rfl | rfl
      · trivial
      · exact Or.inr ⟨"inner", rfl, fun _ => by decide +kernel⟩
      all_goals trivial
    · cases htemplate
      simp only [Template.nodes, Item.nodesOfItems, Item.nodes, List.append_nil, List.mem_cons,
        List.not_mem_nil, or_false] at hnode
      rcases hnode with rfl | rfl | rfl <;> trivial
  exact ⟨hranked, exists_limit hranked⟩

/-! ### Commands that do not end -/

/-- A template that calls a command whose template it is. -/
theorem exhausted_calling {name : String} (depth : Nat) {p : Parameters}
    (h : p.context.template? (Text.trim name) = some (Template.calling name)) (s : Trace) :
    (((Template.calling name).evaluate depth p).runFrom s).1 = .error .exhausted := by
  induction depth generalizing p s with
  | zero =>
    rw [Template.evaluate, Template.evaluateAll_calling _ h, runFrom_map]
    rfl
  | succ depth ih =>
    have hmatch : (p.forMatch "a" []).context = p.context :=
      ((AgreeOn.refl (N := fun _ => True) p).forMatch "a" []).left
    rw [Template.evaluate, Template.evaluateAll_calling _ h, runFrom_map, ih (hmatch ▸ h) s]
    rfl

/-- A registry with one command, which calls itself. -/
def loop : Registry :=
  ofLines ["loop $replace(a,a,loop,regCustom)"]

/-- The registry has the one command, which calls itself. -/
theorem find?_loop : loop.find? "loop" =
    some ⟨some "loop", "$replace(a,a,loop,regCustom)", .ok (Template.calling "loop")⟩ := by
  have hsplit : splitLine? "loop $replace(a,a,loop,regCustom)" =
      some ("loop", "$replace(a,a,loop,regCustom)") := by decide +kernel
  have hname : normalName "loop" = "loop" := by decide +kernel
  have hparse : Template.parse ("$replace(a,a," ++ "loop" ++ ",regCustom)") = .ok _ :=
    Template.parse_calling (by decide) (by simp)
  rw [loop, ofLines_singleton hsplit hname (by decide) hparse, find?, hname]
  rfl

/-- No limit is enough for a command that calls itself. -/
theorem exhausted_loop :
    ¬ ∃ n, ∀ (name channel : String) (p : Parameters), p.context.commands = some loop →
      (loop.evaluate n name channel p).run.1 ≠ .error .exhausted := by
  rintro ⟨n, hn⟩
  let p : Parameters := { context := { commands := some loop } }
  have htemplate : p.context.template? (Text.trim "loop") = some (Template.calling "loop") := by
    rw [show Text.trim "loop" = "loop" by decide +kernel]
    show loop.find? "loop" >>= Command.template? = _
    rw [find?_loop]
    rfl
  refine hn "loop" "" p rfl ?_
  rw [evaluate_eq find?_loop, if_pos (by decide +kernel)]
  exact exhausted_calling n htemplate {}

end Registry

end CommandTemplate
