import CommandTemplate.Evaluation.Invocation
import CommandTemplate.Proofs.Evaluation.Simulation
import CommandTemplate.Proofs.Registry.Lines

/-!
Commands for a channel.

The parameters for a channel and its stream have the context of those that they are made from.  So
evaluations of the commands of a registry compare if those of their templates do in that context:
`Evaluation.Congruence.registry`.
-/

namespace CommandTemplate

open Evaluation

namespace Parameters

theorem context_putIfAbsent (p : Parameters) (name value : String) :
    (p.putIfAbsent name value).context = p.context := by
  unfold putIfAbsent
  split <;> rfl

theorem context_elim_putStream (p : Parameters) (state : Option StreamState) :
    (state.elim p p.putStream).context = p.context := by
  cases state with
  | none => rfl
  | some state => simp only [Option.elim_some, putStream, context_putIfAbsent]

/-- The parameters for a channel, if it has a name. -/
def forChannel (p : Parameters) (channel : String) : Parameters :=
  if Registry.channelName channel = "" then p else p.putChannel (Registry.channelName channel)

/-- The channel does not change the context either. -/
theorem context_forChannel (p : Parameters) (channel : String) :
    (p.forChannel channel).context = p.context := by
  unfold forChannel
  split
  · rfl
  · simp only [putChannel, context_putIfAbsent]

end Parameters

/-- Without a service for streams nothing is asked. -/
theorem withStream_bind {α : Type} (channel : String) (p : Parameters)
    (f : Parameters → Evaluation α) :
    withStream channel p >>= f =
      match p.context.streams with
      | none => f p
      | some streams => ask (.stream channel) (streams · channel) >>= fun state =>
        f (state.elim p p.putStream) := by
  unfold withStream
  cases p.context.streams with
  | none => rfl
  | some streams =>
    dsimp only
    rw [bind_assoc]
    refine congrArg _ (funext fun state => ?_)
    cases state <;> rfl

/-- The text of a command, if it has a template. -/
def Command.evaluate (depth : Nat) (command : Command) (p : Parameters) : Evaluation String := do
  (← ofOption command.template?).evaluate depth p

/-- A template that may be called is that of a command. -/
theorem Registry.exists_of_template? {r : Registry} {context : Context}
    (hcontext : context.commands = some r) {name : String} {template : Template}
    (h : context.template? name = some template) :
    ∃ command, r.find? name = some command ∧ command.template? = some template := by
  rw [Context.template?, hcontext] at h
  exact Option.bind_eq_some_iff.1 h

/-- A command is evaluated with the stream if it mentions a parameter of it. -/
theorem Registry.evaluate_eq {r : Registry} {name : String} {command : Command}
    (h : r.find? name = some command) (depth : Nat) (channel : String) (p : Parameters) :
    r.evaluate depth name channel p =
      if (command.identifiersStarting streamFront).isEmpty then
        command.evaluate depth (p.forChannel channel)
      else withStream (channelName channel) (p.forChannel channel) >>= command.evaluate depth := by
  rw [evaluate, h]
  rfl

/-- Evaluations of the commands of a registry compare if those of their templates do. -/
theorem Evaluation.Congruence.registry {E : (α : Type) → Evaluation α → Evaluation α → Prop}
    (h : Congruence E) {r : Registry} {n m : Nat} {p : Parameters}
    (hstream : ∀ streams ∈ p.context.streams, ∀ channel, E (Option StreamState)
      (ask (.stream channel) (streams · channel)) (ask (.stream channel) (streams · channel)))
    (htemplate : ∀ entry ∈ r, ∀ template, entry.2.template? = some template →
      ∀ q : Parameters, q.context = p.context →
        E String (template.evaluate n q) (template.evaluate m q))
    (name channel : String) :
    E String (r.evaluate n name channel p) (r.evaluate m name channel p) := by
  cases hfind : r.find? name with
  | none =>
    rw [Registry.evaluate, Registry.evaluate, hfind]
    exact h.abort
  | some command =>
    -- the state of a stream is put into the parameters, but the context stays the same
    have hcommand (q : Parameters) (hq : q.context = p.context) :
        E String (command.evaluate n q) (command.evaluate m q) := by
      unfold Command.evaluate
      cases ht : command.template? with
      | none => exact h.abort
      | some template => exact htemplate _ (Registry.mem_of_find? hfind) template ht q hq
    have hchannel := p.context_forChannel channel
    rw [Registry.evaluate_eq hfind, Registry.evaluate_eq hfind]
    split
    · exact hcommand _ hchannel
    · rw [withStream_bind, withStream_bind]
      split
      · exact hcommand _ hchannel
      · next streams hstreams =>
        rw [hchannel] at hstreams
        refine h.bind (hstream streams hstreams _) fun state => hcommand _ ?_
        rw [Parameters.context_elim_putStream, hchannel]

end CommandTemplate
