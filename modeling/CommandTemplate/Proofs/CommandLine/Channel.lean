import CommandTemplate.CommandLine.Action
import CommandTemplate.Proofs.Evaluation.Calling
import CommandTemplate.Proofs.Evaluation.Invocation
import CommandTemplate.Proofs.Evaluation.Limit
import CommandTemplate.Proofs.Parameters
import CommandTemplate.Proofs.Text.Blank

/-!
The channel of a template on the command line, and the channel of a command.

A command takes the blanks around a channel away, and then the number signs in front.  A channel of
which nothing is left is none, and neither parameter gets a value.  The command line takes away the
number signs only, and it puts the rest into the parameters even if there is none.  So the two come
to the same for channels with a name and no blanks around it (`channelsAgree_iff`).  For all others
`$(channel)` or `$(chan)` tells them apart.
-/

namespace CommandTemplate

open Evaluation

namespace Template

/-- The template that puts a parameter in. -/
def mention (name : String) : Template :=
  [.escaped (.replacement (.identifier name) false)]

/-- Its text is the value of the parameter. -/
theorem run_mention (name : String) {p : Parameters} (h : p.context.escapes = {}) :
    (mention name).run p = (some ((p.get? name).getD ""), []) := by
  have hvalue : orEmpty (ofOption (p.get? name)) = pure ((p.get? name).getD "") := by
    cases p.get? name <;> rfl
  have hall callCommand :
      Item.evaluateAll callCommand (mention name) p = pure ((p.get? name).getD "") := by
    simp [mention, Item.evaluateAll, Item.evaluate, hvalue, h, Escapes.apply, demand]
  rw [run, evaluate_eq, hall]
  rfl

end Template

namespace Parameters

/-- The names of the parameters for a channel. -/
def channelNames : List String := ["chan", "channel"]

/-- The names of a channel are identifiers. -/
theorem isIdentifier_of_mem {name : String} (h : name ∈ channelNames) :
    (Item.identifier name).IsIdentifier := by
  have hnames : ∀ name ∈ channelNames, name ≠ "" ∧ name.toList.all isNameChar = true ∧
      Template.argumentDigits? name.toList = none := by decide
  obtain ⟨hne, hchars, hdigits⟩ := hnames name h
  exact .name hne (List.all_eq_true.1 hchars) (Template.argumentDigits?_eq_none_iff.1 hdigits)

/-- The channel is there with its sign and without. -/
theorem get?_putChannel (channel : String) :
    (putChannel {} channel).get? "chan" = some channel ∧
      (putChannel {} channel).get? "channel" = some ("#" ++ channel) := by
  have hnames : Text.lower "channel" ≠ Text.lower "chan" := by decide +kernel
  have hchan : putIfAbsent {} "chan" channel = put {} "chan" channel := rfl
  have habsent : (put {} "chan" channel).contains "channel" = false := by
    rw [contains, get?_put, if_neg hnames]
    rfl
  rw [putChannel, hchan, putIfAbsent, habsent, if_neg Bool.false_ne_true, get?_put, get?_put,
    if_neg hnames.symm, if_pos rfl, get?_put, if_pos rfl]
  exact ⟨rfl, rfl⟩

end Parameters

namespace Registry

/-- Each text that does not end with a blank is loaded behind a name. -/
theorem find?_of_parse {raw : String} {t : Template} (hparse : Template.parse raw = .ok t)
    (hne : raw ≠ "") (hend : ∀ c ∈ raw.toList.getLast?, Text.isBlank c = false) :
    (ofLines ["x " ++ raw]).find? "x" = some ⟨some "x", raw, .ok t⟩ := by
  have hchars : raw.toList ≠ [] := by simpa using hne
  have htrim : Text.trim ("x " ++ raw) = "x " ++ raw := by
    rw [Text.trim_eq_self_iff, String.toList_append, List.getLast?_append_of_ne_nil _ hchars]
    exact ⟨by rintro c ⟨⟩; rfl, hend⟩
  have hsplit : splitLine? ("x " ++ raw) = some ("x", raw) :=
    splitLine?_eq_some.2 ⟨htrim, by decide⟩
  have hname : normalName "x" = "x" := by decide +kernel
  rw [ofLines_singleton hsplit hname (by decide) hparse, find?, hname]
  rfl

/-- A command that mentions a name is found. -/
theorem find?_mention (name : String) (h : name ∈ Parameters.channelNames) :
    (ofLines ["x " ++ ("$(" ++ name ++ ")")]).find? "x" =
      some ⟨some "x", "$(" ++ name ++ ")", .ok (.mention name)⟩ := by
  have hend : ("$(" ++ name ++ ")").toList.getLast? = some ')' := by
    rw [String.toList_append]
    exact List.getLast?_concat
  refine find?_of_parse (Template.parse_mention (Parameters.isIdentifier_of_mem h)) (by simp) ?_
  rw [hend]
  rintro c ⟨⟩
  rfl

/-- A command that mentions no parameter for a stream is its template for the channel. -/
theorem run_eq_of_template? {r : Registry} {name : String} {command : Command} {t : Template}
    (hfind : r.find? name = some command) (ht : command.template? = some t)
    (hstream : t.identifiersStarting streamFront = []) (channel : String) (p : Parameters) :
    r.run name channel p = t.run (p.forChannel channel) := by
  have hnames : command.identifiersStarting streamFront = [] := by
    rw [Command.identifiersStarting, ht]
    exact hstream
  have hcommand : command.evaluate Template.maxCommandDepth (p.forChannel channel) =
      t.evaluate Template.maxCommandDepth (p.forChannel channel) := by
    rw [Command.evaluate, ht]
    rfl
  rw [run, evaluate_eq hfind, hnames, hcommand]
  rfl

end Registry

namespace CommandLine

/-- Does a template on the command line come to the same for a channel as a command with this
template, wherever it was loaded? -/
def ChannelsAgree (channel : String) : Prop :=
  ∀ lines name command t (p : Parameters), (Registry.ofLines lines).find? name = some command →
    command.template? = some t → t.identifiersStarting streamFront = [] →
    p.context.commands = none →
    t.run (withChannel (some channel) p) = (Registry.ofLines lines).run name channel p

/-- The names of a channel are not those of the stream. -/
theorem identifiersStarting_mention {name : String} (h : name ∈ Parameters.channelNames) :
    (Template.mention name).identifiersStarting streamFront = [] := by
  have hnames : ∀ name ∈ Parameters.channelNames,
      (Template.mention name).identifiersStarting streamFront = [] := by decide
  exact hnames name h

/-- What `$(chan)` and `$(channel)` put in shows how both treat a channel. -/
theorem get?_of_channelsAgree {channel : String} (h : ChannelsAgree channel) (name : String)
    (hname : name ∈ Parameters.channelNames) :
    (Parameters.get? (withChannel (some channel) {}) name).getD "" =
      (Parameters.get? (Parameters.forChannel {} channel) name).getD "" := by
  have hfind := Registry.find?_mention name hname
  have hstream := identifiersStarting_mention hname
  have hrun := h _ "x" _ _ {} hfind rfl hstream rfl
  have hcontext : (withChannel (some channel) {}).context = {} := by
    simp only [withChannel, Parameters.putChannel, Parameters.context_putIfAbsent]
  rw [Registry.run_eq_of_template? hfind rfl hstream,
    Template.run_mention name (by rw [hcontext]),
    Template.run_mention name (by rw [Parameters.context_forChannel])] at hrun
  exact Option.some.inj (Prod.mk.inj hrun).1

/-- A template on the command line and a command with this template come to the same for a channel
if and only if it has a name and no blanks around it. -/
theorem channelsAgree_iff (channel : String) :
    ChannelsAgree channel ↔ Text.trim channel = channel ∧ Registry.channelName channel ≠ "" := by
  constructor
  · intro h
    have hchan := get?_of_channelsAgree h "chan" (by decide)
    have hchannel := get?_of_channelsAgree h "channel" (by decide)
    -- If nothing is left of the channel, `$(channel)` is the sign alone here and empty there.
    have hname : Registry.channelName channel ≠ "" := by
      intro hnone
      rw [Parameters.forChannel, if_pos hnone, withChannel,
        (Parameters.get?_putChannel _).2] at hchannel
      simp [Parameters.get?] at hchannel
    rw [Parameters.forChannel, if_neg hname, withChannel, (Parameters.get?_putChannel _).1,
      (Parameters.get?_putChannel _).1] at hchan
    exact ⟨(Text.trimStartOf_trim_iff (by decide)).1 hchan, hname⟩
  · rintro ⟨htrim, hname⟩ lines name command t p hfind ht hstream -
    rw [Registry.run_eq_of_template? hfind ht hstream, Parameters.forChannel, if_neg hname,
      Registry.channelName, htrim]
    rfl

theorem channelsAgree_room : ChannelsAgree "#room" :=
  (channelsAgree_iff "#room").2 ⟨by decide +kernel, by decide +kernel⟩

/-- The empty channel is the channel `#` on the command line, and none for a command. -/
theorem run_withChannel_empty :
    let t := Template.mention "channel"
    let r := Registry.ofLines ["x $(channel)"]
    r.find? "x" = some ⟨some "x", "$(channel)", .ok t⟩ ∧
      t.identifiersStarting streamFront = [] ∧
      (t.run (withChannel (some "") {})).1 = some "#" ∧ (r.run "x" "" {}).1 = some "" := by
  intro t r
  have hfind : r.find? "x" = some ⟨some "x", "$(channel)", .ok t⟩ :=
    Registry.find?_mention "channel" (by decide)
  have hstream : t.identifiersStarting streamFront = [] := identifiersStarting_mention (by decide)
  refine ⟨hfind, hstream, ?_, ?_⟩
  · have hput : withChannel (some "") {} = Parameters.putChannel {} "" := rfl
    rw [hput, Template.run_mention "channel" rfl, (Parameters.get?_putChannel "").2]
    rfl
  · rw [Registry.run_eq_of_template? hfind rfl hstream, Parameters.forChannel,
      if_pos (by decide +kernel), Template.run_mention "channel" rfl]
    rfl

end CommandLine

end CommandTemplate
