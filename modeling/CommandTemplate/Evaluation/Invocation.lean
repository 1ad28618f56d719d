import CommandTemplate.Evaluation.Template

/-!
Evaluating a command of a registry for a channel.

The channel is put into the parameters `chan` and `channel`, and the state of its stream into
`streamstatus`, `streamtitle`, `streamgame`, `streamviewers` and `streamuptime`.  Parameters that
have values keep them.  The state of the stream is asked for only if the command mentions a
parameter whose name starts with `stream`.
-/

namespace CommandTemplate

open Evaluation

namespace Parameters

/-- The parameters for a channel, whose name is given without the number sign. -/
def putChannel (p : Parameters) (channel : String) : Parameters :=
  (p.putIfAbsent "chan" channel).putIfAbsent "channel" ("#" ++ channel)

/-- What the parameter `streamstatus` says of a stream. -/
def streamStatus (live : Bool) : String :=
  if live then "live" else "offline"

/-- The parameters for the state of a stream. -/
def putStream (p : Parameters) (state : StreamState) : Parameters :=
  ((((p.putIfAbsent "streamstatus" (streamStatus state.live)).putIfAbsent
    "streamtitle" state.title).putIfAbsent
    "streamgame" state.game).putIfAbsent
    "streamviewers" (toString state.viewers)).putIfAbsent
    "streamuptime" state.uptime

end Parameters

/-- What the names of the parameters for a stream start with. -/
def streamFront : String := "stream"

/-- Asks for the state of a stream and puts it into the parameters. -/
def withStream (channel : String) (p : Parameters) : Evaluation Parameters :=
  match p.context.streams with
  | none => pure p
  | some streams => do
    match ← ask (.stream channel) (streams · channel) with
    | some state => return p.putStream state
    | none => return p

namespace Registry

/-- The name of a channel without blanks around it and number signs in front. -/
def channelName (channel : String) : String :=
  Text.trimStartOf '#' (Text.trim channel)

/-- The text of the command with a name. -/
def evaluate (r : Registry) (depth : Nat) (name channel : String) (p : Parameters) :
    Evaluation String := do
  let command ← ofOption (r.find? name)
  let channel := channelName channel
  let p := if channel = "" then p else p.putChannel channel
  let p ← if (command.identifiersStarting streamFront).isEmpty then pure p
    else withStream channel p
  let template ← ofOption command.template?
  template.evaluate depth p

/-- The text of the command with a name, if it yields one, and the queries that were made. -/
def run (r : Registry) (name channel : String) (p : Parameters) : Option String × List Query :=
  let (result, trace) := (r.evaluate Template.maxCommandDepth name channel p).run
  (result.toOption, trace.queries)

end Registry

end CommandTemplate
