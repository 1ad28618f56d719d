import CommandTemplate.Calendar.Almanac
import CommandTemplate.Json.Value
import CommandTemplate.Registry
import CommandTemplate.Rule
import CommandTemplate.Text.Quoting

/-!
What surrounds the evaluation of a template.

A `Context` holds the services that an evaluation may turn to: settings, a fetcher for web
addresses, a user who is asked for text, a matcher for rules, the state of streams and other
commands.  Each of them may be missing.  A question to a service is a `Query`, and the answer
may depend on all queries before it.  A matcher is no party outside: it is shown the `Bindings` of
the parameters, which are all that they hold besides the context.
-/

namespace CommandTemplate

/-- A question to a service. -/
inductive Query where
  | fetch (address label : String)
  | prompt (kind message initial : String)
  | stream (channel : String)
  deriving Repr, DecidableEq

/-- What came of fetching an address. -/
structure Response where
  body : Option String := none
  status : Nat := 0
  error : Option String := none
  deriving Repr, DecidableEq

/-- The state of a stream. -/
structure StreamState where
  live : Bool := false
  title : String := ""
  game : String := ""
  viewers : Nat := 0
  uptime : String := ""
  deriving Repr, DecidableEq

/-- Which separators of the command around a template are doubled in the texts that are put
into it. -/
structure Escapes where
  /-- The bar between the commands of a chain. -/
  chain : Bool := false
  /-- The angle before the body of a loop. -/
  foreach : Bool := false
  deriving Repr, DecidableEq

/-- A text with the separators in it doubled. -/
def Escapes.apply (escapes : Escapes) (text : String) : String :=
  let text := if escapes.chain then Text.double '|' text else text
  if escapes.foreach then Text.double '>' text else text

/-- What parameters hold for a template: values by name, arguments and a JSON value. -/
structure Bindings where
  value? : String → Option String := fun _ => none
  arguments : List String := []
  document : Option Json := none

/-- The services for an evaluation. -/
structure Context where
  settings : Option Settings := none
  /-- Fetches an address after the queries made so far. -/
  fetcher : Option (List Query → String → Response) := none
  /-- Asks the user, who may cancel. -/
  prompt : Option (List Query → String → String → String → Option String) := none
  /-- Does what the parameters hold match a rule? -/
  matcher : Option (Bindings → String → Bool) := none
  streams : Option (List Query → String → Option StreamState) := none
  commands : Option Registry := none
  /-- Whether addresses may be fetched at all. -/
  allowRequest : Bool := false
  escapes : Escapes := {}
  /-- The numbers that random choices are made from. -/
  chance : Nat → Nat := fun _ => 0
  /-- The current time, in milliseconds since the first second of 1970. -/
  now : Int := 0
  /-- The clocks and the locales that points in time are written with. -/
  almanac : Calendar.Almanac := {}

/-- The matcher that reads rules and applies them to the parameter `msg`. -/
def ruleMatcher (bindings : Bindings) (rule : String) : Bool :=
  Rule.holdsFor ((bindings.value? "msg").getD "") rule

end CommandTemplate
