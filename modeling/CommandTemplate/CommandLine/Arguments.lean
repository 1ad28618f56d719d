import CommandTemplate.CommandLine.Reading
import CommandTemplate.Text.Blank

/-!
The command lines of the application and of its actions.
-/

namespace CommandTemplate.CommandLine

/-! ### Pairs of a name and a value -/

/-- A name and a value around the first equals sign, or what is wrong.  The name must not be
blank. -/
def readPair (text : String) : Except String (String × String) := do
  let fault := "expected KEY=VALUE, got '" ++ text ++ "'"
  let some (name, value) := Text.splitOnce? '=' text | throw fault
  let name := Text.trim name
  if name = "" then throw fault
  return (name, value)

/-! ### The application -/

/-- The command line of the application. -/
def mainGrammar : Grammar where
  summary := some "Parser and evaluator for the Custom Command template language."
  options := [
    { name := "config", letter := some 'c', value := some "CONFIG", accepts := (· ≠ "")
      explanation := "Use this config file instead of `~/.config/customcmd/config.toml`" },
    helpOption,
    versionOption]
  places := [{ name := "ACTION", required := false, explanation := "The action to perform" }]
  others := some { name := "ARGS", explanation := "Arguments for the action" }
  appendix := some <| "Actions:\n"
    ++ "  run <template>     Evaluate a template\n"
    ++ "  check <template>   Parse a template and list its identifiers\n"
    ++ "  list               Show the configured commands\n"
    ++ "  exec <name> [args] Evaluate a configured command"

/-- What the application is to do. -/
structure MainArguments where
  config : Option String
  action : Option String
  words : List String

def MainArguments.ofWords (w : Words) : MainArguments where
  config := w.value? "config"
  action := w.places.head?
  words := w.places.tail

/-! ### Actions -/

/-- The option for a named parameter. -/
def paramOption : OptionRule :=
  { name := "param", letter := some 'p', value := some "PARAMS", repeats := true
    accepts := fun text => (readPair text).isOk
    explanation := "Named parameters as KEY=VALUE. Repeatable" }

/-- The option for the channel. -/
def channelOption : OptionRule :=
  { name := "channel", value := some "CHANNEL"
    explanation := "Channel used for `chan` / `channel`" }

/-- The named parameters on a command line. -/
def Words.params (w : Words) : List (String × String) :=
  (w.values paramOption.name).filterMap fun text => (readPair text).toOption

/-- The command line that evaluates a template. -/
def runGrammar : Grammar where
  options := [
    { name := "args", letter := some 'a', value := some "ARGS", standard := some ""
      explanation := "Space-separated positional arguments (`$1`, `$2-`, ...)" },
    paramOption,
    channelOption,
    { name := "chain"
      explanation := "Escape `|` in top-level output, as inside a /chain command" },
    { name := "foreach"
      explanation := "Escape `>` in top-level output, as inside a /foreach command" },
    helpOption]
  places := [{ name := "TEMPLATE", explanation := "The template to evaluate" }]

/-- A template to evaluate. -/
structure RunArguments where
  template : String
  args : String
  params : List (String × String)
  channel : Option String
  chain : Bool
  foreach : Bool

def RunArguments.ofWords (w : Words) : RunArguments where
  template := w.places.headD ""
  args := (w.value? "args").getD ""
  params := w.params
  channel := w.value? channelOption.name
  chain := w.has "chain"
  foreach := w.has "foreach"

/-- The command line that checks a template. -/
def checkGrammar : Grammar where
  options := [
    { name := "prefix", value := some "PREFIX", standard := some ""
      explanation := "Only list identifiers starting with this prefix" },
    helpOption]
  places := [{ name := "TEMPLATE", explanation := "The template to parse" }]

/-- A template to check. -/
structure CheckArguments where
  template : String
  front : String

def CheckArguments.ofWords (w : Words) : CheckArguments where
  template := w.places.headD ""
  front := (w.value? "prefix").getD ""

/-- The command line that lists the commands. -/
def listGrammar : Grammar where
  options := [
    { name := "verbose", letter := some 'v', explanation := "Show each command's template" },
    helpOption]

/-- The command line that evaluates a command. -/
def execGrammar : Grammar where
  options := [
    paramOption,
    { channelOption with standard := some "" },
    helpOption]
  places := [{ name := "NAME", explanation := "The configured command to evaluate" }]
  others := some { name := "ARGS", explanation := "Positional arguments, joined with spaces" }

/-- A command to evaluate. -/
structure ExecArguments where
  name : String
  args : List String
  params : List (String × String)
  channel : String

def ExecArguments.ofWords (w : Words) : ExecArguments where
  name := w.places.headD ""
  args := w.places.tail
  params := w.params
  channel := (w.value? channelOption.name).getD ""

end CommandTemplate.CommandLine
