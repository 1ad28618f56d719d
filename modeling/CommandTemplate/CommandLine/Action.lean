import CommandTemplate.CommandLine.Arguments
import CommandTemplate.Config
import CommandTemplate.Evaluation.Invocation

/-!
The actions of the application.

An action yields a `Report`: what is written to the two outputs, and the code with which the
application ends.  `application` reads a command line and carries out its action.
-/

namespace CommandTemplate.CommandLine

/-- What comes of a command line. -/
structure Report where
  code : Nat := 0
  output : String := ""
  errors : String := ""
  deriving Repr

namespace Report

/-- A report of a failure. -/
def failure (message : String) : Report :=
  { code := 1, errors := "\nError: " ++ message ++ "\n" }

/-- A report of success with lines of text. -/
def ofLines (lines : List String) : Report :=
  { output := String.join (lines.map (· ++ "\n")) }

/-- A report that begins with more text on the output for errors. -/
def afterError (text : String) (report : Report) : Report :=
  { report with errors := text ++ "\n" ++ report.errors }

end Report

/-- What a command line that cannot be read is answered with. -/
def misuse : String :=
  "error: invalid arguments\n\nFor more information, try '--help'.\n"

/-- The name and the version of the application. -/
def versionText : String := "customcmd 0.4.0\n"

/-! ### Evaluating -/

/-- The services of the world outside that an evaluation may use. -/
structure World where
  chance : Nat → Nat := fun _ => 0
  now : Int := 0
  almanac : Calendar.Almanac := {}

/-- What fetching an address comes to where there is no network. -/
def unreachable : Response :=
  { error := some "Network access is not available" }

/-- The surroundings of an evaluation under a configuration.  There is nobody to be asked, so
every question is cancelled. -/
def contextOf (world : World) (config : Config) (registry : Registry) (escapes : Escapes) :
    Context where
  settings := some config.lookup
  fetcher := if config.allowRequest then some fun _ _ => unreachable else none
  prompt := some fun _ _ _ _ => none
  matcher := some ruleMatcher
  streams := config.stream.map fun state _ _ => some state
  commands := some registry
  allowRequest := config.allowRequest
  escapes := escapes
  chance := world.chance
  now := world.now
  almanac := world.almanac

/-- Parameters with arguments and named values. -/
def parametersOf (args : String) (named : List (String × String)) (context : Context) :
    Parameters :=
  ((Parameters.ofArguments args).withContext context).putAll named

/-- The parameters with those for a channel, if one is given. -/
def withChannel (channel : Option String) (p : Parameters) : Parameters :=
  match channel with
  | some channel => p.putChannel (Text.trimStartOf '#' channel)
  | none => p

/-- The report of an evaluation. -/
def reportOf : Option String → Report
  | some text => .ofLines [text]
  | none => .failure "No output: a required value was missing or empty."

/-- The report of a template with a fault. -/
def faultReport (e : ParseError) (text : String) : Report :=
  (Report.failure ("Template could not be parsed: " ++ e.description)).afterError (e.render text)

/-! ### Actions -/

/-- Evaluates a template. -/
def run (world : World) (config : Config) (registry : Registry) (a : RunArguments) : Report :=
  match Template.parse a.template with
  | .error e => faultReport e a.template
  | .ok template =>
    let context := contextOf world config registry ⟨a.chain, a.foreach⟩
    let p := withChannel a.channel (parametersOf a.args a.params context)
    reportOf (template.run p).1

/-- A line for an identifier. -/
def identifierLine (required : List String) (name : String) : String :=
  if required.contains name then "  " ++ name ++ " (required)" else "  " ++ name

/-- Tells what a template holds. -/
def check (a : CheckArguments) : Report :=
  let command := Command.parse none a.template
  match command.error? with
  | some e => faultReport e a.template
  | none =>
    let runs := command.commandName?.toList.map ("  Runs command: /" ++ ·)
    let names := command.identifiersStarting a.front
    let lines :=
      if names.isEmpty then ["  No named identifiers."]
      else names.map (identifierLine command.requiredIdentifiers)
    .ofLines ("Template OK" :: runs ++ lines)

/-- A line for a command. -/
def commandLine (verbose : Bool) (registry : Registry) (name : String) : Option String :=
  (registry.find? name).map fun command =>
    if verbose then "/" ++ name ++ " " ++ command.raw else "/" ++ name

/-- A line for a text that should define a command, but whose template has a fault. -/
def invalidLine (line : String) : Option String := do
  let (name, raw) ← Registry.splitLine? line
  let e ← (Command.parse (some name) raw).error?
  return name ++ " (invalid): " ++ e.description

/-- Lists the commands. -/
def list (config : Config) (registry : Registry) (verbose : Bool) : Report :=
  let none := if registry.isEmpty then ["No custom commands configured."] else []
  .ofLines (none ++ registry.names.filterMap (commandLine verbose registry)
    ++ config.commands.filterMap invalidLine)

/-- Evaluates a command. -/
def exec (world : World) (config : Config) (registry : Registry) (a : ExecArguments) : Report :=
  if (registry.find? a.name).isNone then .failure ("No custom command named '" ++ a.name ++ "'.")
  else
    let context := contextOf world config registry {}
    let p := parametersOf (String.intercalate " " a.args) a.params context
    reportOf (registry.run a.name a.channel p).1

/-- Reads the words of an action and carries it out. -/
def readThen (g : Grammar) (words : List String) (act : Words → Report) : Report :=
  match g.read words with
  | .ok w => act w
  | .error .help => .failure g.help
  | .error _ => .failure misuse

/-- Carries out an action.  A name that is none of an action is that of a command. -/
def perform (world : World) (config : Config) (registry : Registry) (action : String)
    (words : List String) : Report :=
  let exec (words : List String) : Report :=
    readThen execGrammar words fun w => exec world config registry (.ofWords w)
  match action with
  | "run" => readThen runGrammar words fun w => run world config registry (.ofWords w)
  | "check" | "parse" => readThen checkGrammar words fun w => check (.ofWords w)
  | "list" | "ls" => readThen listGrammar words fun w => list config registry (w.has "verbose")
  | "exec" | "x" => exec words
  | name => exec (name :: words)

/-! ### The application -/

/-- A file with the configuration. -/
inductive ConfigFile where
  | absent
  | unreadable (path reason : String)
  | text (path content : String)

/-- The configuration in a file, or what is wrong with it. -/
def readConfig : ConfigFile → Except String Config
  | .absent => return {}
  | .unreadable path reason =>
    throw ("Could not read configuration file '" ++ path ++ "': " ++ reason ++ ": " ++ reason)
  | .text path content =>
    match Config.parse? content with
    | some config => return config
    | none => throw ("Invalid configuration file '" ++ path ++ "': TOML parse error")

/-- Carries out a command line that was read, with the file that holds the configuration. -/
def applicationWith (world : World) (file : ConfigFile) (a : MainArguments) : Report :=
  match readConfig file with
  | .error message => .failure ("Failed to load the configuration: " ++ message)
  | .ok config =>
    let (_, registry) := (Registry.load (.listed config.lookup)).run []
    match a.action with
    | some action => perform world config registry action a.words
    | none => .failure
      "No action given. Try `customcmd run '<template>'` or `customcmd --help`."

/-- Reads the words of a command line.  One that asks for help, or is wrong, is answered at
once. -/
def readMain (words : List String) : Except Report MainArguments :=
  match mainGrammar.read words with
  | .ok w => .ok (.ofWords w)
  | .error .help => .error { output := mainGrammar.help }
  | .error .version => .error { output := versionText }
  | .error .misused => .error { code := 2, errors := misuse }

end CommandTemplate.CommandLine
