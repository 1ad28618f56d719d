import CommandTemplate.Calculator
import CommandTemplate.Calendar.DateTime
import CommandTemplate.Evaluation.Basic
import CommandTemplate.Json.Parser
import CommandTemplate.Number.Rounding
import CommandTemplate.Replacing
import CommandTemplate.Text.FormEncoding
import CommandTemplate.Text.Sorting
import CommandTemplate.Url

/-!
The built-in functions.

A function is evaluated with its arguments, which are evaluators themselves: it is the function
that decides which of them are evaluated, in which order and with which parameters.
`Builtin.evaluate` is the text of a call.
-/

namespace CommandTemplate

open Evaluation

/-- The argument at a place; one that is not given yields the empty text. -/
def argumentAt (arguments : List Evaluator) (place : Nat) : Evaluator :=
  arguments.getD place fun _ => pure ""

/-- Another text in the place of an empty one. -/
def orElse (text other : String) : String :=
  if text.isEmpty then other else text

/-! ### Choices -/

/-- The output of the first case whose key is `value`, or else of the default.  The keys and
outputs are given in turn, and then the default, if there is one. -/
def switchOn (value : String) (p : Parameters) : List Evaluator → Evaluation String
  | [] => pure ""
  | [output] => output p
  | key :: output :: cases => do
    if (← key p) = value then output p else switchOn value p cases

/-- The bound of random numbers that stands for a text without a number. -/
def randomBound : Int := 0x7fffffff

/-- A random whole number between two bounds, or zero where there is none. -/
def randomBetween (chance : Nat → Nat) : Option Int → Option Int → Evaluation String
  | some low, some high =>
    if low ≤ high then do
      let n ← draw chance
      return toString (low + n % (high - low + 1))
    else return "0"
  | _, _ => return "0"

/-- The whole number that a text writes. -/
def readBound? (text : String) : Option Int :=
  Number.readSigned? (Text.trimChars text.toList)

/-- The count that a text writes, or zero. -/
def readCount (text : String) : Nat :=
  (Number.readUnsigned? (Text.trimChars text.toList)).getD 0

/-! ### Texts -/

/-- The value of an expression, or what is wrong with it; a blank one has no text. -/
def calculated (expression : String) : String :=
  if Text.trim expression = "" then ""
  else
    match Calculator.calculate expression with
    | .ok text => text
    | .error fault => fault.message

/-- The images of matches with the texts before them. -/
def replaceSegments (image : Evaluator) (p : Parameters) :
    List Regex.Segment → Evaluation String
  | [] => pure ""
  | m :: segments => do
    let groups := m.groups.map fun group => String.ofList (group.getD [])
    let text ← image (p.forMatch (String.ofList m.whole) groups)
    let rest ← replaceSegments image p segments
    return String.ofList m.before ++ text ++ rest

/-- A text with the image of each match of a pattern in its place. -/
def replaceMatches (regex : Regex) (image : Evaluator) (text : String) (p : Parameters) :
    Evaluation String := do
  let (segments, tail) := regex.segments text.toList
  return (← replaceSegments image p segments) ++ String.ofList tail

/-- A text with what is searched in it replaced. -/
def replaced (callCommand : Template → Evaluator) (mode : ReplaceMode) (text search : String)
    (replacement : Evaluator) (p : Parameters) : Evaluation String :=
  match mode with
  | .fixed substitution => do
    return substitution.apply search (← replacement p) text
  | .evaluated =>
    match Regex.compile search with
    | .error fault => return patternFault fault
    | .ok regex => replaceMatches regex replacement text p
  | .byCommand =>
    match Regex.compile search with
    | .error fault => return patternFault fault
    | .ok regex => do
      let name := Text.trim (← replacement p)
      match p.context.commands.bind (·.find? name) >>= Command.template? with
      | none => return "Error: Unknown custom command '" ++ name ++ "'"
      | some template => replaceMatches regex (callCommand template) text p

/-! ### Services -/

/-- The text of a setting. -/
def settingText (context : Context) (name : String) (key : Option String) : String :=
  match context.settings.bind (· (Text.trim name)) with
  | some setting => setting.textAt key
  | none => ""

/-- Do the parameters match a rule? -/
def matchesRule (p : Parameters) (rule : String) : Bool :=
  match p.context.matcher with
  | some matcher => matcher p.bindings rule
  | none => false

/-- The label of the addresses that a template has fetched. -/
def fetchLabel : String := "CustomCommand"

/-- The text at an address, or what went wrong, which is only shown if `shows` says so. -/
def fetched (context : Context) (required shows trims : Bool) (address : String) :
    Evaluation String := do
  let fail (message : String) : Evaluation String :=
    if shows then pure ("Error: " ++ message) else demand required ""
  let some fetcher := context.fetcher.filter fun _ => context.allowRequest
    | fail "Request not allowed"
  let address := Text.trim address
  if Url.isWebAddress address then
    let response ← ask (.fetch address fetchLabel) (fetcher · address)
    match response.error, response.body with
    | some message, _ => fail message
    | none, some body => demand required (if trims then Text.trim body else body)
    | none, none => fail ("Request failed (" ++ toString response.status ++ ")")
  else fail ("Invalid URL '" ++ address ++ "'")

/-- The texts of arguments, one after the other. -/
def textsOf (p : Parameters) : List Evaluator → Evaluation (List String)
  | [] => pure []
  | first :: others => do
    let text ← first p
    return text :: (← textsOf p others)

/-- The text that the user gives. -/
def prompted (context : Context) (kind message initial : String) : Evaluation String := do
  let some prompt := context.prompt | abort
  ofOption (← ask (.prompt kind message initial) (prompt · kind message initial))

/-! ### Calls -/

/-- The text of a call.  Its required flag forbids certain texts to be empty. -/
def Builtin.evaluate (callCommand : Template → Evaluator) (builtin : Builtin) (required : Bool)
    (arguments : List Evaluator) (p : Parameters) : Evaluation String :=
  let argument (place : Nat) := argumentAt arguments place p
  let first := argument 0 >>= demand required
  match builtin with
  | .ifGiven => do
    let value ← orEmpty (argument 0)
    (if value.isEmpty then argument 2 else argument 1) >>= demand required
  | .ifEqual => do
    let value ← argument 0
    let other ← argument 1
    (if value = other then argument 2 else argument 3) >>= demand required
  | .switch => do
    let value ← first
    switchOn value p (arguments.drop 1)
  | .join => do
    let value ← first
    if value.isEmpty then return value
    return Text.substitute " " (← argument 1) value
  | .lower => Text.lower <$> first
  | .upper => Text.upper <$> first
  | .trim => Text.trim <$> first
  | .urlEncode => Text.formEncode <$> first
  | .calc => calculated <$> first
  | .isMatch => do
    let rule ← first
    demand required (if matchesRule p rule then "true" else "")
  | .choose => do
    if arguments.isEmpty then demand required ""
    else
      let n ← draw p.context.chance
      argument (n % arguments.length) >>= demand required
  | .randomNumber => do
    let start ← first
    if arguments.length ≤ 1 then
      randomBetween p.context.chance (some 0) (some ((readBound? start).getD randomBound))
    else
      let stop ← argument 1
      randomBetween p.context.chance (readBound? start) (readBound? stop)
  | .dateTime => do
    let format ← argument 0
    let zone ← argument 1
    let tag ← argument 2
    let timestamp ← argument 3
    return Calendar.formatDateTime p.context.almanac p.context.now format zone tag timestamp
  | .sort => do
    let value ← first
    let separator ← argument 1
    let order ← argument 2
    return Text.sortPieces (.ofName order) (orElse separator " ") value
  | .replace => do
    let value ← first
    let search ← argument 1
    let mode ← argument 3
    replaced callCommand (.ofName (Text.trim mode)) value search (argumentAt arguments 2) p
  | .quote => do
    let value ← first
    let mark ← argument 1
    return Text.quote (orElse mark "\"") value
  | .round => do
    let value ← first
    let most ← argument 1
    let mode ← argument 2
    let least ← argument 3
    return (Number.roundText? (.ofName mode) (readCount most) (readCount least) value).getD value
  | .setting => do
    let name ← argument 0
    if arguments.length ≤ 1 then demand required (settingText p.context name none)
    else
      let key ← argument 1
      demand required (settingText p.context name (some key))
  | .json => do
    let text ← first
    let document ← ofOption (Json.parse? text)
    argumentAt arguments 1 (p.withDocument document)
  | .lookup path =>
    let text := ((p.document >>= Json.Path.resolve path) >>= Json.text?).getD ""
    (if text.isEmpty then argument 0 else pure text) >>= demand required
  | .request => do
    let address ← first
    let options := (← textsOf p (arguments.drop 1)).map Text.trim
    fetched p.context required (options.contains "error") (options.contains "trim") address
  | .input => do
    let kind ← argument 0
    let message ← argument 1
    let initial ← argument 2
    prompted p.context kind message initial >>= demand required

end CommandTemplate
