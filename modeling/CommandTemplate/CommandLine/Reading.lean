import CommandTemplate.CommandLine.Grammar
import CommandTemplate.Text.Pieces

/-!
Reading command lines.

`Grammar.read` sorts the words of a command line into options and arguments.  It goes from left
to right and stops at the first word that asks for help or is wrong.  Two dashes end the
options.  Where the arguments that are taken as they stand may begin, a word with a dash that
is no option of the command is the first of them.
-/

namespace CommandTemplate.CommandLine

/-- Why a command line is not carried out. -/
inductive Refusal where
  | help
  | version
  | misused
  deriving Repr, DecidableEq

/-- What a command line holds. -/
structure Words where
  /-- The options with their values, in the order in which they stand. -/
  options : List (String × String) := []
  places : List String := []
  deriving Repr

namespace Words

/-- Is the option given? -/
def has (w : Words) (name : String) : Bool :=
  w.options.any (·.1 = name)

/-- The values of an option. -/
def values (w : Words) (name : String) : List String :=
  w.options.filterMap fun (other, value) => if other = name then some value else none

/-- The value of an option. -/
def value? (w : Words) (name : String) : Option String :=
  (w.values name).head?

end Words

/-- What a word is by itself. -/
inductive WordKind where
  /-- Options, of which the last one may have a value with it.  A word that is not `sound` goes
  on with something that is no option. -/
  | options (rules : List OptionRule) (value : Option String) (sound : Bool)
  | plain
  | unknown

/-- What a row of letters after a dash is. -/
def letterKind (g : Grammar) : List OptionRule → List Char → WordKind
  | rules, [] => .options rules none true
  | rules, c :: rest =>
    match g.lettered? c with
    | none => .options rules none false
    | some rule =>
      if rule.value.isNone then letterKind g (rules ++ [rule]) rest
      else
        let value := match rest with
          | [] => none
          | '=' :: value => some (String.ofList value)
          | value => some (String.ofList value)
        .options (rules ++ [rule]) value true

/-- What a text after two dashes is, if it names an option. -/
def namedKind? (g : Grammar) (text : List Char) : Option WordKind := do
  let name := text.takeWhile (· ≠ '=')
  let rule ← g.named? (String.ofList name)
  match text.drop name.length with
  | [] => return .options [rule] none true
  | _ :: value =>
    return if rule.value.isSome then .options [rule] (some (String.ofList value)) true
      else .unknown

/-- What a word is; `loose` says whether the arguments that are taken as they stand may begin
with it. -/
def wordKind (g : Grammar) (loose : Bool) (word : String) : WordKind :=
  match word.toList with
  | '-' :: '-' :: text => (namedKind? g text).getD (if loose then .plain else .unknown)
  | '-' :: c :: text =>
    if loose && (c :: text).any fun d => (g.lettered? d).isNone then .plain
    else letterKind g [] (c :: text)
  | _ => .plain

/-- Adds an option with its value. -/
def addOption (rule : OptionRule) (value : String) (w : Words) : Except Refusal Words :=
  if rule.name = helpOption.name then throw .help
  else if rule.name = versionOption.name then throw .version
  else if !rule.repeats && w.has rule.name then throw .misused
  else if rule.accepts value then return { w with options := w.options ++ [(rule.name, value)] }
  else throw .misused

/-- Adds options that stand in one word; the result names the one that waits for a value. -/
def addOptions (value : Option String) :
    List OptionRule → Words → Except Refusal (Words × Option OptionRule)
  | [], w => return (w, none)
  | [rule], w =>
    match rule.value, value with
    | some _, none => return (w, some rule)
    | _, value => do return (← addOption rule (value.getD "") w, none)
  | rule :: rules, w => do addOptions value rules (← addOption rule "" w)

/-- Ends a command line with words that are no options. -/
def close (g : Grammar) (words : List String) (w : Words) : Except Refusal Words :=
  let places := w.places ++ words
  if places.length < (g.places.filter (·.required)).length then throw .misused
  else if g.others.isNone && g.places.length < places.length then throw .misused
  else return { w with places }

/-- Reads words after those in `w`; `waiting` is the option whose value comes next. -/
def readWords (g : Grammar) (waiting : Option OptionRule) (w : Words) :
    List String → Except Refusal Words
  | [] => if waiting.isSome then throw .misused else close g [] w
  | "--" :: words => if waiting.isSome then throw .misused else close g words w
  | word :: words => do
    let loose := g.others.isSome && w.places.length = g.places.length
    match wordKind g loose word, waiting with
    | .options rules value sound, none =>
      let (w, waiting) ← addOptions value rules w
      if sound then readWords g waiting w words else throw .misused
    | .plain, some rule => do readWords g none (← addOption rule word w) words
    | .plain, none =>
      if loose then close g (word :: words) w
      else if w.places.length < g.places.length then
        readWords g none { w with places := w.places ++ [word] } words
      else throw .misused
    | .options _ _ _, some _ => throw .misused
    | .unknown, _ => throw .misused

/-- Reads a command line. -/
def Grammar.read (g : Grammar) (words : List String) : Except Refusal Words :=
  readWords g none {} words

end CommandTemplate.CommandLine
