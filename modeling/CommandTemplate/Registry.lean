import CommandTemplate.Setting
import CommandTemplate.Template.Identifiers
import CommandTemplate.Template.Parser
import CommandTemplate.Text.Blank
import CommandTemplate.Text.Casing

/-!
Commands by name.

A `Command` is a text together with the template that it writes, or with what is wrong with it.
A `Registry` holds commands without faults by their names.  It is built from lines that have a
name before the first space and a template after it; `Registry.find?` takes names in any case
and with slashes in front.  `Registry.load` puts the commands of a source in the place of those
that a registry holds.
-/

namespace CommandTemplate

/-- A text that was read as a template. -/
structure Command where
  name : Option String
  raw : String
  parsed : Except ParseError Template

namespace Command

/-- Reads a text as a template. -/
def parse (name : Option String) (raw : String) : Command :=
  ⟨name, raw, Template.parse raw⟩

/-- The template, if there is one. -/
def template? (c : Command) : Option Template :=
  c.parsed.toOption

/-- What is wrong with the text. -/
def error? (c : Command) : Option ParseError :=
  match c.parsed with
  | .ok _ => none
  | .error e => some e

/-- The name of the command that the text itself starts with after a slash. -/
def commandName? (c : Command) : Option String := do
  let .literal text :: _ ← c.template? | none
  let rest ← Text.dropFront? ['/'] text.toList
  let name := rest.takeWhile (· ≠ ' ')
  if name = [] then none else some (String.ofList name)

/-- The names of the parameters in the text that start with `front`. -/
def identifiersStarting (front : String) (c : Command) : List String :=
  (c.template?.map (·.identifiersStarting front)).getD []

/-- The names of the parameters that the text requires. -/
def requiredIdentifiers (c : Command) : List String :=
  (c.template?.map (·.requiredIdentifiers)).getD []

end Command

/-- Commands with different names, the latest first. -/
abbrev Registry := List (String × Command)

namespace Registry

/-- A name without blanks around it and slashes in front, in lower case. -/
def normalName (name : String) : String :=
  Text.lower (Text.trimStartOf '/' (Text.trim name))

/-- The name and the text of a command in a line. -/
def splitLine? (line : String) : Option (String × String) :=
  Text.splitOnce? ' ' (Text.trim line)

/-- The command that a line defines, with its name. -/
def commandOf? (line : String) : Option (String × Command) := do
  let (name, raw) ← splitLine? line
  let name := normalName name
  if name = "" then none
  let command := Command.parse (some name) raw
  if command.error?.isSome then none
  return (name, command)

/-- Adds a command in the place of the one with its name. -/
def insert (r : Registry) (entry : String × Command) : Registry :=
  entry :: r.filter fun other => other.1 ≠ entry.1

/-- The commands that lines define; of two with one name the later one counts. -/
def ofLines (lines : List String) : Registry :=
  (lines.filterMap commandOf?).foldl insert []

/-- The setting that lists the lines of commands. -/
def settingName : String := "commands"

/-- The commands that the settings list. -/
def ofSettings (settings : Settings) : Registry :=
  match settings settingName with
  | some (.list lines) => ofLines lines
  | _ => []

/-- What a registry is filled from. -/
inductive Source where
  | given (lines : List String)
  | listed (settings : Settings)

/-- Fills a registry anew, and tells how many commands it got. -/
def load (source : Source) : StateM Registry Nat := do
  let r := match source with
    | .given lines => ofLines lines
    | .listed settings => ofSettings settings
  set r
  return r.length

/-- The command with a name. -/
def find? (r : Registry) (name : String) : Option Command :=
  r.lookup (normalName name)

/-- The names of all commands, in ascending order. -/
def names (r : Registry) : List String :=
  Text.ascending (r.map (·.1))

end Registry

end CommandTemplate
