/-!
What a command line may hold.

A `Grammar` lists the options of a command and the arguments that are found by their place.
`Grammar.help` is the text that explains them.
-/

namespace CommandTemplate.CommandLine

/-- An option, which is given by its name after two dashes or by its letter after one. -/
structure OptionRule where
  name : String
  letter : Option Char := none
  /-- What the value of the option is called; a switch has no value. -/
  value : Option String := none
  repeats : Bool := false
  /-- Is the text a value of the option? -/
  accepts : String → Bool := fun _ => true
  explanation : String
  standard : Option String := none

/-- An argument that is found by its place. -/
structure PlaceRule where
  name : String
  required : Bool := true
  explanation : String

/-- What a command line may hold. -/
structure Grammar where
  summary : Option String := none
  options : List OptionRule := []
  places : List PlaceRule := []
  /-- The arguments after those with places, which are taken as they stand. -/
  others : Option PlaceRule := none
  appendix : Option String := none

/-- The option that asks for the help text. -/
def helpOption : OptionRule :=
  { name := "help", letter := some 'h', explanation := "Print help" }

/-- The option that asks for the version. -/
def versionOption : OptionRule :=
  { name := "version", letter := some 'V', explanation := "Print version" }

namespace OptionRule

/-- An option as the help text shows it. -/
def heading (rule : OptionRule) : String :=
  let letter := match rule.letter with
    | some c => "-" ++ c.toString ++ ", "
    | none => "    "
  let value := match rule.value with
    | some value => " <" ++ value ++ ">"
    | none => ""
  letter ++ "--" ++ rule.name ++ value

/-- What the help text says of an option. -/
def description (rule : OptionRule) : String :=
  match rule.standard with
  | some text => rule.explanation ++ " [default: " ++ text ++ "]"
  | none => rule.explanation

end OptionRule

/-- An argument as the help text shows it. -/
def PlaceRule.heading (rule : PlaceRule) : String :=
  if rule.required then "<" ++ rule.name ++ ">" else "[" ++ rule.name ++ "]"

/-- Arguments of any number as the help text shows them. -/
def PlaceRule.headingOfMany (rule : PlaceRule) : String :=
  "[" ++ rule.name ++ "]..."

/-- Lines with two columns. -/
def columns (rows : List (String × String)) : String :=
  let width := rows.foldl (fun width row => max width row.1.length) 0
  String.join <| rows.map fun (left, right) =>
    let blanks := String.ofList (List.replicate (width - left.length) ' ')
    "  " ++ left ++ blanks ++ "  " ++ right ++ "\n"

namespace Grammar

/-- The arguments as the help text shows them. -/
def placeRows (g : Grammar) : List (String × String) :=
  g.places.map (fun rule => (rule.heading, rule.explanation))
    ++ g.others.toList.map fun rule => (rule.headingOfMany, rule.explanation)

/-- The options as the help text shows them. -/
def optionRows (g : Grammar) : List (String × String) :=
  g.options.map fun rule => (rule.heading, rule.description)

/-- The text that explains a command line. -/
def help (g : Grammar) : String :=
  let summary := (g.summary.map (· ++ "\n\n")).getD ""
  let usage := "Usage: customcmd [OPTIONS]" ++ String.join (g.placeRows.map (" " ++ ·.1)) ++ "\n"
  let arguments :=
    if g.placeRows.isEmpty then "" else "\nArguments:\n" ++ columns g.placeRows
  let options := "\nOptions:\n" ++ columns g.optionRows
  let appendix := (g.appendix.map ("\n" ++ · ++ "\n")).getD ""
  summary ++ usage ++ arguments ++ options ++ appendix

/-- The option with a name. -/
def named? (g : Grammar) (name : String) : Option OptionRule :=
  g.options.find? (·.name = name)

/-- The option with a letter. -/
def lettered? (g : Grammar) (letter : Char) : Option OptionRule :=
  g.options.find? (·.letter = some letter)

end Grammar

end CommandTemplate.CommandLine
