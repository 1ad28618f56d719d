import CommandTemplate.Regex.Syntax
import CommandTemplate.Text.Age
import CommandTemplate.Text.Boundary
import CommandTemplate.Text.Property
import CommandTemplate.Text.Script

/-!
Classes of characters by name.

A single name is that of a property, of a category or of a script.  With a value, the first
name is that of a property and the second one that of its value.  `PropertyName.members`
gives the class, or tells whether the name or only the value is unknown.
-/

namespace CommandTemplate.Regex

open Text (CodeSet NamedSet)

/-- A name without the differences that do not matter: an `is` in front, the case of letters,
and blanks, hyphens and underscores. -/
def normalName (name : List Char) : String :=
  let (hasIs, name) := match name with
    | i :: s :: rest =>
      if (i = 'i' ∨ i = 'I') ∧ (s = 's' ∨ s = 'S') then (true, rest) else (false, name)
    | _ => (false, name)
  let name := (name.filter fun c => c.toNat < 128 ∧ c ∉ [' ', '_', '-']).map Char.toLower
  if hasIs ∧ name = ['c'] then "isc" else String.ofList name

/-- The set of a value, which must be there. -/
def ofValue (set : Option CodeSet) : Except Error CodeSet :=
  match set with
  | some set => .ok set
  | none => .error .propertyValueUnknown

/-- A category by its name, or one of the three largest classes. -/
def category? (name : String) : Option CodeSet :=
  match name with
  | "any" => some .all
  | "ascii" => some (.ofRanges [(0, 127)])
  | _ => NamedSet.find? name Text.Category.named

/-- The names of the category that has no characters. -/
def surrogateNames : List String := ["cs", "surrogate"]

/-- A class by one name.  Three names of properties are those of categories first. -/
def plainClass (name : String) : Except Error CodeSet :=
  let property := if name ∈ ["cf", "sc", "lc"] then none
    else NamedSet.find? name Text.Property.named
  match property <|> category? name <|> Text.Script.find? name with
  | some set => .ok set
  | none =>
    if name ∈ surrogateNames ∨ Text.Script.isName name then .error .propertyValueUnknown
    else .error .propertyUnknown

/-- A class by the name of a property and its value. -/
def valuedClass (name value : String) : Except Error CodeSet :=
  if name ∈ ["gc", "generalcategory"] then ofValue (category? value)
  else if name ∈ ["sc", "script"] then ofValue (Text.Script.find? value)
  else if name ∈ ["scx", "scriptextensions"] then ofValue (Text.Script.findExtended? value)
  else if name = "age" then ofValue (Text.Age.find? value)
  else if name ∈ ["gcb", "graphemeclusterbreak"] then
    ofValue (NamedSet.find? value Text.Boundary.grapheme)
  else if name ∈ ["wb", "wordbreak"] then ofValue (NamedSet.find? value Text.Boundary.word)
  else if name ∈ ["sb", "sentencebreak"] then
    ofValue (NamedSet.find? value Text.Boundary.sentence)
  else if (NamedSet.find? name Text.Property.named).isSome ∨ name ∈ Text.Property.untabled then
    .error .propertyValueUnknown
  else .error .propertyUnknown

/-- The characters that a name stands for, before any negation. -/
def PropertyName.members : PropertyName → Except Error CodeSet
  | .plain name => plainClass (normalName name)
  | .valued name _ value => valuedClass (normalName name) (normalName value)

/-- Does the name itself stand for the other characters? -/
def PropertyName.negated : PropertyName → Bool
  | .plain _ => false
  | .valued _ has _ => !has

end CommandTemplate.Regex
