/-!
Settings, as templates read them.

`Setting.text` is what a template sees of a setting.  Of a map it sees the entry with a key,
or all entries if it names none.
-/

namespace CommandTemplate

inductive Setting where
  | text (value : String)
  | boolean (value : Bool)
  | number (value : Int)
  /-- Texts by their keys, in ascending order of the keys. -/
  | map (entries : List (String × String))
  | list (items : List String)
  deriving Repr, DecidableEq

/-- The text of a setting.  Only a map has use for a key. -/
def Setting.textAt (key : Option String) : Setting → String
  | .text value => value
  | .boolean value => if value then "true" else "false"
  | .number value => toString value
  | .map entries =>
    match key with
    | some key => (entries.lookup key).getD ""
    | none =>
      let written := entries.map fun (key, value) => key ++ "=" ++ value
      "\x7b" ++ String.intercalate ", " written ++ "\x7d"
  | .list items => "[" ++ String.intercalate ", " items ++ "]"

/-- Where the settings of an application are looked up by their names. -/
abbrev Settings := String → Option Setting

end CommandTemplate
