import CommandTemplate.Number.Notation
import CommandTemplate.Text.CodeSet

/-!
TOML values and their text.

`Value.text` writes a value on one line.  A string is quoted in the way that needs the fewest
escapes.  The fields of a table are in ascending order of their names.
-/

namespace CommandTemplate.Toml

/-- A day as it is written. -/
structure DateText where
  year : Nat
  month : Nat
  day : Nat
  deriving Repr, DecidableEq

/-- A time of day as it is written; the fraction is given in nanoseconds. -/
structure TimeText where
  hour : Nat
  minute : Nat
  second : Option Nat
  fraction : Option Nat
  deriving Repr, DecidableEq

/-- The distance from universal time in minutes, or the letter for universal time. -/
inductive OffsetText where
  | universal
  | minutes (n : Int)
  deriving Repr, DecidableEq

/-- A point in time; not all parts need be there. -/
structure DateTime where
  date : Option DateText
  time : Option TimeText
  offset : Option OffsetText
  deriving Repr, DecidableEq

inductive Value where
  | string (text : String)
  | integer (value : Int)
  | float (bits : UInt64)
  | boolean (value : Bool)
  | dateTime (value : DateTime)
  | array (items : List Value)
  | table (fields : List (String × Value))
  deriving Inhabited

/-- The fields of a table in ascending order of their names. -/
abbrev Table := List (String × Value)

/-- Adds a field to a table. -/
def Table.insert (name : String) (value : Value) : Table → Table
  | [] => [(name, value)]
  | (other, old) :: fields =>
    if name < other then (name, value) :: (other, old) :: fields
    else if name = other then (name, value) :: fields
    else (other, old) :: Table.insert name value fields

/-! ### Points in time -/

def DateText.text (d : DateText) : String :=
  Number.padded 4 d.year ++ "-" ++ Number.padded 2 d.month ++ "-" ++ Number.padded 2 d.day

/-- The digits of a fraction of a second without zeros at the end. -/
def fractionText (nanoseconds : Nat) : String :=
  let digits := (Number.padded 9 nanoseconds).toList.reverse.dropWhile (· == '0')
  "." ++ if digits = [] then "0" else String.ofList digits.reverse

def TimeText.text (t : TimeText) : String :=
  Number.padded 2 t.hour ++ ":" ++ Number.padded 2 t.minute
    ++ ((t.second.map fun s => ":" ++ Number.padded 2 s).getD "")
    ++ ((t.fraction.map fractionText).getD "")

def OffsetText.text : OffsetText → String
  | .universal => "Z"
  | .minutes n =>
    (if n < 0 then "-" else "+") ++ Number.padded 2 (n.natAbs / 60) ++ ":"
      ++ Number.padded 2 (n.natAbs % 60)

def DateTime.text (d : DateTime) : String :=
  ((d.date.map DateText.text).getD "") ++ (if d.date.isSome ∧ d.time.isSome then "T" else "")
    ++ ((d.time.map TimeText.text).getD "") ++ ((d.offset.map OffsetText.text).getD "")

/-! ### Strings -/

/-- The length of the longest run of a character. -/
def longestRun (c : Char) (s : List Char) : Nat :=
  (s.foldl (fun (best, now) d => let now := if d = c then now + 1 else 0; (max best now, now))
    (0, 0)).1

/-- Is the character one that must be escaped wherever it stands? -/
def needsEscape (c : Char) : Bool :=
  (c.toNat < 32 && c ≠ '\t' && c ≠ '\n') || c.toNat = 127

/-- A character in a string that allows for escapes.  `run` counts the quotes right before it,
of which `most` may stand together. -/
def escaped (most : Nat) (linesAllowed : Bool) (run : Nat) (c : Char) : List Char :=
  match c with
  | '\\' => ['\\', '\\']
  | '"' => if run < most then ['"'] else ['\\', '"']
  | '\x08' => ['\\', 'b']
  | '\x0c' => ['\\', 'f']
  | '\r' => ['\\', 'r']
  | '\n' => if linesAllowed then ['\n'] else ['\\', 'n']
  | '\t' => ['\\', 't']
  | c =>
    if needsEscape c then
      let n := c.toNat
      ['\\', 'u', '0', '0', (n / 16 % 16).digitChar.toUpper, (n % 16).digitChar.toUpper]
    else [c]

/-- The characters of a string with escapes. -/
def escapedFrom (most : Nat) (linesAllowed : Bool) (run : Nat) : List Char → List Char
  | [] => []
  | c :: s =>
    let written := escaped most linesAllowed run c
    written ++ escapedFrom most linesAllowed (if written = ['"'] then run + 1 else 0) s

/-- A string between single quotes with escapes. -/
def basicText (s : List Char) : List Char :=
  '"' :: escapedFrom 0 false 0 s ++ ['"']

/-- A text between quotes that may go over several lines. -/
def longText (quotes : List Char) (inner s : List Char) : List Char :=
  quotes ++ (if '\n' ∈ s then ['\n'] else []) ++ inner ++ quotes

/-- A string in the way of quoting that needs the fewest escapes. -/
def quoted (text : String) : String :=
  let s := text.toList
  let controls := s.any needsEscape
  let backslash := '\\' ∈ s
  let line := '\n' ∈ s
  let double := longestRun '"' s
  let single := longestRun '\'' s
  let basicLong := longText ['"', '"', '"'] (escapedFrom 2 true 0 s) s
  String.ofList <|
    if ¬controls ∧ ¬backslash ∧ double = 0 ∧ ¬line then '"' :: s ++ ['"']
    else if ¬controls ∧ single = 0 ∧ ¬line then '\'' :: s ++ ['\'']
    else if ¬controls ∧ ¬backslash ∧ double ≤ 2 then longText ['"', '"', '"'] s s
    else if ¬controls ∧ single ≤ 2 then longText ['\'', '\'', '\''] s s
    else if line then basicLong
    else basicText s

/-- May the character stand in a name without quotes? -/
def isBareChar (c : Char) : Bool :=
  c.isAlphanum || c = '_' || c = '-'

/-- The name of a field, with quotes where it needs them. -/
def nameText (name : String) : String :=
  let s := name.toList
  if s ≠ [] ∧ s.all isBareChar then name
  else if ¬s.any needsEscape ∧ '\\' ∉ s ∧ '"' ∉ s ∧ '\n' ∉ s then
    String.ofList ('"' :: s ++ ['"'])
  else if ¬s.any needsEscape ∧ '\'' ∉ s ∧ '\n' ∉ s then String.ofList ('\'' :: s ++ ['\''])
  else String.ofList (basicText s)

/-! ### Values -/

/-- A floating-point number, which has a fraction even if it is whole. -/
def floatText (bits : UInt64) : String :=
  let x := Float.ofBits bits
  if x.isNaN then if Number.isNegative x then "-nan" else "nan"
  else Number.write .up Number.Decimal.dotted x

mutual

/-- A value on one line. -/
def Value.text : Value → String
  | .string text => quoted text
  | .integer n => toString n
  | .float bits => floatText bits
  | .boolean b => if b then "true" else "false"
  | .dateTime d => d.text
  | .array items => "[" ++ String.intercalate ", " (Value.textsOfItems items) ++ "]"
  | .table [] => "\x7b\x7d"
  | .table fields =>
    "\x7b " ++ String.intercalate ", " (Value.textsOfFields fields) ++ " \x7d"

def Value.textsOfItems : List Value → List String
  | [] => []
  | item :: items => item.text :: Value.textsOfItems items

def Value.textsOfFields : List (String × Value) → List String
  | [] => []
  | (name, value) :: fields =>
    (nameText name ++ " = " ++ value.text) :: Value.textsOfFields fields

end

/-- A string without quotes, and any other value on one line. -/
def Value.plainText : Value → String
  | .string text => text
  | value => value.text

end CommandTemplate.Toml
