import CommandTemplate.Json.Value
import CommandTemplate.Text.CodeSet

/-!
Reading JSON text.

`Json.parse?` reads one value with blanks around it.  A value may lie in at most 127 arrays
and objects; of a field that comes twice the last value counts.  A whole number that does not
fit in 64 bits becomes a floating-point number: as many leading digits as fit in 64 bits,
times or divided by a power of ten in one rounded step.
-/

namespace CommandTemplate.Json

/-- How deep arrays and objects may lie in one another. -/
def maxDepth : Nat := 127

def isSpace (c : Char) : Bool :=
  c = ' ' || c = '\n' || c = '\t' || c = '\r'

def skipSpace (s : List Char) : List Char :=
  s.dropWhile isSpace

/-! ### Numbers -/

/-- The leading digits of a number that fit in 64 bits together, with the number of digits
taken and the digits left over. -/
def takeDigits (value : Nat) (taken : Nat) : List Char → Nat × Nat × List Char
  | [] => (value, taken, [])
  | c :: s =>
    let next := 10 * value + (c.toNat - '0'.toNat)
    if next < 0x10000000000000000 then takeDigits next (taken + 1) s else (value, taken, c :: s)

def powerOfTen (n : Nat) : Float :=
  Number.ofDecimal false ⟨1, n⟩

/-- Divides a number by a power of ten that may be too large for one division. -/
def divideByPower : Nat → Float → Nat → Float
  | 0, x, n => x / powerOfTen (min n 308)
  | steps + 1, x, n =>
    if n ≤ 308 then x / powerOfTen n
    else if x == 0 then x
    else divideByPower steps (x / powerOfTen 308) (n - 308)

/-- A number from its leading digits and a power of ten, unless it is too large. -/
def ofParts? (negative : Bool) (value : Nat) (exponent : Int) : Option Json :=
  let x := value.toUInt64.toFloat
  let x? :=
    if exponent < 0 then some (divideByPower 3 x exponent.natAbs)
    else if exponent ≤ 308 then some (x * powerOfTen exponent.toNat)
    else if value = 0 then some x
    else none
  (x?.filter fun x => !x.isInf).map fun x => .float (if negative then -x else x).toBits

/-- A whole number without fraction and power of ten. -/
def ofWhole (negative : Bool) (value : Nat) : Json :=
  if negative then
    if value = 0 ∨ 0x8000000000000000 < value then .float (-value.toUInt64.toFloat).toBits
    else .integer (-value)
  else .integer value

/-- The power of ten after an `e`.  One that is too large for 32 bits stands for any such. -/
def readPower? (s : List Char) : Option (Int × List Char) :=
  let (negative, s) := match s with
    | '-' :: s => (true, s)
    | '+' :: s => (false, s)
    | s => (false, s)
  match s.span Char.isDigit with
  | ([], _) => none
  | (digits, s) =>
    let n : Int := min (Number.ofDigits digits) 0x80000000
    some (if negative then -n else n, s)

/-- A number and what follows it. -/
def readNumber? (s : List Char) : Option (Json × List Char) := do
  let (negative, s) := match s with
    | '-' :: s => (true, s)
    | s => (false, s)
  let (whole, s) := s.span Char.isDigit
  if whole = [] ∨ (whole.head? = some '0' ∧ whole.length ≠ 1) then none
  let (value, _, rest) := takeDigits 0 0 whole
  let (places?, s) := match s with
    | '.' :: s => let (places, s) := s.span Char.isDigit; (some places, s)
    | s => (none, s)
  if places? = some [] then none
  let (power?, s) ← match s with
    | 'e' :: s | 'E' :: s => (readPower? s).map fun (power, s) => (some power, s)
    | s => some (none, s)
  if places?.isNone ∧ power?.isNone ∧ rest = [] then
    return (ofWhole negative value, s)
  let (value, taken, _) :=
    if rest = [] then takeDigits value 0 (places?.getD []) else (value, 0, [])
  let exponent : Int := (rest.length : Int) - taken + power?.getD 0
  return (← ofParts? negative value exponent, s)

/-! ### Strings -/

/-- Four hexadecimal digits. -/
def readHex4? : List Char → Option (Nat × List Char)
  | a :: b :: c :: d :: s => (Text.readHex? [a, b, c, d]).map fun n => (n, s)
  | _ => none

/-- The character that an escape stands for; the backslash is already read.  A character
beyond the first plane is written as two halves. -/
def readEscape? : List Char → Option (Char × List Char)
  | '"' :: s => some ('"', s)
  | '\\' :: s => some ('\\', s)
  | '/' :: s => some ('/', s)
  | 'b' :: s => some ('\x08', s)
  | 'f' :: s => some ('\x0c', s)
  | 'n' :: s => some ('\n', s)
  | 'r' :: s => some ('\r', s)
  | 't' :: s => some ('\t', s)
  | 'u' :: s => do
    let (n, s) ← readHex4? s
    if 0xDC00 ≤ n ∧ n ≤ 0xDFFF then none
    else if 0xD800 ≤ n ∧ n ≤ 0xDBFF then
      match s with
      | '\\' :: 'u' :: s => do
        let (low, s) ← readHex4? s
        if 0xDC00 ≤ low ∧ low ≤ 0xDFFF then
          some (Char.ofNat (0x10000 + (n - 0xD800) * 0x400 + (low - 0xDC00)), s)
        else none
      | _ => none
    else some (Char.ofNat n, s)
  | _ => none

/-- The characters of a string up to its closing quote.  The opening one is already read;
`fuel` bounds the characters to be read. -/
def readString? : Nat → List Char → Option (List Char × List Char)
  | 0, _ => none
  | _ + 1, [] => none
  | _ + 1, '"' :: s => some ([], s)
  | fuel + 1, '\\' :: s => do
    let (c, s) ← readEscape? s
    let (cs, s) ← readString? fuel s
    return (c :: cs, s)
  | fuel + 1, c :: s =>
    if c.toNat < 32 then none
    else (readString? fuel s).map fun (cs, s) => (c :: cs, s)

/-! ### Values -/

/-- The items of an array up to its closing bracket, each read by `value`. -/
def readItems? (value : List Char → Option (Json × List Char)) :
    Nat → List Char → Option (List Json × List Char)
  | 0, _ => none
  | fuel + 1, s => do
    let (item, s) ← value s
    match skipSpace s with
    | ',' :: s => (readItems? value fuel s).map fun (items, s) => (item :: items, s)
    | ']' :: s => some ([item], s)
    | _ => none

/-- The fields of an object up to its closing brace, in the order of the text. -/
def readFields? (value : List Char → Option (Json × List Char)) :
    Nat → List Char → Option (List (String × Json) × List Char)
  | 0, _ => none
  | fuel + 1, s => do
    match skipSpace s with
    | '"' :: s =>
      let (name, s) ← readString? (s.length + 1) s
      match skipSpace s with
      | ':' :: s =>
        let (item, s) ← value s
        let field := (String.ofList name, item)
        match skipSpace s with
        | ',' :: s => (readFields? value fuel s).map fun (fields, s) => (field :: fields, s)
        | '}' :: s => some ([field], s)
        | _ => none
      | _ => none
    | _ => none

/-- A value that may hold arrays and objects up to a depth, and what follows it. -/
def readValue? : Nat → List Char → Option (Json × List Char)
  | depth, s =>
    match skipSpace s with
    | 'n' :: 'u' :: 'l' :: 'l' :: s => some (.null, s)
    | 't' :: 'r' :: 'u' :: 'e' :: s => some (.bool true, s)
    | 'f' :: 'a' :: 'l' :: 's' :: 'e' :: s => some (.bool false, s)
    | '"' :: s => do
      let (text, s) ← readString? (s.length + 1) s
      return (.string (String.ofList text), s)
    | '[' :: s =>
      match depth with
      | 0 => none
      | depth + 1 =>
        match skipSpace s with
        | ']' :: s => some (.array [], s)
        | s => (readItems? (readValue? depth) (s.length + 1) s).map fun (items, s) =>
            (.array items, s)
    | '{' :: s =>
      match depth with
      | 0 => none
      | depth + 1 =>
        match skipSpace s with
        | '}' :: s => some (.object [], s)
        | s => (readFields? (readValue? depth) (s.length + 1) s).map fun (fields, s) =>
            (.object (fields.foldl (fun done (name, item) => insert name item done) []), s)
    | s => readNumber? s

/-- The value that a text writes. -/
def parse? (text : String) : Option Json := do
  let (value, rest) ← readValue? maxDepth text.toList
  if skipSpace rest = [] then some value else none

end CommandTemplate.Json
