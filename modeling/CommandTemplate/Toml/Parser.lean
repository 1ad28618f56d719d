import CommandTemplate.Calendar.Date
import CommandTemplate.Toml.Value

/-!
Reading TOML documents.

A document is a list of lines, each of which is a field or the header of a table.  The tables
are built up as a tree of `Node`s, which remembers how each table came about, because a table
may be opened only once, and fields with dotted names may only add to tables that dotted names
have made.
-/

namespace CommandTemplate.Toml

/-- Steps over the characters of a document, which may fail. -/
abbrev Reader := StateT (List Char) Option

/-- How deep arrays and tables may lie in one another. -/
def maxDepth : Nat := 80

namespace Reader

def peek : Reader (Option Char) :=
  return (← get).head?

/-- Passes over a text if it comes next. -/
def accept (text : String) : Reader Bool := do
  let s ← get
  if text.toList.isPrefixOf s then
    set (s.drop text.length)
    return true
  else return false

/-- Passes over the first of two texts that comes next, if one does. -/
def acceptEither (first second : String) : Reader Bool := do
  if ← accept first then return true else accept second

/-- Passes over a text that must come next. -/
def expect (text : String) : Reader Unit := do
  if !(← accept text) then failure

/-- The next character. -/
def next : Reader Char := do
  match ← get with
  | c :: s => set s; return c
  | [] => failure

/-- The characters at the front that satisfy `p`. -/
def readWhile (p : Char → Bool) : Reader (List Char) :=
  modifyGet fun s => s.span p

/-- A number of characters that satisfy `p`. -/
def readExactly (p : Char → Bool) (count : Nat) : Reader (List Char) := do
  let s ← get
  let run := s.take count
  if run.length = count ∧ run.all p then
    set (s.drop count)
    return run
  else failure

end Reader

open Reader

/-! ### Blanks and lines -/

def skipBlanks : Reader Unit :=
  discard (readWhile fun c => c = ' ' || c = '\t')

/-- Passes over the end of a line, if it comes next. -/
def acceptLine : Reader Bool :=
  acceptEither "\n" "\r\n"

/-- May the character stand in a comment or a string? -/
def isPlain (c : Char) : Bool :=
  c = '\t' || (32 ≤ c.toNat && c.toNat ≠ 127)

/-- Passes over a comment, if there is one. -/
def skipComment : Reader Unit := do
  if ← accept "#" then discard (readWhile isPlain)

/-- The rest of a line, in which only a comment may stand. -/
def endLine : Reader Unit := do
  skipBlanks
  skipComment
  if (← peek).isNone then return
  if !(← acceptLine) then failure

/-- Passes over blanks, comments and ends of lines. -/
def skipLines : Reader Unit := do
  go (← get).length
where
  go : Nat → Reader Unit
    | 0 => skipBlanks
    | fuel + 1 => do
      skipBlanks
      skipComment
      if ← acceptLine then go fuel

/-! ### Strings -/

/-- The character with a number in hexadecimal digits. -/
def readScalar (count : Nat) : Reader Char := do
  let digits ← readExactly (fun c => (Text.hexDigit? c).isSome) count
  match Text.readHex? digits with
  | some n => if h : n.isValidChar then return Char.ofNatAux n h else failure
  | none => failure

/-- The character that an escape stands for, after its backslash. -/
def readEscape : Reader Char := do
  match ← next with
  | 'b' => return '\x08'
  | 't' => return '\t'
  | 'n' => return '\n'
  | 'f' => return '\x0c'
  | 'r' => return '\r'
  | 'e' => return '\x1b'
  | '"' => return '"'
  | '\\' => return '\\'
  | 'x' => readScalar 2
  | 'u' => readScalar 4
  | 'U' => readScalar 8
  | _ => failure

/-- The rest of a string in double quotes. -/
def readBasic : Nat → Reader (List Char)
  | 0 => failure
  | fuel + 1 => do
    match ← next with
    | '"' => return []
    | '\\' => return (← readEscape) :: (← readBasic fuel)
    | c => if isPlain c then return c :: (← readBasic fuel) else failure

/-- Passes over the blanks and line ends after a backslash at the end of a line. -/
def acceptContinuation : Reader Bool := do
  let s ← get
  skipBlanks
  if ← acceptLine then
    discard (readWhile fun c => c = ' ' || c = '\t' || c = '\n' || c = '\r')
    return true
  else
    set s
    return false

/-- The quotes at the end of a long string; up to two of them belong to the string. -/
def readClosing (quote : Char) : Reader (List Char) := do
  let run ← readWhile (· = quote)
  if run.length ≤ 5 then return run.drop 3 else failure

/-- The rest of a long string in double quotes. -/
def readLongBasic : Nat → Reader (List Char)
  | 0 => failure
  | fuel + 1 => do
    if ['"', '"', '"'].isPrefixOf (← get) then readClosing '"'
    else if ← acceptLine then return '\n' :: (← readLongBasic fuel)
    else
      match ← next with
      | '\\' =>
        if ← acceptContinuation then readLongBasic fuel
        else return (← readEscape) :: (← readLongBasic fuel)
      | c => if isPlain c then return c :: (← readLongBasic fuel) else failure

/-- The rest of a long string in single quotes. -/
def readLongLiteral : Nat → Reader (List Char)
  | 0 => failure
  | fuel + 1 => do
    if ['\'', '\'', '\''].isPrefixOf (← get) then readClosing '\''
    else if ← acceptLine then return '\n' :: (← readLongLiteral fuel)
    else
      let c ← next
      if isPlain c then return c :: (← readLongLiteral fuel) else failure

/-- The rest of a string in single quotes. -/
def readLiteral : Reader (List Char) := do
  let run ← readWhile fun c => c ≠ '\'' && isPlain c
  expect "'"
  return run

/-- A string on one line, if one begins here. -/
def readShortString? : Reader (Option String) := do
  if ← accept "\"" then return some (String.ofList (← readBasic ((← get).length + 1)))
  else if ← accept "'" then return some (String.ofList (← readLiteral))
  else return none

/-- A string, if one begins here. -/
def readString? : Reader (Option String) := do
  let fuel := (← get).length + 1
  if ← accept "\"\"\"" then
    discard acceptLine
    return some (String.ofList (← readLongBasic fuel))
  else if ← accept "'''" then
    discard acceptLine
    return some (String.ofList (← readLongLiteral fuel))
  else readShortString?

/-! ### Names -/

/-- A name without dots. -/
def readSimpleName : Reader String := do
  match ← readShortString? with
  | some name => return name
  | none =>
    let name ← readWhile isBareChar
    if name = [] then failure
    return String.ofList name

/-- The names after a first one, each of them behind a dot. -/
def readMoreNames : Nat → Reader (List String)
  | 0 => return []
  | fuel + 1 => do
    skipBlanks
    if ← accept "." then
      skipBlanks
      let name ← readSimpleName
      return name :: (← readMoreNames fuel)
    else return []

/-- Names with dots between them: those in front and the last one. -/
def readName : Reader (List String × String) := do
  let first ← readSimpleName
  let more ← readMoreNames (← get).length
  return match more.reverse with
    | [] => ([], first)
    | last :: before => (first :: before.reverse, last)

/-! ### Numbers and points in time -/

/-- Digits without the underscores between them.  An underscore needs a digit at both sides. -/
def joinDigits? (isDigit : Char → Bool) : List Char → Option (List Char)
  | [] => none
  | [c] => if isDigit c then some [c] else none
  | c :: '_' :: d :: s =>
    if isDigit c && isDigit d then (joinDigits? isDigit (d :: s)).map (c :: ·) else none
  | c :: s => if isDigit c then (joinDigits? isDigit s).map (c :: ·) else none

/-- A whole number in a base. -/
def inBase (base : Nat) (digits : List Char) : Option Nat :=
  digits.foldlM (fun n c => do
    let d ← Text.hexDigit? c
    if d < base then some (base * n + d) else none) 0

/-- Decimal digits without a superfluous zero in front. -/
def readWhole? (s : List Char) : Option (List Char) :=
  match joinDigits? Char.isDigit s with
  | some ('0' :: _ :: _) => none
  | digits => digits

/-- A sign and what follows it. -/
def splitSign : List Char → Bool × List Char
  | '-' :: s => (true, s)
  | '+' :: s => (false, s)
  | s => (false, s)

/-- A floating-point number from its parts, if it is finite. -/
def ofParts? (negative : Bool) (whole places : List Char) (power : Int) : Option Value :=
  let x := Number.ofDecimal negative ⟨Number.ofDigits (whole ++ places), power - places.length⟩
  if x.isInf then none else some (.float x.toBits)

/-- A power of ten after its letter; zeros may stand in front. -/
def readPower? (s : List Char) : Option Int := do
  let (negative, s) := splitSign s
  let n := Number.ofDigits (← joinDigits? Char.isDigit s)
  return if negative then -n else n

/-- A decimal number. -/
def readNumber? (s : List Char) : Option Value := do
  let (negative, s) := splitSign s
  match s with
  | ['i', 'n', 'f'] => return .float (if negative then -1.0 / 0.0 else 1.0 / 0.0 : Float).toBits
  | ['n', 'a', 'n'] =>
    return .float (0x7FF8000000000000 + if negative then 0x8000000000000000 else 0)
  | _ =>
    let (mantissa, power?) := match s.span fun c => c ≠ 'e' && c ≠ 'E' with
      | (mantissa, _ :: power) => (mantissa, some power)
      | (mantissa, []) => (mantissa, none)
    let (whole, places?) := match mantissa.span (· ≠ '.') with
      | (whole, _ :: places) => (whole, some places)
      | (whole, []) => (whole, none)
    let digits ← readWhole? whole
    match places?, power? with
    | none, none =>
      let n : Int := Number.ofDigits digits
      return .integer (if negative then -n else n)
    | _, _ =>
      let places ← match places? with
        | some places => joinDigits? Char.isDigit places
        | none => some []
      let power ← match power? with
        | some power => readPower? power
        | none => some 0
      ofParts? negative digits places power

/-- A number in a base other than ten, or a decimal one. -/
def readAnyNumber? (s : List Char) : Option Value :=
  let isHex (c : Char) : Bool := (Text.hexDigit? c).isSome
  match s with
  | '0' :: 'x' :: s => do return .integer (← inBase 16 (← joinDigits? isHex s))
  | '0' :: 'o' :: s => do return .integer (← inBase 8 (← joinDigits? isHex s))
  | '0' :: 'b' :: s => do return .integer (← inBase 2 (← joinDigits? isHex s))
  | s => readNumber? s

/-- A number of so many digits. -/
def readFixed (count : Nat) : Reader Nat := do
  return Number.ofDigits (← readExactly Char.isDigit count)

/-- The number of days of a month. -/
def daysInMonth (year month : Nat) : Nat :=
  match month with
  | 2 => if Calendar.isLeap year then 29 else 28
  | 4 | 6 | 9 | 11 => 30
  | _ => 31

def readDate : Reader DateText := do
  let year ← readFixed 4
  expect "-"
  let month ← readFixed 2
  expect "-"
  let day ← readFixed 2
  if 1 ≤ month ∧ month ≤ 12 ∧ 1 ≤ day ∧ day ≤ daysInMonth year month then
    return ⟨year, month, day⟩
  else failure

/-- A time of day, in which the seconds may be missing. -/
def readTime : Reader TimeText := do
  let hour ← readFixed 2
  expect ":"
  let minute ← readFixed 2
  if 23 < hour ∨ 59 < minute then failure
  if !(← accept ":") then return ⟨hour, minute, none, none⟩
  let second ← readFixed 2
  if 60 < second then failure
  if !(← accept ".") then return ⟨hour, minute, some second, none⟩
  let digits ← readWhile Char.isDigit
  if digits = [] then failure
  let digits := digits.take 9
  return ⟨hour, minute, some second, some (Number.ofDigits digits * Nat.pow 10 (9 - digits.length))⟩

/-- The offset after a time, if there is one. -/
def readOffset? : Reader (Option OffsetText) := do
  if ← acceptEither "Z" "z" then return some .universal
  let negative ← accept "-"
  let signed ← if negative then pure true else accept "+"
  if !signed then return none
  let hours ← readFixed 2
  expect ":"
  let minutes ← readFixed 2
  if 23 < hours ∨ 59 < minutes then failure
  let n : Int := hours * 60 + minutes
  return some (.minutes (if negative then -n else n))

/-- A point in time. -/
def readDateTime : Reader DateTime := do
  if ((← get).drop 2).head? = some ':' then return ⟨none, some (← readTime), none⟩
  let date ← readDate
  let hasTime ← match ← get with
    | 'T' :: _ | 't' :: _ => pure true
    | ' ' :: c :: _ => pure c.isDigit
    | _ => pure false
  if !hasTime then return ⟨some date, none, none⟩
  discard next
  let time ← readTime
  return ⟨some date, some time, ← readOffset?⟩

/-- Does a point in time begin here? -/
def beginsDateTime (s : List Char) : Bool :=
  ((s.take 2).all Char.isDigit && (s.drop 2).head? = some ':')
    || ((s.take 4).all Char.isDigit && (s.drop 4).head? = some '-')

/-! ### Tables under construction -/

/-- How a table came about. -/
inductive Origin where
  /-- By the header of a table inside it. -/
  | implied
  /-- By a dotted name. -/
  | dotted
  /-- By a header of its own. -/
  | header
  deriving Repr, DecidableEq

/-- A value, or tables that may still grow. -/
inductive Node where
  | value (value : Value)
  | table (origin : Origin) (fields : List (String × Node))
  | tables (done : List (List (String × Node))) (current : List (String × Node))
  deriving Inhabited

/-- The fields of a table under construction. -/
abbrev Fields := List (String × Node)

/-- Replaces a field, or adds it at the end. -/
def Fields.put (name : String) (node : Node) : Fields → Fields
  | [] => [(name, node)]
  | (other, old) :: fields =>
    if name = other then (name, node) :: fields else (other, old) :: Fields.put name node fields

/-- Changes the table at the end of a path.  Tables that are not there yet come about by
`origin`; dotted names do not go through a table with a header. -/
def Fields.descend (origin : Origin) (change : Origin → Fields → Option Fields)
    (self : Origin) (fields : Fields) : List String → Option Fields
  | [] => change self fields
  | name :: path =>
    match fields.lookup name with
    | none => do
      let inner ← Fields.descend origin change origin [] path
      return fields.put name (.table origin inner)
    | some (.table old inner) =>
      if origin = .dotted ∧ old = .header then none
      else do
        let inner ← Fields.descend origin change old inner path
        return fields.put name (.table old inner)
    | some (.tables done current) => do
      let inner ← Fields.descend origin change .header current path
      return fields.put name (.tables done inner)
    | some (.value _) => none

/-- Adds a field with a dotted name. -/
def Fields.add (path : List String) (name : String) (value : Value) (fields : Fields) :
    Option Fields :=
  fields.descend .dotted (fun origin inner =>
    if (path ≠ [] ∧ origin ≠ .dotted) ∨ (inner.lookup name).isSome then none
    else some (inner.put name (.value value))) .header path

/-- Opens a table by its header. -/
def Fields.openTable (path : List String) (name : String) (fields : Fields) : Option Fields :=
  fields.descend .implied (fun _ inner =>
    match inner.lookup name with
    | none => some (inner.put name (.table .header []))
    | some (.table .implied old) => some (inner.put name (.table .header old))
    | some _ => none) .header path

/-- Opens a further table of an array of tables. -/
def Fields.openItem (path : List String) (name : String) (fields : Fields) : Option Fields :=
  fields.descend .implied (fun _ inner =>
    match inner.lookup name with
    | none => some (inner.put name (.tables [] []))
    | some (.tables done current) => some (inner.put name (.tables (done ++ [current]) []))
    | some _ => none) .header path

mutual

/-- The value of a finished node. -/
def Node.finish : Node → Value
  | .value v => v
  | .table _ fields => .table (Node.finishFields fields)
  | .tables done current => .array (Node.finishTables done ++ [.table (Node.finishFields current)])

def Node.finishFields : List (String × Node) → Table
  | [] => []
  | (name, node) :: fields => Table.insert name node.finish (Node.finishFields fields)

def Node.finishTables : List (List (String × Node)) → List Value
  | [] => []
  | fields :: rest => .table (Node.finishFields fields) :: Node.finishTables rest

end

/-! ### Values -/

/-- May the character stand in a number or a word? -/
def isScalarChar (c : Char) : Bool :=
  c.isAlphanum || c = '_' || c = '-' || c = '+' || c = '.'

/-- A value that is neither a string nor an array nor a table. -/
def readScalarValue : Reader Value := do
  if beginsDateTime (← get) then return .dateTime (← readDateTime)
  let word ← readWhile isScalarChar
  match String.ofList word with
  | "true" => return .boolean true
  | "false" => return .boolean false
  | _ => readAnyNumber? word

/-- The items of an array up to its closing bracket. -/
def readItems (value : Reader Value) : Nat → Reader (List Value)
  | 0 => failure
  | fuel + 1 => do
    skipLines
    if ← accept "]" then return []
    let item ← value
    skipLines
    if ← accept "," then return item :: (← readItems value fuel)
    expect "]"
    return [item]

/-- The fields of a table on one line up to its closing brace. -/
def readInlineFields (value : Reader Value) : Nat → Fields → Reader Fields
  | 0, _ => failure
  | fuel + 1, fields => do
    skipLines
    if ← accept "\x7d" then return fields
    let (path, name) ← readName
    skipBlanks
    expect "="
    skipBlanks
    let fields ← fields.add path name (← value)
    skipLines
    if ← accept "," then readInlineFields value fuel fields
    else
      expect "\x7d"
      return fields

/-- A value.  The values in arrays and tables are read by `inner`, if there may be any. -/
def readValueWith (inner : Option (Reader Value)) : Reader Value := do
  match ← readString? with
  | some text => return .string text
  | none =>
    let fuel := (← get).length + 1
    match inner with
    | none => readScalarValue
    | some inner =>
      if ← accept "[" then return .array (← readItems inner fuel)
      else if ← accept "\x7b" then
        return (Node.table .dotted (← readInlineFields inner fuel [])).finish
      else readScalarValue

/-- A value with arrays and tables up to a depth. -/
def readValue : Nat → Reader Value
  | 0 => readValueWith none
  | depth + 1 => readValueWith (some (readValue depth))

/-! ### Documents -/

/-- A document under construction: all its fields, and the path of the table that is open. -/
structure Document where
  fields : Fields
  current : List String

/-- Adds a field to the table that is open. -/
def Document.add (d : Document) (path : List String) (name : String) (value : Value) :
    Option Document := do
  let fields ← d.fields.descend .implied (fun _ inner => inner.add path name value) .header
    d.current
  return { d with fields := fields }

/-- One line of a document, without the end of the line. -/
def readLine (d : Document) : Reader Document := do
  skipBlanks
  match ← peek with
  | none | some '#' | some '\n' | some '\r' => return d
  | some '[' =>
    let isItem ← accept "[["
    if !isItem then expect "["
    skipBlanks
    let (path, name) ← readName
    skipBlanks
    expect (if isItem then "]]" else "]")
    let fields ← if isItem then d.fields.openItem path name else d.fields.openTable path name
    return ⟨fields, path ++ [name]⟩
  | some _ =>
    let (path, name) ← readName
    skipBlanks
    expect "="
    skipBlanks
    d.add path name (← readValue maxDepth)

/-- The lines of a document. -/
def readLines : Nat → Document → Reader Document
  | 0, d => return d
  | fuel + 1, d => do
    if (← peek).isNone then return d
    let d ← readLine d
    endLine
    readLines fuel d

/-- The table that a document writes. -/
def parse? (text : String) : Option Table := do
  let s := match text.toList with
    | '\ufeff' :: s => s
    | s => s
  let (d, _) ← StateT.run (readLines (s.length + 1) ⟨[], []⟩) s
  return Node.finishFields d.fields

end CommandTemplate.Toml
