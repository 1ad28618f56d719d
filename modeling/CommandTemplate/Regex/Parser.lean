import CommandTemplate.Regex.Syntax
import CommandTemplate.Text.Blank
import CommandTemplate.Text.Property.Letters

/-!
Reading regular expressions.

`Ast.parse` reads a pattern from left to right and reports the first fault in it.  Open
groups are kept on a stack of `Level`s and open classes on a stack of `ClassLevel`s, so each
step takes at least one character, and the number of the characters bounds the steps.

A pattern in the verbose style may hold blanks and comments between its parts.
-/

namespace CommandTemplate.Regex

open Text (CodeSet)

/-- The rest of a pattern and what is known from the part before it. -/
structure Cursor where
  rest : List Char
  /-- Are blanks and comments passed over? -/
  verbose : Bool
  /-- The names of the groups so far. -/
  names : List String
  /-- The number of the capture groups so far. -/
  groups : Nat

/-- Steps over a pattern. -/
abbrev Reader := StateT Cursor (Except Error)

/-- A pattern without the blanks and comments at its front. -/
def dropComments (inComment : Bool) : List Char → List Char
  | [] => []
  | c :: s =>
    if inComment then dropComments (c != '\n') s
    else if Text.isBlank c then dropComments false s
    else if c = '#' then dropComments true s
    else c :: s

namespace Reader

/-- The next character. -/
def peek : Reader (Option Char) :=
  return (← get).rest.head?

/-- The character after the next one. -/
def peekSecond : Reader (Option Char) :=
  return (← get).rest.tail.head?

/-- Passes over one character. -/
def advance : Reader Unit :=
  modify fun s => { s with rest := s.rest.tail }

/-- Passes over blanks and comments in the verbose style. -/
def skipBlanks : Reader Unit :=
  modify fun s => if s.verbose then { s with rest := dropComments false s.rest } else s

/-- Passes over one character and the blanks after it. -/
def step : Reader Unit := do
  advance
  skipBlanks

/-- The character after the next one that is neither blank nor in a comment. -/
def peekBeyond : Reader (Option Char) := do
  let s ← get
  let after := s.rest.tail
  return (if s.verbose then dropComments false after else after).head?

/-- The next character; without one, a fault. -/
def next (fault : Error) : Reader Char := do
  match ← peek with
  | some c => return c
  | none => throw fault

/-- Passes over a text if it comes next. -/
def accept (text : String) : Reader Bool := do
  let s ← get
  if text.toList.isPrefixOf s.rest then
    set { s with rest := s.rest.drop text.length }
    return true
  else return false

/-- The characters from here on that satisfy `p`, with blanks allowed between them. -/
def run (p : Char → Bool) : Reader (List Char) := do
  go (← get).rest.length
where
  go : Nat → Reader (List Char)
    | 0 => return []
    | fuel + 1 => do
      match ← peek with
      | none => return []
      | some c =>
        if p c then
          step
          return c :: (← go fuel)
        else return []

end Reader

open Reader

/-! ### Repetitions -/

/-- A number of repetitions, or what is wrong with it. -/
def readCount : Reader (Except Error Nat) := do
  modify fun s => { s with rest := s.rest.dropWhile Text.isBlank }
  let digits ← run Char.isDigit
  discard <| run Text.isBlank
  let n := digits.foldl (fun n c => 10 * n + (c.toNat - '0'.toNat)) 0
  return if digits = [] then .error .countEmpty
    else if n < 0x100000000 then .ok n
    else .error .decimalTooLarge

/-- The bounds of a counted repetition from its opening brace on. -/
def readCounts : Reader (Nat × Option Nat) := do
  step
  discard <| next .countUnclosed
  let low ← readCount
  if (← next .countUnclosed) = ',' then
    step
    if (← next .countUnclosed) = '}' then return (← low, none)
    else
      let low ← low
      return (low, some (← (← readCount)))
  else
    let low ← low
    return (low, some low)

/-- The part that a repetition sign belongs to, and those before it. -/
def lastPart : List Ast → Reader (Ast × List Ast)
  | [] | .empty :: _ | .flags _ :: _ => throw .nothingToRepeat
  | part :: before => return (part, before)

/-- Is the repetition that was just read without a question mark after it? -/
def readGreed : Reader Bool :=
  return !(← accept "?")

/-- A repetition from its opening brace on, for the last of the parts. -/
def readCounted (parts : List Ast) : Reader (List Ast) := do
  let (part, before) ← lastPart parts
  let (low, high) ← readCounts
  if (← next .countUnclosed) ≠ '}' then throw .countUnclosed
  step
  let greedy ← readGreed
  if high.any (· < low) then throw .countRange
  return .repetition low high greedy part :: before

/-- A repetition that is written with one sign, for the last of the parts. -/
def readRepeated (low : Nat) (high : Option Nat) (parts : List Ast) : Reader (List Ast) := do
  let (part, before) ← lastPart parts
  advance
  return .repetition low high (← readGreed) part :: before

/-! ### Escapes -/

/-- What one character or escape stands for. -/
inductive Atom where
  | literal (literal : Literal)
  | dot
  | anchor (anchor : Anchor)
  | shorthand (kind : Shorthand) (negated : Bool)
  | property (name : PropertyName) (negated : Bool)

/-- The character that hexadecimal digits name. -/
def scalar (digits : List Char) : Reader Char :=
  match Text.readHex? digits with
  | some n => if h : n.isValidChar then return Char.ofNatAux n h else throw .hexNoCharacter
  | none => throw .hexDigit

/-- Hexadecimal digits, a fixed number of them. -/
def readHexDigits : Nat → Reader (List Char)
  | 0 => return []
  | n + 1 => do
    let c ← next .escapeEnd
    if (Text.hexDigit? c).isNone then throw .hexDigit
    step
    return c :: (← readHexDigits n)

/-- A character by its number, from the letter of the escape on. -/
def readHex (width : Nat) : Reader Literal := do
  step
  if (← next .escapeEnd) = '{' then
    step
    let digits ← run fun c => (Text.hexDigit? c).isSome
    if (← next .escapeEnd) ≠ '}' then throw .hexDigit
    step
    if digits = [] then throw .hexEmpty
    return ⟨← scalar digits, false⟩
  else
    return ⟨← scalar (← readHexDigits width), width = 2⟩

/-- The name of a class of Unicode characters; a value may follow after `!=`, `:` or `=`. -/
def propertyName (name : List Char) : PropertyName :=
  match splitAt? ['!', '='] name with
  | some (name, value) => .valued name false value
  | none =>
    match splitAt? [':'] name, splitAt? ['='] name with
    | some (name, value), _ | none, some (name, value) => .valued name true value
    | none, none => .plain name
where
  /-- The parts of a text before and after the first `mark` in it. -/
  splitAt? (mark : List Char) : List Char → Option (List Char × List Char)
    | [] => none
    | c :: s =>
      if mark.isPrefixOf (c :: s) then some ([], (c :: s).drop mark.length)
      else (splitAt? mark s).map fun (before, after) => (c :: before, after)

/-- A class of Unicode characters from the letter of the escape on. -/
def readProperty (negated : Bool) : Reader Atom := do
  step
  let c ← next .escapeEnd
  if c = '{' then
    step
    let name ← run (· ≠ '}')
    discard <| next .escapeEnd
    advance
    return .property (propertyName name) negated
  else if c = '\\' then throw .property
  else
    step
    return .property (.plain [c]) negated

/-- May the character stand in the name of a kind of word boundary? -/
def isBoundaryChar (c : Char) : Bool :=
  c.isAlpha || c = '-'

/-- The anchor of a `\b`, after which a kind of boundary may be named in braces. -/
def readBoundary : Reader Anchor := do
  if (← peek) ≠ some '{' then return .word
  let start ← get
  step
  if !isBoundaryChar (← next .boundaryEnd) then
    set start
    return .word
  let name ← run isBoundaryChar
  if (← peek) ≠ some '}' then throw .boundaryUnclosed
  advance
  match String.ofList name with
  | "start" => return .wordStart
  | "end" => return .wordEnd
  | "start-half" => return .wordStartHalf
  | "end-half" => return .wordEndHalf
  | _ => throw .boundaryUnknown

/-- The characters that mean something in a pattern. -/
def metaChars : List Char := "\\.+*?()|[]\x7b\x7d^$#&-~".toList

/-- May a backslash stand before the character without giving it a meaning? -/
def isEscapable (c : Char) : Bool :=
  c ∈ metaChars || (c.toNat < 128 && !c.isAlphanum && c ≠ '<' && c ≠ '>')

/-- What an escape stands for, from its backslash on. -/
def readEscape : Reader Atom := do
  advance
  let c ← next .escapeEnd
  if c.isDigit then throw .backreference
  match c with
  | 'x' => return .literal (← readHex 2)
  | 'u' => return .literal (← readHex 4)
  | 'U' => return .literal (← readHex 8)
  | 'p' => readProperty false
  | 'P' => readProperty true
  | _ =>
    advance
    if isEscapable c then return .literal ⟨c, false⟩
    match c with
    | 'd' => return .shorthand .digit false
    | 's' => return .shorthand .space false
    | 'w' => return .shorthand .word false
    | 'D' => return .shorthand .digit true
    | 'S' => return .shorthand .space true
    | 'W' => return .shorthand .word true
    | 'a' => return .literal ⟨'\x07', false⟩
    | 'f' => return .literal ⟨'\x0c', false⟩
    | 't' => return .literal ⟨'\t', false⟩
    | 'n' => return .literal ⟨'\n', false⟩
    | 'r' => return .literal ⟨'\r', false⟩
    | 'v' => return .literal ⟨'\x0b', false⟩
    | 'A' => return .anchor .textStart
    | 'z' => return .anchor .textEnd
    | 'b' => return .anchor (← readBoundary)
    | 'B' => return .anchor .notWord
    | '<' => return .anchor .wordStart
    | '>' => return .anchor .wordEnd
    | _ => throw .escapeUnknown

/-- One character or escape. -/
def readAtom (c : Char) : Reader Atom := do
  match c with
  | '\\' => readEscape
  | '.' => advance; return .dot
  | '^' => advance; return .anchor .lineStart
  | '$' => advance; return .anchor .lineEnd
  | _ => advance; return .literal ⟨c, false⟩

/-! ### Classes -/

/-- A class that is still open: the operation that waits for its right side, with the left
side, and the items since then, the last one first. -/
structure ClassLevel where
  negated : Bool
  pending : Option (SetOperator × ClassAst)
  items : List ClassAst

namespace ClassLevel

/-- The items as one class. -/
def union : List ClassAst → ClassAst
  | [] => .empty
  | [item] => item
  | items => .union items.reverse

/-- The class up to here. -/
def whole (level : ClassLevel) : ClassAst :=
  match level.pending with
  | none => union level.items
  | some (operator, left) => .operation operator left (union level.items)

def push (item : ClassAst) (level : ClassLevel) : ClassLevel :=
  { level with items := item :: level.items }

/-- Starts the right side of an operation. -/
def operate (operator : SetOperator) (level : ClassLevel) : ClassLevel :=
  { level with pending := some (operator, level.whole), items := [] }

end ClassLevel

/-- The classes of ASCII characters by their names. -/
def asciiClasses : List (String × List (Char × Char)) := [
  ("alnum", [('0', '9'), ('A', 'Z'), ('a', 'z')]),
  ("alpha", [('A', 'Z'), ('a', 'z')]),
  ("ascii", [('\x00', '\x7f')]),
  ("blank", [('\t', '\t'), (' ', ' ')]),
  ("cntrl", [('\x00', '\x1f'), ('\x7f', '\x7f')]),
  ("digit", [('0', '9')]),
  ("graph", [('!', '~')]),
  ("lower", [('a', 'z')]),
  ("print", [(' ', '~')]),
  ("punct", [('!', '/'), (':', '@'), ('[', '\x60'), ('\x7b', '~')]),
  ("space", [('\t', '\r'), (' ', ' ')]),
  ("upper", [('A', 'Z')]),
  ("word", [('0', '9'), ('A', 'Z'), ('_', '_'), ('a', 'z')]),
  ("xdigit", [('0', '9'), ('A', 'F'), ('a', 'f')])]

/-- The class of ASCII characters with a name. -/
def asciiClass? (name : String) : Option CodeSet :=
  (asciiClasses.lookup name).map fun ranges =>
    .ofRanges (ranges.map fun (a, b) => (a.toNat, b.toNat))

/-- A named class of ASCII characters and what follows it, if `s` starts with one. -/
def asciiClassAt? (s : List Char) : Option (ClassAst × List Char) := do
  let s ← match s with
    | '[' :: ':' :: s => some s
    | _ => none
  let (negated, s) := match s with
    | '^' :: s => (true, s)
    | s => (false, s)
  match s.span (· ≠ ':') with
  | (name, ':' :: ']' :: s) =>
    (asciiClass? (String.ofList name)).map fun members => (.ascii members negated, s)
  | _ => none

/-- A named class of ASCII characters, if one comes next. -/
def readAsciiClass? : Reader (Option ClassAst) := do
  let s ← get
  match asciiClassAt? s.rest with
  | none => return none
  | some (item, rest) =>
    set { s with rest := rest }
    return some item

/-- Hyphens at the front of a class, which are literal. -/
def readHyphens : Nat → Reader (List ClassAst)
  | 0 => return []
  | fuel + 1 => do
    if (← next .classUnclosed) = '-' then
      step
      return .literal ⟨'-', false⟩ :: (← readHyphens fuel)
    else return []

/-- The beginning of a class from its opening bracket on. -/
def openClass : Reader ClassLevel := do
  step
  let negated := (← next .classUnclosed) = '^'
  if negated then step
  let hyphens ← readHyphens (← get).rest.length
  if hyphens = [] ∧ (← next .classUnclosed) = ']' then
    step
    discard <| next .classUnclosed
    return ⟨negated, none, [.literal ⟨']', false⟩]⟩
  else
    discard <| next .classUnclosed
    return ⟨negated, none, hyphens⟩

/-- A character or an escape inside a class. -/
def readClassAtom : Reader Atom := do
  let c ← next .classUnclosed
  if c = '\\' then readEscape
  else
    advance
    return .literal ⟨c, false⟩

/-- An atom as an item of a class. -/
def Atom.item : Atom → Reader ClassAst
  | .literal l => return .literal l
  | .shorthand kind negated => return .shorthand kind negated
  | .property name negated => return .property name negated
  | .dot | .anchor _ => throw .classEscape

/-- An atom as an end of a range. -/
def Atom.boundary : Atom → Reader Literal
  | .literal l => return l
  | _ => throw .classBoundary

/-- An item of a class: a range or a single atom. -/
def readClassItem : Reader ClassAst := do
  let low ← readClassAtom
  skipBlanks
  let c ← next .classUnclosed
  let beyond ← peekBeyond
  if c ≠ '-' ∨ beyond = some ']' ∨ beyond = some '-' then low.item
  else
    step
    discard <| next .classUnclosed
    let high ← readClassAtom
    let low ← low.boundary
    let high ← high.boundary
    if high.char < low.char then throw .classRange
    return .range low high

/-- The operation that comes next. -/
def operator? (c : Char) : Option SetOperator :=
  match c with
  | '&' => some .inter
  | '-' => some .diff
  | '~' => some .symmDiff
  | _ => none

/-- The rest of a class; `outer` holds the classes around the innermost one. -/
def readClassRest : Nat → ClassLevel → List ClassLevel → Reader Ast
  | 0, _, _ => throw .classUnclosed
  | fuel + 1, level, outer => do
    skipBlanks
    let c ← next .classUnclosed
    if c = '[' then
      match ← readAsciiClass? with
      | some item => readClassRest fuel (level.push item) outer
      | none => readClassRest fuel (← openClass) (level :: outer)
    else if c = ']' then
      advance
      match outer with
      | [] => return .bracketed level.negated level.whole
      | parent :: outer =>
        readClassRest fuel (parent.push (.bracketed level.negated level.whole)) outer
    else
      match operator? c with
      | some operator =>
        if (← peekSecond) = some c then
          advance
          advance
          readClassRest fuel (level.operate operator) outer
        else readClassRest fuel (level.push (← readClassItem)) outer
      | none => readClassRest fuel (level.push (← readClassItem)) outer

/-- A class from its opening bracket on. -/
def readClass : Reader Ast := do
  let fuel := (← get).rest.length + 1
  readClassRest fuel (← openClass) []

/-! ### Groups -/

/-- The flag that a letter stands for. -/
def flag? (c : Char) : Option Flag :=
  match c with
  | 'i' => some .ignoreCase
  | 'm' => some .multiLine
  | 's' => some .dotAll
  | 'U' => some .swapGreed
  | 'u' => some .unicode
  | 'R' => some .crlf
  | 'x' => some .verbose
  | _ => none

/-- The flags up to a colon or a closing parenthesis.  `negated` tells whether the minus sign
has come, and `dangling` whether it was the last character. -/
def readFlags : Nat → FlagChange → Bool → Bool → Reader FlagChange
  | 0, _, _, _ => throw .flagEnd
  | fuel + 1, change, negated, dangling => do
    let c ← next .flagEnd
    if c = ':' ∨ c = ')' then
      if dangling then throw .flagDangling
      return change
    if c = '-' then
      if negated then throw .flagNegatedTwice
      advance
      readFlags fuel change true true
    else
      match flag? c with
      | none => throw .flagUnknown
      | some flag =>
        if flag ∈ change.on ∨ flag ∈ change.off then throw .flagTwice
        advance
        let change := if negated then { change with off := change.off ++ [flag] }
          else { change with on := change.on ++ [flag] }
        readFlags fuel change negated false

/-- The letters of names: those of classes and those that version 17 of Unicode adds. -/
def nameLetters : CodeSet :=
  Text.Property.alphabetic.union <| .ofText
    "88f c5c cdc a7ce-a7cf a7d2 a7d4 a7f1 10940-10959 10ec5-10ec7 10efa-10efb 11b60-11b67
    11db0-11ddb 16ea0-16eb8 16ebb-16ed3 16ff2-16ff6 187f8-187ff 18d09-18d1e 18d80-18df2
    1e6c0-1e6de 1e6e0-1e6f5 1e6fe-1e6ff 2b73a-2b73f 2cea2-2cead 323b0-33479"

/-- The digits of names. -/
def nameNumbers : CodeSet :=
  Text.Category.number.union <| .ofText "11de0-11de9 16ff4-16ff6"

/-- May the character stand in the name of a group? -/
def isNameChar (c : Char) : Bool :=
  c = '_' || c = '.' || c = '[' || c = ']' || nameLetters.has c || nameNumbers.has c

/-- May the character begin the name of a group? -/
def isNameStart (c : Char) : Bool :=
  c = '_' || nameLetters.has c

/-- The name of a group up to its closing angle bracket, which is passed over too. -/
def readName : Reader String := do
  let s ← get
  let (name, rest) := s.rest.span (· ≠ '>')
  let valid := match name with
    | [] => true
    | c :: name => isNameStart c && name.all isNameChar
  if !valid then throw .nameCharacter
  if rest = [] then throw .nameUnclosed
  let name := String.ofList name
  if name = "" then throw .nameEmpty
  if name ∈ s.names then throw .nameTwice
  set { s with rest := rest.tail, names := name :: s.names }
  return name

/-- The number of the next capture group. -/
def nextGroup : Reader Nat := do
  let s ← get
  if maxGroups ≤ s.groups then throw .tooManyGroups
  set { s with groups := s.groups + 1 }
  return s.groups + 1

/-- What an opening parenthesis begins. -/
inductive Opening where
  | flags (change : FlagChange)
  | group (kind : GroupKind)

/-- Does a look-around begin here? -/
def isLookAround (s : List Char) : Bool :=
  ["?=", "?!", "?<=", "?<!"].any fun mark => mark.toList.isPrefixOf s

/-- The beginning of a group, or a change of flags. -/
def readOpening : Reader Opening := do
  step
  if isLookAround (← get).rest then throw .lookAround
  let named ← if ← accept "?P<" then pure true else accept "?<"
  if named then
    let index ← nextGroup
    return .group (.capture index (← readName))
  else if ← accept "?" then
    discard <| next .groupUnclosed
    let change ← readFlags (← get).rest.length .none false false
    let last ← next .flagEnd
    advance
    if last = ')' then
      if change = .none then throw .nothingToRepeat
      return .flags change
    else return .group (.plain change)
  else return .group (.capture (← nextGroup) none)

/-! ### Patterns -/

/-- A group that is still open: the branches before the last bar and the parts since then,
each with the last one first. -/
structure Level where
  branches : List Ast
  parts : List Ast

namespace Level

def empty : Level := ⟨[], []⟩

def push (part : Ast) (level : Level) : Level :=
  { level with parts := part :: level.parts }

/-- The parts since the last bar as one expression. -/
def branch (level : Level) : Ast :=
  match level.parts with
  | [] => .empty
  | [part] => part
  | parts => .concatenation parts.reverse

/-- The whole group. -/
def whole (level : Level) : Ast :=
  match level.branches with
  | [] => level.branch
  | branches => .alternation (level.branch :: branches).reverse

end Level

/-- What an open group needs when it is closed. -/
structure Outer where
  level : Level
  kind : GroupKind
  verbose : Bool

def setVerbose (verbose : Bool) : Reader Unit :=
  modify fun s => { s with verbose := verbose }

/-- An atom as an expression. -/
def Atom.ast : Atom → Ast
  | .literal l => .literal l
  | .dot => .dot
  | .anchor a => .anchor a
  | .shorthand kind negated => .shorthand kind negated
  | .property name negated => .property name negated

/-- The rest of a pattern; `outer` holds the open groups around the innermost one. -/
def readRest : Nat → Level → List Outer → Reader Ast
  | 0, _, _ => throw .groupUnclosed
  | fuel + 1, level, outer => do
    skipBlanks
    match ← peek with
    | none =>
      match outer with
      | [] => return level.whole
      | _ :: _ => throw .groupUnclosed
    | some '(' =>
      match ← readOpening with
      | .flags change =>
        (change.value? .verbose).forM setVerbose
        readRest fuel (level.push (.flags change)) outer
      | .group kind =>
        let verbose := (← get).verbose
        match kind with
        | .plain change => setVerbose ((change.value? .verbose).getD verbose)
        | .capture _ _ => pure ()
        readRest fuel .empty (⟨level, kind, verbose⟩ :: outer)
    | some ')' =>
      match outer with
      | [] => throw .groupUnopened
      | parent :: outer =>
        advance
        setVerbose parent.verbose
        readRest fuel (parent.level.push (.group parent.kind level.whole)) outer
    | some '|' =>
      advance
      readRest fuel ⟨level.branch :: level.branches, []⟩ outer
    | some '[' => readRest fuel (level.push (← readClass)) outer
    | some '?' =>
      readRest fuel { level with parts := ← readRepeated 0 (some 1) level.parts } outer
    | some '*' =>
      readRest fuel { level with parts := ← readRepeated 0 none level.parts } outer
    | some '+' =>
      readRest fuel { level with parts := ← readRepeated 1 none level.parts } outer
    | some '{' =>
      readRest fuel { level with parts := ← readCounted level.parts } outer
    | some c => readRest fuel (level.push (← readAtom c).ast) outer

/-- The expression that a pattern writes. -/
def Ast.parse (pattern : String) : Except Error Ast := do
  let s := pattern.toList
  let (ast, _) ← StateT.run (readRest (s.length + 1) .empty []) ⟨s, false, [], 0⟩
  if maxHeight < ast.height then throw .tooDeep
  return ast

end CommandTemplate.Regex
