import CommandTemplate.Text.CodeSet

/-!
The syntax of regular expressions and what can be wrong with one.

`Ast` is a regular expression as it is written: groups, flags and classes are still there.
`Ast.height` measures how deep its parts lie in one another, which is bounded by
`maxHeight`.  `Error.message` words each fault.
-/

namespace CommandTemplate.Regex

open Text (CodeSet)

/-- The options that a pattern can switch. -/
inductive Flag where
  | ignoreCase
  | multiLine
  | dotAll
  | swapGreed
  | unicode
  | crlf
  | verbose
  deriving Repr, DecidableEq

/-- The options that a pattern switches on and off in one place. -/
structure FlagChange where
  on : List Flag
  off : List Flag
  deriving Repr, DecidableEq

namespace FlagChange

def none : FlagChange := ⟨[], []⟩

/-- The value that the change gives to a flag. -/
def value? (change : FlagChange) (flag : Flag) : Option Bool :=
  if flag ∈ change.on then some true
  else if flag ∈ change.off then some false
  else .none

end FlagChange

/-- A character, and whether it was written as a byte of two hexadecimal digits. -/
structure Literal where
  char : Char
  byte : Bool
  deriving Repr, DecidableEq

/-- Places in a text, as they are written. -/
inductive Anchor where
  | lineStart
  | lineEnd
  | textStart
  | textEnd
  | word
  | notWord
  | wordStart
  | wordEnd
  | wordStartHalf
  | wordEndHalf
  deriving Repr, DecidableEq

/-- The classes that are written as a backslash and one letter. -/
inductive Shorthand where
  | digit
  | space
  | word
  deriving Repr, DecidableEq

/-- The names of classes of Unicode characters: the name of a set, or that of a property and a
value which the characters have or, if `has` is false, do not have. -/
inductive PropertyName where
  | plain (name : List Char)
  | valued (name : List Char) (has : Bool) (value : List Char)
  deriving Repr, DecidableEq

/-- The operations on classes that are written with a doubled sign. -/
inductive SetOperator where
  | inter
  | diff
  | symmDiff
  deriving Repr, DecidableEq

/-- What stands between the brackets of a class. -/
inductive ClassAst where
  | empty
  | literal (literal : Literal)
  | range (low high : Literal)
  | ascii (members : CodeSet) (negated : Bool)
  | shorthand (kind : Shorthand) (negated : Bool)
  | property (name : PropertyName) (negated : Bool)
  | bracketed (negated : Bool) (inner : ClassAst)
  | union (items : List ClassAst)
  | operation (operator : SetOperator) (left right : ClassAst)

/-- The kinds of groups. -/
inductive GroupKind where
  | capture (index : Nat) (name : Option String)
  | plain (change : FlagChange)
  deriving Repr, DecidableEq

/-- A regular expression as it is written. -/
inductive Ast where
  | empty
  | flags (change : FlagChange)
  | literal (literal : Literal)
  | dot
  | anchor (anchor : Anchor)
  | shorthand (kind : Shorthand) (negated : Bool)
  | property (name : PropertyName) (negated : Bool)
  | bracketed (negated : Bool) (inner : ClassAst)
  | repetition (low : Nat) (high : Option Nat) (greedy : Bool) (body : Ast)
  | group (kind : GroupKind) (body : Ast)
  | alternation (branches : List Ast)
  | concatenation (items : List Ast)

/-! ### Heights -/

/-- How deep brackets, groups, repetitions and lists may lie in one another. -/
def maxHeight : Nat := 250

mutual

/-- How deep the parts of a class lie in one another. -/
def ClassAst.height : ClassAst → Nat
  | .bracketed _ inner => inner.height + 1
  | .union items => ClassAst.heightOfAll items + 1
  | .operation _ left right => max left.height right.height + 1
  | _ => 0

def ClassAst.heightOfAll : List ClassAst → Nat
  | [] => 0
  | item :: items => max item.height (ClassAst.heightOfAll items)

end

mutual

/-- How deep the parts of an expression lie in one another. -/
def Ast.height : Ast → Nat
  | .bracketed _ inner => inner.height + 1
  | .repetition _ _ _ body => body.height + 1
  | .group _ body => body.height + 1
  | .alternation branches => Ast.heightOfAll branches + 1
  | .concatenation items => Ast.heightOfAll items + 1
  | _ => 0

def Ast.heightOfAll : List Ast → Nat
  | [] => 0
  | item :: items => max item.height (Ast.heightOfAll items)

end

/-- How many groups of a pattern may capture what they match. -/
def maxGroups : Nat := 0xffffffff

/-! ### Faults -/

/-- What can be wrong with a regular expression. -/
inductive Error where
  | classEscape
  | classRange
  | classBoundary
  | classUnclosed
  | decimalTooLarge
  | hexEmpty
  | hexNoCharacter
  | hexDigit
  | escapeEnd
  | escapeUnknown
  | flagDangling
  | flagTwice
  | flagNegatedTwice
  | flagEnd
  | flagUnknown
  | nameTwice
  | nameEmpty
  | nameCharacter
  | nameUnclosed
  | tooManyGroups
  | groupUnclosed
  | groupUnopened
  | tooDeep
  | countRange
  | countEmpty
  | countUnclosed
  | nothingToRepeat
  | boundaryUnclosed
  | boundaryUnknown
  | boundaryEnd
  | property
  | propertyUnknown
  | propertyValueUnknown
  | backreference
  | lookAround
  | notUtf8
  | unicodeOff
  | tooLarge (limit : Nat)
  deriving Repr, DecidableEq

/-- The wording of a fault in a pattern. -/
def Error.description : Error → String
  | .classEscape => "invalid escape sequence found in character class"
  | .classRange => "invalid character class range, the start must be <= the end"
  | .classBoundary => "invalid range boundary, must be a literal"
  | .classUnclosed => "unclosed character class"
  | .decimalTooLarge => "decimal literal invalid"
  | .hexEmpty => "hexadecimal literal empty"
  | .hexNoCharacter => "hexadecimal literal is not a Unicode scalar value"
  | .hexDigit => "invalid hexadecimal digit"
  | .escapeEnd => "incomplete escape sequence, reached end of pattern prematurely"
  | .escapeUnknown => "unrecognized escape sequence"
  | .flagDangling => "dangling flag negation operator"
  | .flagTwice => "duplicate flag"
  | .flagNegatedTwice => "flag negation operator repeated"
  | .flagEnd => "expected flag but got end of regex"
  | .flagUnknown => "unrecognized flag"
  | .nameTwice => "duplicate capture group name"
  | .nameEmpty => "empty capture group name"
  | .nameCharacter => "invalid capture group character"
  | .nameUnclosed => "unclosed capture group name"
  | .tooManyGroups => "exceeded the maximum number of capturing groups (" ++
      toString maxGroups ++ ")"
  | .groupUnclosed => "unclosed group"
  | .groupUnopened => "unopened group"
  | .tooDeep => "exceed the maximum number of nested parentheses/brackets (" ++
      toString maxHeight ++ ")"
  | .countRange => "invalid repetition count range, the start must be <= the end"
  | .countEmpty => "repetition quantifier expects a valid decimal"
  | .countUnclosed => "unclosed counted repetition"
  | .nothingToRepeat => "repetition operator missing expression"
  | .boundaryUnclosed =>
    "special word boundary assertion is either unclosed or contains an invalid character"
  | .boundaryUnknown => "unrecognized special word boundary assertion, " ++
      "valid choices are: start, end, start-half or end-half"
  | .boundaryEnd => "found either the beginning of a special word boundary or a bounded " ++
      "repetition on a \\b with an opening brace, but no closing brace"
  | .property => "invalid Unicode character class"
  | .propertyUnknown => "Unicode property not found"
  | .propertyValueUnknown => "Unicode property value not found"
  | .backreference => "backreferences are not supported"
  | .lookAround => "look-around, including look-ahead and look-behind, is not supported"
  | .notUtf8 => "pattern can match invalid UTF-8"
  | .unicodeOff => "Unicode not allowed here"
  | .tooLarge limit => "Compiled regex exceeds size limit of " ++ toString limit ++ " bytes."

/-- A fault as it is reported; only the size of an expression is no fault of its text. -/
def Error.message : Error → String
  | .tooLarge limit => (Error.tooLarge limit).description
  | fault => "error: " ++ fault.description

end CommandTemplate.Regex
