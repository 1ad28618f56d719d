import CommandTemplate.Regex.Syntax

/-!
What can be wrong with a template, and where.

`ParseError.render` shows a template with a mark under the place of its fault.
-/

namespace CommandTemplate

/-- How deep specials may lie in one another. -/
def maxNesting : Nat := 64

/-- What can be wrong with a template or a path in it. -/
inductive ParseFault where
  /-- Another character stands where `c` belongs. -/
  | expected (c : Char)
  | expectedIdentifier
  /-- The number of an argument is zero or too large. -/
  | invalidIndex (digits : String)
  | unknownFunction (name : String)
  | tooDeep
  | duplicateCase
  | noCase
  | invalidPattern (fault : Regex.Error)
  deriving Repr, DecidableEq

namespace ParseFault

/-- The wording of a fault. -/
def message : ParseFault → String
  | .expected c => "Expected '" ++ c.toString ++ "'"
  | .expectedIdentifier => "Expected identifier"
  | .invalidIndex digits => "Invalid numeric identifier " ++ digits
  | .unknownFunction name => "Invalid function '" ++ name ++ "'"
  | .tooDeep => "Nested deeper than " ++ toString maxNesting ++ " levels"
  | .duplicateCase => "Duplicate case"
  | .noCase => "Expected at least one case"
  | .invalidPattern fault => "Invalid regex (" ++ fault.message ++ ")"

end ParseFault

/-- A fault at a position of a template. -/
structure ParseError where
  fault : ParseFault
  offset : Nat
  deriving Repr, DecidableEq

namespace ParseError

/-- A text with a message under one of its characters, or under its end. -/
def pointAt (message : String) (offset : Nat) (text : String) : String :=
  text ++ "\n" ++ String.ofList (List.replicate (min offset text.length) ' ') ++ "^ " ++ message

def message (e : ParseError) : String :=
  e.fault.message

/-- The message together with its position. -/
def description (e : ParseError) : String :=
  e.message ++ " at position " ++ toString e.offset

/-- The template with the message under the place of the fault. -/
def render (e : ParseError) (text : String) : String :=
  pointAt e.message e.offset text

end ParseError

end CommandTemplate
