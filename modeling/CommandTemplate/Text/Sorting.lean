import CommandTemplate.Text.Casing
import CommandTemplate.Text.Pieces

/-!
Sorting the pieces of a text.

`sortPieces` cuts a text at a separator, sorts the pieces and puts them together again.  Pieces
are compared by their characters, in lower case if the order ignores case; those that
compare equal stay in their order.
-/

namespace CommandTemplate.Text

/-- An order of pieces. -/
inductive PieceOrder where
  | ignoringCase
  | exact
  /-- The order in which they stand. -/
  | asGiven
  deriving Repr, DecidableEq

namespace PieceOrder

/-- The order with a name; no name stands for the one that ignores case. -/
def ofName (name : String) : PieceOrder :=
  if name = "" || name = "abc" then .ignoringCase
  else if name = "Abc" then .exact
  else .asGiven

/-- The pieces in an order. -/
def sort (pieces : List String) : PieceOrder → List String
  | .ignoringCase => pieces.mergeSort fun a b => !decide (lower b < lower a)
  | .exact => pieces.mergeSort fun a b => !decide (b < a)
  | .asGiven => pieces

end PieceOrder

/-- A text with the pieces at a separator in another order. -/
def sortPieces (order : PieceOrder) (separator s : String) : String :=
  String.intercalate separator (order.sort (splitOn separator s))

end CommandTemplate.Text
