import CommandTemplate.Regex.Expression
import CommandTemplate.Text.ByteRange

/-!
How the states of a program over bytes are laid out.

A program that searches in bytes has a state for each byte of a literal, one state for a set
of ASCII characters, and a small network of states for any other set.  `Expr.layout` finds
these parts in an expression: adjacent characters become one literal, and branches that are
all literals become one tree of words.
-/

namespace CommandTemplate.Regex

open Text (ByteRange)

/-- The parts of a program over bytes. -/
inductive Layout where
  /-- One state that takes no byte. -/
  | point
  /-- A literal. -/
  | bytes (word : List Nat)
  /-- A state with some ranges of single bytes. -/
  | sparse (ranges : Nat)
  /-- A network of states for some sequences of ranges. -/
  | network (sequences : List (List ByteRange))
  /-- A tree of words. -/
  | tree (words : List (List Nat))
  | chain (first second : Layout)
  /-- Two branches. -/
  | fork (first second : Layout)
  /-- Branches and one more of them. -/
  | branch (others last : Layout)
  | loop (low : Nat) (high : Option Nat) (neverEmpty : Bool) (body : Layout)
  | capture (body : Layout)
  deriving Inhabited

namespace Layout

/-- The layout of a set of characters. -/
def ofSet (members : Text.CodeSet) : Layout :=
  match members.ranges with
  | [] => .sparse 0
  | [(low, high)] =>
    if low = high then .bytes (ByteRange.encode low)
    else if high < 128 then .sparse 1
    else .network members.sequences
  | ranges => if members.isAscii then .sparse ranges.length else .network members.sequences

/-- One layout behind another; literals that meet are joined. -/
def join : Layout → Layout → Layout
  | .bytes v, .bytes w => .bytes (v ++ w)
  | .bytes v, .chain (.bytes w) rest => .chain (.bytes (v ++ w)) rest
  | first, second => .chain first second

/-- The word of a literal. -/
def word? : Layout → Option (List Nat)
  | .bytes word => some word
  | _ => none

/-- The layout of branches. -/
def ofBranches : List Layout → Layout
  | [] => .point
  | [only] => only
  | first :: second :: rest =>
    match (first :: second :: rest).mapM word? with
    | some words => .tree words
    | none => rest.foldl .branch (.fork first second)

end Layout

/-- The layouts of the branches of an expression. -/
def Expr.layouts : Expr → List Layout
  | .empty | .look _ => [.point]
  | .one members => [.ofSet members]
  | .cat a b => [.join (.ofBranches a.layouts) (.ofBranches b.layouts)]
  | .alt a b => .ofBranches a.layouts :: b.layouts
  | .loop low high _ body =>
    [.loop low high (body.minLength.any (0 < ·)) (.ofBranches body.layouts)]
  | .capture _ _ body => [.capture (.ofBranches body.layouts)]

/-- The layout of an expression. -/
def Expr.layout (e : Expr) : Layout :=
  .ofBranches e.layouts

end CommandTemplate.Regex
