import Std.Data.HashMap
import CommandTemplate.Regex.Layout

/-!
The memory that a program over bytes takes.

Each state takes 32 bytes; a state with ranges takes 8 more for each range, and a state that
branches 4 more for each branch.  `Layout.build` counts the states of a program from its
beginning, or from its end for a program that searches backward.  `Expr.isTooLarge` tells
whether one of the two programs of an expression is larger than `Expr.sizeLimit` allows.

States of networks are shared: a new state is the same as an earlier one that leads to the
same states.  The tables in which they are looked up have a fixed number of places, and a
state whose place is taken drives out the earlier one, so what is shared hangs on the numbers
of the states.
-/

namespace CommandTemplate.Regex

open Text (ByteRange)

/-- The states so far, and the bytes that they take beyond 32 each. -/
structure Footprint where
  states : Nat
  extra : Nat
  deriving Repr

/-- The bytes of a program. -/
def Footprint.bytes (f : Footprint) : Nat :=
  32 * f.states + f.extra

/-- The bytes that a program may take. -/
def Expr.sizeLimit : Nat := 10485760

/-- Counts the states of a program. -/
abbrev Counter := StateM Footprint

namespace Counter

/-- Adds a state and gives its number. -/
def state (extra : Nat) : Counter Nat :=
  modifyGet fun f => (f.states, ⟨f.states + 1, f.extra + extra⟩)

/-- Adds several states without anything beyond. -/
def plain (count : Nat) : Counter Unit :=
  modify fun f => { f with states := f.states + count }

/-- Leads on from an end, which takes a branch where the end is a branching state. -/
def link (branching : Bool) : Counter Unit :=
  modify fun f => if branching then { f with extra := f.extra + 4 } else f

/-- A number between 0 and `places` that mixes some numbers. -/
def place (places : UInt64) (numbers : List Nat) : UInt64 :=
  (numbers.foldl (fun h n => (h ^^^ n.toUInt64) * 1099511628211) 14695981039346656037) % places

/-! ### Networks -/

/-- A way from a state: a range of bytes and the state that it leads to. -/
structure Arc where
  range : ByteRange
  next : Nat
  deriving DecidableEq

/-- The numbers that stand for an arc. -/
def Arc.numbers (arc : Arc) : List Nat :=
  [arc.range.low, arc.range.high, arc.next]

/-- A state that is still open: its arcs, the last one first, and the range whose arc is not
known yet. -/
structure OpenState where
  arcs : List Arc
  last : Option ByteRange

/-- An open state whose last range leads to `next`. -/
def OpenState.close (s : OpenState) (next : Nat) : OpenState :=
  ⟨(s.last.map (⟨·, next⟩)).toList ++ s.arcs, none⟩

/-- Finished states by their places, with the arcs of each. -/
abbrev ArcTable := Std.HashMap UInt64 (List Arc × Nat)

/-- Counts the states of one network. -/
abbrev NetworkCounter := StateT ArcTable Counter

/-- The state with some arcs: one in the table, or else a new one. -/
def finished (arcs : List Arc) : NetworkCounter Nat := do
  let place := place 10000 (arcs.flatMap Arc.numbers)
  match (← get)[place]? with
  | some (others, number) => if others = arcs then return number
  | none => pure ()
  let number ← state (8 * arcs.length)
  modify (·.insert place (arcs, number))
  return number

/-- Finishes open states, each of which leads to the one behind it; gives the first of them. -/
def finishAll (target : Nat) : List OpenState → NetworkCounter Nat
  | [] => return target
  | s :: rest => do finished (s.close (← finishAll target rest)).arcs.reverse

/-- Adds a sequence to the open states, of which it shares as many as it can. -/
def addSequence (target : Nat) : List ByteRange → List OpenState → NetworkCounter (List OpenState)
  | range :: ranges, s :: rest => do
    if s.last = some range then return s :: (← addSequence target ranges rest)
    let s := s.close (← finishAll target rest)
    return { s with last := some range } :: ranges.map fun range => ⟨[], some range⟩
  | ranges, _ => return ranges.map fun range => ⟨[], some range⟩

/-- Counts a network. -/
def network (sequences : List (List ByteRange)) : Counter Unit := do
  let target ← state 0
  let count : NetworkCounter Nat := do
    finishAll target (← sequences.foldlM (fun states ranges => addSequence target ranges states)
      [⟨[], none⟩])
  discard <| count.run ∅

/-- The states of a network that searches backward, by their places; each is known by the
range that it takes and the state that it leads to. -/
abbrev SuffixTable := Std.HashMap UInt64 (Arc × Nat)

/-- The state in front of another one that takes a range: one in the table, or else a new one. -/
def stepBack (next : Nat) (range : ByteRange) : StateT SuffixTable Counter Nat := do
  let arc : Arc := ⟨range, next⟩
  let place := place 1000 [next, range.low, range.high]
  match (← get)[place]? with
  | some (other, number) => if other = arc then return number
  | none => pure ()
  let number ← state 0
  modify (·.insert place (arc, number))
  return number

/-- Counts a network that searches backward. -/
def backwardNetwork (sequences : List (List ByteRange)) : Counter Unit := do
  discard <| state (4 * sequences.length)
  let target ← state 0
  let count : StateT SuffixTable Counter Unit := do
    for ranges in sequences do
      discard <| ranges.foldlM stepBack target
  discard <| count.run ∅

/-! ### Trees of words -/

/-- The groups of words that begin with the same byte, without this byte. -/
def byFirst (words : List (List Nat)) : List (List (List Nat)) :=
  (words.filterMap List.head?).eraseDups.map fun byte =>
    words.filterMap fun word => if word.head? = some byte then some word.tail else none

/-- Counts the states of a tree.  At a node the words that end there cut the others into
groups, and each group has a state with a range for each way on. -/
def tree : Nat → List (List Nat) → Counter Unit
  | 0, _ => return
  | depth + 1, words => do
    let words := if words.head? = some [] then [] :: words.dropWhile (· = []) else words
    let groups := (words.splitOnP (· = [])).map byFirst
    for group in groups do
      for words in group do
        if words.any (· ≠ []) then tree depth words
      if group.length = 1 then plain 1
      else if group ≠ [] then discard <| state (8 * group.length)
    discard <| state (4 * ((groups.filter (· ≠ [])).length + (groups.length - 1)))

/-! ### Repetitions -/

/-- Counts a part a number of times, one behind the other; `branching` tells about the end of
what is in front.  Nothing more is counted once the limit is passed. -/
def repeated (part : Counter Bool) : Nat → Bool → Counter Bool
  | 0, branching => return branching
  | n + 1, branching => do
    if Expr.sizeLimit < (← get).bytes then return branching
    let next ← part
    link branching
    repeated part n next

/-- Counts a part exactly `n` times. -/
def exactly (part : Counter Bool) : Nat → Counter Bool
  | 0 => do
    plain 1
    return false
  | n + 1 => do repeated part n (← part)

/-- Counts a loop around a part. -/
def loop (part : Counter Bool) (low : Nat) (high : Option Nat) (neverEmpty : Bool) :
    Counter Bool := do
  match low, high with
  | 0, some 1 =>
    discard <| state 8
    let branching ← part
    plain 1
    link branching
    return false
  | low, some high =>
    let branching ← exactly part low
    if high ≤ low then return branching
    plain 1
    let optional : Counter Bool := do
      discard <| state 8
      part
    link (← repeated optional (high - low) branching)
    return false
  | 0, none =>
    if neverEmpty then
      discard <| state 4
      link (← part)
      return true
    else
      link (← part)
      discard <| state 8
      discard <| state 8
      plain 1
      return false
  | low + 1, none =>
    let branching ← repeated part low (← part)
    link branching
    discard <| state 4
    return true

end Counter

open Counter

/-- Counts the states of a layout; tells whether the last one is a branching state. -/
def Layout.build (backward : Bool) : Layout → Counter Bool
  | .point => do
    plain 1
    return false
  | .bytes word => do
    plain word.length
    return false
  | .sparse ranges => do
    plain 1
    discard <| state (8 * ranges)
    return false
  | .network sequences => do
    if backward then backwardNetwork sequences else Counter.network sequences
    return false
  | .tree words => do
    plain 1
    let words := if backward then words.map List.reverse else words
    Counter.tree (words.foldl (fun n word => max n word.length) 0) words
    return false
  | .chain a b => do
    if backward then
      let branching ← b.build backward
      let last ← a.build backward
      link branching
      return last
    else
      let branching ← a.build backward
      let last ← b.build backward
      link branching
      return last
  | .fork a b => do
    let first ← a.build backward
    let second ← b.build backward
    discard <| state 8
    plain 1
    link first
    link second
    return false
  | .branch others last => do
    discard <| others.build backward
    let branching ← last.build backward
    link true
    link branching
    return false
  | .loop low high neverEmpty body => Counter.loop (body.build backward) low high neverEmpty
  | .capture body => do
    if backward then body.build backward
    else
      plain 1
      let branching ← body.build backward
      plain 1
      link branching
      return false

namespace Expr

/-- Counts what stands in front of a program: a loop over any bytes, unless the expression
matches only at the end of the text where the search begins. -/
def countPrefix (anchored : Bool) : Counter Unit := do
  if anchored then plain 1
  else
    discard <| state 8
    plain 1
    discard <| state 8

/-- The states of a program for an expression. -/
def footprint (backward : Bool) (e : Expr) : Footprint :=
  let count : Counter Unit := do
    countPrefix (if backward then e.endsAnchored else e.startsAnchored)
    link (← (if backward then e.layout else .capture e.layout).build backward)
    plain 1
  (count.run ⟨0, 0⟩).2

/-- Is a program for the expression larger than allowed? -/
def isTooLarge (e : Expr) : Bool :=
  sizeLimit < (e.footprint false).bytes || sizeLimit < (e.footprint true).bytes

end Expr

end CommandTemplate.Regex
