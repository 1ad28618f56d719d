import CommandTemplate.Regex.Parser
import CommandTemplate.Regex.Footprint
import CommandTemplate.Regex.Program

/-!
Finding the matches of a regular expression in a text.

A search keeps one thread for each node that can be reached, in the order of preference, and
moves all of them over the text together.  Of the matches that begin first it finds the one
that a search trying one branch after the other would find first.

`Regex.segments` cuts a text at its matches.  A match without characters is not taken
directly after another match.
-/

namespace CommandTemplate

namespace Regex

/-! ### Places -/

/-- Is the character part of a word? -/
def isWordChar (unicode : Bool) (c : Option Char) : Bool :=
  match c with
  | none => false
  | some c => if unicode then Text.Property.word.has c else c.isAlphanum || c = '_'

/-- Is the place between two characters the one that is looked for? -/
def Look.holds (before after : Option Char) : Look → Bool
  | .textStart => before.isNone
  | .textEnd => after.isNone
  | .lineStart false => before.isNone || before = some '\n'
  | .lineStart true =>
    before.isNone || before = some '\n' || (before = some '\r' && after ≠ some '\n')
  | .lineEnd false => after.isNone || after = some '\n'
  | .lineEnd true =>
    after.isNone || after = some '\r' || (after = some '\n' && before ≠ some '\r')
  | .word u => isWordChar u before != isWordChar u after
  | .notWord u => isWordChar u before == isWordChar u after
  | .wordStart u => !isWordChar u before && isWordChar u after
  | .wordEnd u => isWordChar u before && !isWordChar u after
  | .wordStartHalf u => !isWordChar u before
  | .wordEndHalf u => !isWordChar u after

/-! ### Threads -/

/-- The positions that a thread has recorded. -/
abbrev Slots := Array (Option Nat)

/-- A node to go on from, with the positions recorded on the way to it. -/
structure Thread where
  node : Nat
  slots : Slots

/-- The threads at one position, the least preferred one first, and the nodes that have been
reached. -/
structure Front where
  threads : List Thread
  reached : Array Bool

/-- Follows the threads on a stack to the nodes that take a character or accept.  A node is
followed only once, which bounds the number of steps. -/
def explore (program : Program) (before after : Option Char) (position : Nat) :
    Nat → List Thread → Front → Front
  | 0, _, front => front
  | _, [], front => front
  | fuel + 1, thread :: stack, front =>
    if front.reached.getD thread.node true then
      explore program before after position fuel stack front
    else
      let front := { front with reached := front.reached.setIfInBounds thread.node true }
      let go (stack : List Thread) (front : Front) :=
        explore program before after position fuel stack front
      match program.nodes[thread.node]? with
      | none => go stack front
      | some (.look place next) =>
        go (if place.holds before after then { thread with node := next } :: stack else stack) front
      | some (.split first second) =>
        go ({ thread with node := first } :: { thread with node := second } :: stack) front
      | some (.save slot next) =>
        go (⟨next, thread.slots.setIfInBounds slot (some position)⟩ :: stack) front
      | some (.one _ _) | some .accept =>
        go stack { front with threads := thread :: front.threads }

/-- The threads that a thread leads to at a position. -/
def follow (program : Program) (before after : Option Char) (position : Nat)
    (thread : Thread) (front : Front) : Front :=
  explore program before after position (2 * program.nodes.size + 2) [thread] front

/-- Moves threads, the most preferred one first, over a character `c`.  A thread that accepts
ends the less preferred ones. -/
def advance (program : Program) (c after : Option Char) (position : Nat) :
    List Thread → Front → Option Slots × Front
  | [], front => (none, front)
  | thread :: threads, front =>
    match program.nodes[thread.node]? with
    | some .accept => (some thread.slots, front)
    | some (.one members next) =>
      let moves := match c with
        | some c => members.has c
        | none => false
      advance program c after position threads <|
        if moves then follow program c after (position + 1) { thread with node := next } front
        else front
    | _ => advance program c after position threads front

/-- No threads, and no nodes reached. -/
def Front.empty (program : Program) : Front :=
  ⟨[], Array.replicate program.nodes.size false⟩

/-- The positions of the preferred match in the rest of a text.  As long as none is found, a
new thread begins at each position. -/
def searchFrom (program : Program) (fresh : Slots) (before : Option Char) (position : Nat)
    (front : Front) (found : Option Slots) (rest : List Char) : Option Slots :=
  let front := match found with
    | none => follow program before rest.head? position ⟨program.start, fresh⟩ front
    | some _ => front
  let (accepted, next) :=
    advance program rest.head? rest.tail.head? position front.threads.reverse (.empty program)
  let found := accepted <|> found
  match rest with
  | [] => found
  | c :: rest =>
    if found.isSome ∧ next.threads.isEmpty then found
    else searchFrom program fresh (some c) (position + 1) next found rest

/-! ### Matches -/

end Regex

/-- A regular expression that can be searched for. -/
structure Regex where
  source : String
  program : Regex.Program
  /-- The number of the capture groups. -/
  groups : Nat
  names : List (String × Nat)

namespace Regex

/-- The regular expression that a text writes, or what is wrong with it. -/
def compile (source : String) : Except Error Regex := do
  let e ← (← Ast.parse source).toExpr
  if e.isTooLarge then throw (.tooLarge Expr.sizeLimit)
  return ⟨source, .ofExpr e, e.lastGroup, e.groupNames⟩

/-- Where a match lies in the rest of a text, and the texts of its groups. -/
structure Match where
  start : Nat
  stop : Nat
  groups : List (Option (List Char))
  deriving Repr

/-- The characters of a text between two positions. -/
def slice (s : List Char) (start stop : Nat) : List Char :=
  (s.drop start).take (stop - start)

/-- The part of a text between two recorded positions. -/
def recorded (s : List Char) (slots : Slots) (group : Nat) : Option (List Char) := do
  return slice s (← slots.getD (2 * group) none) (← slots.getD (2 * group + 1) none)

/-- The first match in the rest of a text. -/
def find? (r : Regex) (before : Option Char) (rest : List Char) : Option Match := do
  let fresh := Array.replicate (2 * (r.groups + 1)) none
  let slots ← searchFrom r.program fresh before 0 (.empty r.program) none rest
  let start ← slots.getD 0 none
  let stop ← slots.getD 1 none
  return ⟨start, stop, (List.range r.groups).map fun group => recorded rest slots (group + 1)⟩

/-- Does a match lie in the text? -/
def isMatch (r : Regex) (text : String) : Bool :=
  (r.find? none text.toList).isSome

/-- A match moved by one position. -/
def Match.shift (m : Match) : Match :=
  { m with start := m.start + 1, stop := m.stop + 1 }

/-- The first match after another match, which must not be empty where the other one ends. -/
def findAfter? (r : Regex) (before : Option Char) (rest : List Char) : Option Match :=
  match r.find? before rest, rest with
  | some ⟨0, 0, _⟩, [] => none
  | some ⟨0, 0, _⟩, c :: rest => (r.find? (some c) rest).map Match.shift
  | found, _ => found

/-- A match with the text since the last one. -/
structure Segment where
  before : List Char
  whole : List Char
  groups : List (Option (List Char))
  deriving Repr, DecidableEq

/-- The segment up to the end of a match in the rest of a text. -/
def Match.segment (m : Match) (rest : List Char) : Segment :=
  ⟨rest.take m.start, slice rest m.start m.stop, m.groups⟩

/-- The last character of a text, or else the one before it. -/
def lastOf (before : Option Char) (s : List Char) : Option Char :=
  s.getLast?.or before

/-- The matches in the rest of a text after another match, and what follows the last one. -/
def segmentsAfter (r : Regex) (before : Option Char) (rest : List Char) :
    List Segment × List Char :=
  match r.findAfter? before rest with
  | none => ([], rest)
  | some m =>
    let left := (rest.drop m.start).drop (m.stop - m.start)
    if _ : left.length < rest.length then
      let (segments, tail) :=
        segmentsAfter r (lastOf before (rest.take m.stop)) left
      (m.segment rest :: segments, tail)
    else ([], rest)
termination_by rest.length
decreasing_by assumption

/-- The matches in a text, and what follows the last one. -/
def segments (r : Regex) (text : List Char) : List Segment × List Char :=
  match r.find? none text with
  | none => ([], text)
  | some m =>
    let (segments, tail) := r.segmentsAfter (lastOf none (text.take m.stop))
      ((text.drop m.start).drop (m.stop - m.start))
    (m.segment text :: segments, tail)

end Regex

end CommandTemplate
