import CommandTemplate.Regex.Expression

/-!
Programs that match regular expressions.

A `Program` is a graph of nodes: each takes one character, tests a place, records a
position, or branches, and then leads on.  Of two branches the first one is preferred.
`Program.ofExpr` builds the nodes from the end of the expression to its front, so the node
that follows is always known.
-/

namespace CommandTemplate.Regex

open Text (CodeSet)

/-- A step of a program; `next` is the index of the node that follows. -/
inductive Node where
  | one (members : CodeSet) (next : Nat)
  | look (look : Look) (next : Nat)
  | split (first second : Nat)
  | save (slot : Nat) (next : Nat)
  | accept
  deriving Inhabited

/-- The nodes built so far. -/
abbrev Builder := StateM (Array Node)

namespace Builder

/-- Adds a node and gives its index. -/
def add (node : Node) : Builder Nat :=
  modifyGet fun nodes => (nodes.size, nodes.push node)

/-- Puts a node in the place of another one. -/
def put (index : Nat) (node : Node) : Builder Unit :=
  modify fun nodes => nodes.setIfInBounds index node

/-- A branch into the body of a repetition or past it. -/
def choice (greedy : Bool) (body past : Nat) : Node :=
  if greedy then .split body past else .split past body

/-- Applies a step to an index, a number of times. -/
def times (build : Nat → Builder Nat) : Nat → Nat → Builder Nat
  | 0, next => return next
  | n + 1, next => do times build n (← build next)

/-- Nodes that repeat a body and then lead on. -/
def loop (build : Nat → Builder Nat) (low : Nat) (high : Option Nat) (greedy mayBeEmpty : Bool)
    (next : Nat) : Builder Nat := do
  match high with
  | some high =>
    let optional := fun n => do add (choice greedy (← build n) next)
    times build low (← times optional (high - low) next)
  | none =>
    let branch ← add .accept
    let body ← build branch
    put branch (choice greedy body next)
    if low = 0 then
      if mayBeEmpty then add (choice greedy body next) else return branch
    else times build (low - 1) body

end Builder

open Builder

/-- Adds the nodes of an expression that leads on to `next`; gives the first of them. -/
def Expr.build : Expr → Nat → Builder Nat
  | .empty, next => return next
  | .one members, next => add (.one members next)
  | .look place, next => add (.look place next)
  | .cat a b, next => do a.build (← b.build next)
  | .alt a b, next => do
    let second ← b.build next
    let first ← a.build next
    add (.split first second)
  | .loop low high greedy body, next =>
    Builder.loop body.build low high greedy (!body.neverEmpty) next
  | .capture index _ body, next => do
    let stop ← add (.save (2 * index + 1) next)
    add (.save (2 * index) (← body.build stop))

/-- The nodes of an expression and the first of them. -/
structure Program where
  nodes : Array Node
  start : Nat

/-- The program of an expression, which records where the whole match lies as group 0. -/
def Program.ofExpr (e : Expr) : Program :=
  let build : Builder Nat := do
    let last ← add .accept
    (Expr.capture 0 none e).build last
  let (start, nodes) := build.run #[]
  ⟨nodes, start⟩

end CommandTemplate.Regex
