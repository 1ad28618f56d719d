import CommandTemplate.Parameters

/-!
Evaluations.

An `Evaluation` yields a value or halts.  It is `aborted` where a value that is required is
missing, and `exhausted` where commands evaluate one another more deeply than a limit allows.
On the way it makes queries to services and draws numbers, of which its `Trace` keeps account.
-/

namespace CommandTemplate

/-- Why an evaluation yields no value. -/
inductive Halt where
  | aborted
  | exhausted
  deriving Repr, DecidableEq

/-- What an evaluation did so far. -/
structure Trace where
  /-- The queries to services, the first one first. -/
  queries : List Query := []
  /-- The number of random choices. -/
  draws : Nat := 0
  deriving Repr, DecidableEq

/-- A value that is found with the help of services, if it is. -/
abbrev Evaluation := ExceptT Halt (StateM Trace)

/-- A way to find a text from parameters. -/
abbrev Evaluator := Parameters → Evaluation String

namespace Evaluation

def abort {α : Type} : Evaluation α :=
  throw .aborted

/-- A value, if there is one. -/
def ofOption {α : Type} : Option α → Evaluation α
  | some a => pure a
  | none => abort

/-- Takes down a query and finds the answer to it, which may depend on earlier ones. -/
def ask {α : Type} (query : Query) (answer : List Query → α) : Evaluation α := do
  let trace ← getThe Trace
  set { trace with queries := trace.queries ++ [query] }
  return answer trace.queries

/-- The next number for a random choice. -/
def draw (chance : Nat → Nat) : Evaluation Nat := do
  let trace ← getThe Trace
  set { trace with draws := trace.draws + 1 }
  return chance trace.draws

/-- A text, or the empty one where the evaluation is aborted. -/
def orEmpty (x : Evaluation String) : Evaluation String :=
  tryCatch x fun
    | .aborted => pure ""
    | .exhausted => throw .exhausted

/-- A text, which must not be empty if it is required. -/
def demand (required : Bool) (text : String) : Evaluation String :=
  if required && text.isEmpty then abort else pure text

/-- What an evaluation from the start yields, with its trace. -/
def run {α : Type} (x : Evaluation α) : Except Halt α × Trace :=
  StateT.run (ExceptT.run x) {}

end Evaluation

end CommandTemplate
