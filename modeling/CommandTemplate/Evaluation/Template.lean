import CommandTemplate.Evaluation.Builtin

/-!
Evaluating templates.

The text of a template is that of its items, one after the other.  Where one of them yields
none, neither does the template.  A template may have commands evaluated, and these others
again; `Template.evaluate` has a limit for how deeply they do.
-/

namespace CommandTemplate

open Evaluation

mutual

/-- The text of an item. -/
def Item.evaluate (callCommand : Template → Evaluator) : Item → Evaluator
  | .literal text, _ => pure text
  | .identifier name, p => ofOption (p.get? name)
  | .argument index toEnd, p => ofOption (p.argument? (index - 1) toEnd)
  | .replacement item required, p => orEmpty (item.evaluate callCommand p) >>= demand required
  | .escaped item, p => p.context.escapes.apply <$> item.evaluate callCommand p
  | .group items, p => Item.evaluateAll callCommand items p
  | .call builtin arguments required, p =>
    builtin.evaluate callCommand required (Item.evaluators callCommand arguments) p

/-- The text of items that follow one another. -/
def Item.evaluateAll (callCommand : Template → Evaluator) : List Item → Evaluator
  | [], _ => pure ""
  | item :: items, p => do
    let text ← item.evaluate callCommand p
    return text ++ (← Item.evaluateAll callCommand items p)

/-- The evaluators of arguments. -/
def Item.evaluators (callCommand : Template → Evaluator) : List (List Item) → List Evaluator
  | [] => []
  | first :: others =>
    Item.evaluateAll callCommand first :: Item.evaluators callCommand others

end

namespace Template

/-- The text of a template, in which commands are evaluated inside one another up to `depth`
times. -/
def evaluate : Nat → Template → Evaluator
  | 0 => Item.evaluateAll fun _ _ => throw .exhausted
  | depth + 1 => Item.evaluateAll (evaluate depth)

/-- How deeply commands are evaluated inside one another where nothing else is said.  Only those
come so far that evaluate one another without end. -/
def maxCommandDepth : Nat := 0x100000000

/-- The text of a template, if it yields one, and the queries that were made. -/
def run (t : Template) (p : Parameters) : Option String × List Query :=
  let (result, trace) := (t.evaluate maxCommandDepth p).run
  (result.toOption, trace.queries)

end Template

end CommandTemplate
