import CommandTemplate.Template.Item
import CommandTemplate.Text.Names
import CommandTemplate.Text.Pieces

/-!
The identifiers of a template.

`Template.identifiers` are the names of all parameters that a template mentions.
`Template.requiredIdentifiers` are those without whose values it yields nothing.
-/

namespace CommandTemplate

mutual

/-- The names of the parameters in an item. -/
def Item.names : Item → List String
  | .literal _ | .argument _ _ => []
  | .identifier name => [name]
  | .replacement item _ => item.names
  | .escaped item => item.names
  | .group items => Item.namesOfItems items
  | .call _ arguments _ => Item.namesOfArguments arguments

def Item.namesOfItems : List Item → List String
  | [] => []
  | item :: items => item.names ++ Item.namesOfItems items

def Item.namesOfArguments : List (List Item) → List String
  | [] => []
  | first :: others => Item.namesOfItems first ++ Item.namesOfArguments others

end

/-- The names in those arguments of a call that its required flag concerns, of which the
first one stands at `place`. -/
def Item.checkedNames (builtin : Builtin) (count : Nat) : Nat → List Template → List String
  | _, [] => []
  | place, first :: others =>
    (if builtin.checks count place then Item.namesOfItems first else [])
      ++ Item.checkedNames builtin count (place + 1) others

mutual

/-- The names of the parameters that an item requires. -/
def Item.requiredNames : Item → List String
  | .literal _ | .argument _ _ | .identifier _ => []
  | .replacement item required => (if required then item.names else []) ++ item.requiredNames
  | .escaped item => item.requiredNames
  | .group items => Item.requiredNamesOfItems items
  | .call builtin arguments required =>
    (if required then Item.checkedNames builtin arguments.length 0 arguments else [])
      ++ Item.requiredNamesOfArguments arguments

def Item.requiredNamesOfItems : List Item → List String
  | [] => []
  | item :: items => item.requiredNames ++ Item.requiredNamesOfItems items

def Item.requiredNamesOfArguments : List (List Item) → List String
  | [] => []
  | first :: others =>
    Item.requiredNamesOfItems first ++ Item.requiredNamesOfArguments others

end

namespace Template

/-- The names of the parameters in a template that start with a text. -/
def identifiersStarting (front : String) (t : Template) : List String :=
  Text.ascending ((Item.namesOfItems t).filter (Text.startsWith front))

/-- The names of the parameters in a template. -/
def identifiers (t : Template) : List String :=
  t.identifiersStarting ""

/-- The names of the parameters that a template requires. -/
def requiredIdentifiers (t : Template) : List String :=
  Text.ascending (Item.requiredNamesOfItems t)

end Template

end CommandTemplate
