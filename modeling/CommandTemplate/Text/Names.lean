/-!
Sets of names, as ascending lists without repetitions.
-/

namespace CommandTemplate.Text

/-- Adds a name to an ascending list of names. -/
def insertName (name : String) : List String → List String
  | [] => [name]
  | other :: names =>
    if name < other then name :: other :: names
    else if name = other then other :: names
    else other :: insertName name names

/-- The names of a list in ascending order, each of them once. -/
def ascending (names : List String) : List String :=
  names.foldr insertName []

end CommandTemplate.Text
