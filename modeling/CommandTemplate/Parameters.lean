import CommandTemplate.Context

/-!
The values that a template is evaluated with.

`Parameters` hold texts by name, the arguments of the command and the JSON value that look-ups
start from.  Names are taken in lower case.  The parameter `args` is the text of the arguments:
giving it a value also gives the arguments, which are the pieces of the value between its
spaces.
-/

namespace CommandTemplate

structure Parameters where
  /-- Values by their names in lower case, the latest first. -/
  values : List (String × String) := []
  arguments : List String := []
  document : Option Json := none
  context : Context := {}

namespace Parameters

/-- The parameter with the text of the arguments. -/
def argumentsName : String := "args"

/-- The pieces of a text between its spaces, without empty ones at the end. -/
def splitArguments (text : String) : List String :=
  Text.dropEndWhile String.isEmpty (Text.splitOn " " text)

/-- The value of a parameter. -/
def get? (p : Parameters) (name : String) : Option String :=
  p.values.lookup (Text.lower name)

/-- Does the parameter have a value? -/
def contains (p : Parameters) (name : String) : Bool :=
  (p.get? name).isSome

/-- What the parameters hold besides their context. -/
def bindings (p : Parameters) : Bindings where
  value? := p.get?
  arguments := p.arguments
  document := p.document

/-- Gives a value to a parameter. -/
def put (p : Parameters) (name value : String) : Parameters :=
  let name := Text.lower name
  { p with
    values := (name, value) :: p.values
    arguments := if name = argumentsName then splitArguments value else p.arguments }

/-- Gives a value to a parameter that has none. -/
def putIfAbsent (p : Parameters) (name value : String) : Parameters :=
  if p.contains name then p else p.put name value

/-- Gives values to parameters, one after the other. -/
def putAll (p : Parameters) (values : List (String × String)) : Parameters :=
  values.foldl (fun p (name, value) => p.put name value) p

/-- Parameters with arguments only. -/
def ofArguments (text : String) : Parameters :=
  put {} argumentsName text

/-- The argument at an index from 0, or all from there on with spaces between them. -/
def argument? (p : Parameters) (index : Nat) (toEnd : Bool) : Option String :=
  if toEnd then
    match p.arguments.drop index with
    | [] => none
    | rest => some (String.intercalate " " rest)
  else p.arguments[index]?

/-- The same values in another context. -/
def withContext (p : Parameters) (context : Context) : Parameters :=
  { p with context }

/-- The same values with other separators to be doubled. -/
def withEscapes (p : Parameters) (escapes : Escapes) : Parameters :=
  { p with context := { p.context with escapes } }

/-- The same values with another JSON value. -/
def withDocument (p : Parameters) (document : Json) : Parameters :=
  { p with document := some document }

/-- The names `g1`, `g2` and so on with the texts of groups. -/
def groupValues (groups : List String) : List (String × String) :=
  groups.zipIdx.map fun (text, index) => ("g" ++ toString (index + 1), text)

/-- The values for one match of a pattern: the match is the only argument, and its groups are
parameters. -/
def forMatch (p : Parameters) (whole : String) (groups : List String) : Parameters :=
  putAll { p.put argumentsName whole with arguments := [whole] } (groupValues groups)

end Parameters

end CommandTemplate
