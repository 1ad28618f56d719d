import CommandTemplate.Text.CodeSet

/-!
Sets of characters with names.

A table is a list of lines, each with the names of a set, a colon and the code points of the
set.  Only the line that is looked for is read as a whole.
-/

namespace CommandTemplate.Text

/-- A set of characters with its names, written in lower case without marks between the words. -/
structure NamedSet where
  names : List String
  members : CodeSet

namespace NamedSet

/-- The names in a line of a table. -/
def namesOf (line : String) : List String :=
  (tableWords (String.ofList (line.toList.takeWhile (· ≠ ':')))).map String.ofList

/-- The code points in a line of a table. -/
def membersOf (line : String) : CodeSet :=
  .ofText (String.ofList ((line.toList.dropWhile (· ≠ ':')).drop 1))

/-- The set in a line of a table. -/
def ofText (line : String) : NamedSet :=
  ⟨namesOf line, membersOf line⟩

/-- A set by one of its names. -/
def find? (name : String) (sets : List NamedSet) : Option CodeSet :=
  (sets.find? (name ∈ ·.names)).map (·.members)

/-- A set of a table by one of its names. -/
def findLine? (name : String) (table : List String) : Option CodeSet :=
  (table.find? (name ∈ namesOf ·)).map membersOf

end NamedSet

end CommandTemplate.Text
