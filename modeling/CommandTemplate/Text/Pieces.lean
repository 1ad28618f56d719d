/-!
Finding one text in another.

`cut sep s` is the list of the pieces of `s` between the occurrences of `sep`, which are
found from left to right and do not overlap.  Putting the pieces together again with
another text between them replaces each occurrence, which is how `substitute` is defined.
An empty separator occurs before, between and after all characters.
-/

namespace CommandTemplate.Text

/-- What follows `front` in `s`, when `s` starts with it. -/
def dropFront? : List Char → List Char → Option (List Char)
  | [], s => some s
  | _ :: _, [] => none
  | f :: front, c :: s => if f = c then dropFront? front s else none

/-- Puts `c` in front of the first piece. -/
def consFirst (c : Char) : List (List Char) → List (List Char)
  | [] => [[c]]
  | piece :: pieces => (c :: piece) :: pieces

/-- The pieces of a text at a separator that is not empty.  `skip` counts the characters
of an occurrence that are still to be passed. -/
def cutFrom (sep : List Char) : Nat → List Char → List (List Char)
  | _, [] => [[]]
  | skip + 1, _ :: s => cutFrom sep skip s
  | 0, c :: s =>
    if sep.isPrefixOf (c :: s) then [] :: cutFrom sep (sep.length - 1) s
    else consFirst c (cutFrom sep 0 s)

/-- The pieces of a text between the occurrences of a separator. -/
def cut (sep s : List Char) : List (List Char) :=
  match sep with
  | [] => [] :: s.map ([·]) ++ [[]]
  | _ :: _ => cutFrom sep 0 s

/-- The pieces of `s` between the occurrences of `sep`. -/
def splitOn (sep s : String) : List String :=
  (cut sep.toList s.toList).map String.ofList

/-- A text with every occurrence of `old` replaced by `new`. -/
def substituteChars (old new s : List Char) : List Char :=
  List.intercalate new (cut old s)

/-- A text with every occurrence of `old` replaced by `new`. -/
def substitute (old new s : String) : String :=
  String.ofList (substituteChars old.toList new.toList s.toList)

/-- Does `part` occur in a text? -/
def occursIn (part : List Char) : List Char → Bool
  | [] => part.isEmpty
  | c :: s => part.isPrefixOf (c :: s) || occursIn part s

/-- Does `s` start with `front`? -/
def startsWith (front s : String) : Bool :=
  front.toList.isPrefixOf s.toList

/-- Does `part` occur in `s`? -/
def contains (part s : String) : Bool :=
  occursIn part.toList s.toList

/-- What follows `front` in `s`, when `s` starts with it. -/
def stripFront? (front s : String) : Option String :=
  (dropFront? front.toList s.toList).map String.ofList

/-- The texts before and after the first `c`, when there is one. -/
def splitOnce? (c : Char) (s : String) : Option (String × String) :=
  match s.toList.span (· != c) with
  | (_, []) => none
  | (before, _ :: after) => some (String.ofList before, String.ofList after)

end CommandTemplate.Text
