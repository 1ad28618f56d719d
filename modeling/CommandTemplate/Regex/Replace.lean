import CommandTemplate.Number.Integer
import CommandTemplate.Regex.Search
import CommandTemplate.Text.Pieces

/-!
Replacing the matches of a regular expression.

`Regex.replaceWith` puts another text in the place of each match, or of the first one only.
A replacement may refer to the groups of the match: `expand` reads `$$`, `$name` and
`${name}`, where a name takes as many letters, digits and underscores as there are.
`braceNumbers` puts braces around the numbers of a replacement first, so a number ends where
its digits end.
-/

namespace CommandTemplate.Regex

/-! ### References to groups -/

/-- May the character stand in a reference without braces? -/
def isReferenceChar (c : Char) : Bool :=
  c.isAlphanum || c = '_'

/-- A replacement text with each reference replaced by what `refer` gives for its name. -/
def expand (refer : List Char → List Char) : List Char → List Char
  | [] => []
  | '$' :: '$' :: s => '$' :: expand refer s
  | '$' :: '{' :: s =>
    match _h : s.dropWhile (· ≠ '}') with
    | [] => '$' :: expand refer ('{' :: s)
    | _ :: rest => refer (s.takeWhile (· ≠ '}')) ++ expand refer rest
  | '$' :: c :: s =>
    if isReferenceChar c then
      refer (c :: s.takeWhile isReferenceChar) ++ expand refer (s.dropWhile isReferenceChar)
    else '$' :: expand refer (c :: s)
  | c :: s => c :: expand refer s
termination_by s => s.length
decreasing_by
  all_goals simp only [List.length_cons]
  · omega
  · omega
  · have := (List.dropWhile_suffix (l := s) (· ≠ '}')).length_le
    simp_all
    omega
  · have := (List.dropWhile_suffix (l := s) isReferenceChar).length_le
    omega
  · omega
  · omega

/-- A replacement text with braces around the numbers after single dollar signs. -/
def braceNumbers : List Char → List Char
  | [] => []
  | '$' :: '$' :: s => '$' :: '$' :: braceNumbers s
  | '$' :: c :: s =>
    if c.isDigit then
      '$' :: '{' :: c :: s.takeWhile Char.isDigit ++ '}' :: braceNumbers (s.dropWhile Char.isDigit)
    else '$' :: braceNumbers (c :: s)
  | c :: s => c :: braceNumbers s
termination_by s => s.length
decreasing_by
  all_goals simp only [List.length_cons]
  · omega
  · have := (List.dropWhile_suffix (l := s) Char.isDigit).length_le
    omega
  · omega
  · omega

/-- The number of the group that a reference names. -/
def groupNumber? (r : Regex) (name : List Char) : Option Nat :=
  Number.readUnsigned? name <|> r.names.lookup (String.ofList name)

/-- The text of a group of a match; group 0 is the whole match. -/
def Segment.groupText (m : Segment) : Nat → List Char
  | 0 => m.whole
  | n + 1 => (m.groups[n]?.getD none).getD []

/-- The text that a reference stands for in a match. -/
def refer (r : Regex) (m : Segment) (name : List Char) : List Char :=
  ((r.groupNumber? name).map m.groupText).getD []

/-! ### Replacing -/

/-- The first match as a segment, and what follows it. -/
def firstSegment (r : Regex) (text : List Char) : List Segment × List Char :=
  match r.find? none text with
  | none => ([], text)
  | some m => ([m.segment text], (text.drop m.start).drop (m.stop - m.start))

/-- All matches or only the first one. -/
inductive Extent where
  | all
  | first
  deriving Repr, DecidableEq

/-- The matches that are to be replaced, and what follows the last one. -/
def segmentsOf (r : Regex) (extent : Extent) (text : List Char) : List Segment × List Char :=
  match extent with
  | .all => r.segments text
  | .first => r.firstSegment text

/-- A text with another one in the place of each match. -/
def replaceWith (r : Regex) (extent : Extent) (image : Segment → List Char)
    (text : String) : String :=
  let (segments, tail) := r.segmentsOf extent text.toList
  String.ofList (segments.flatMap (fun m => m.before ++ image m) ++ tail)

/-- A text with a fixed one in the place of each match. -/
def replaceFixed (r : Regex) (extent : Extent) (replacement text : String) : String :=
  r.replaceWith extent (fun _ => replacement.toList) text

/-- A text with a replacement in the place of each match that refers to the groups of the
match. -/
def replaceExpanding (r : Regex) (extent : Extent) (replacement text : String) : String :=
  r.replaceWith extent (fun m => expand (r.refer m) (braceNumbers replacement.toList)) text

/-! ### Fixed texts -/

/-- A pattern that matches a text and nothing else. -/
def escape (text : String) : String :=
  String.ofList (text.toList.flatMap fun c => if c ∈ metaChars then ['\\', c] else [c])

end CommandTemplate.Regex
