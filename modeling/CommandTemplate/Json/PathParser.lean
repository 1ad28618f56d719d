import CommandTemplate.Json.Path
import CommandTemplate.ParseError
import CommandTemplate.Text.Pieces
import CommandTemplate.Text.Scanner

/-!
Reading paths into JSON values.

A path is a row of keys and of steps in brackets, with arrows `->` where two keys meet.  A
backslash takes the meaning off the next character of a key.  In brackets stand the places of
items, the functions of whole values, and the selections, which hold a path of their own and
after a `=` a pattern:

    data->items[0]->name      items[last]      tags[unique][join:, ]
    items[filter:kind=^video$][collect:name]

`Path.read` reads a path up to one of some stop characters.
-/

namespace CommandTemplate.Json

open Text (Scanner)
open Text.Scanner (After)

/-! ### The parts of a step -/

/-- The text before the bracket that closes, and what follows it.  Escapes are kept, and
brackets inside must be balanced. -/
def closing? : Nat → List Char → Option (List Char × List Char)
  | _, [] => none
  | depth, '\\' :: c :: s =>
    (closing? depth s).map fun (inner, rest) => ('\\' :: c :: inner, rest)
  | depth, '[' :: s => (closing? (depth + 1) s).map fun (inner, rest) => ('[' :: inner, rest)
  | 0, ']' :: s => some ([], s)
  | depth + 1, ']' :: s => (closing? depth s).map fun (inner, rest) => (']' :: inner, rest)
  | depth, c :: s => (closing? depth s).map fun (inner, rest) => (c :: inner, rest)

/-- A text consists of what is inside a bracket, the bracket, and what follows. -/
theorem eq_of_closing? {depth : Nat} {s inner rest : List Char}
    (h : closing? depth s = some (inner, rest)) : s = inner ++ ']' :: rest := by
  fun_induction closing? depth s generalizing inner rest with
  | case1 => cases h
  | case4 => cases h; rfl
  | case2 _ _ _ ih | case3 _ _ ih | case5 _ _ ih | case6 _ _ _ _ _ _ _ ih =>
    obtain ⟨⟨i, r⟩, hi, hr⟩ := Option.map_eq_some_iff.1 h
    cases hr
    rw [ih hi]
    rfl

/-- The texts before and after the first `=` outside of brackets. -/
def condition : Nat → List Char → List Char × Option (List Char)
  | _, [] => ([], none)
  | depth, '\\' :: c :: s =>
    let (path, pattern) := condition depth s
    ('\\' :: c :: path, pattern)
  | 0, '=' :: s => ([], some s)
  | depth, c :: s =>
    let depth := if c = '[' then depth + 1 else if c = ']' then depth - 1 else depth
    let (path, pattern) := condition depth s
    (c :: path, pattern)

/-- The text before a condition is no longer than the whole. -/
theorem length_condition_le (depth : Nat) (s : List Char) :
    (condition depth s).1.length ≤ s.length := by
  fun_induction condition depth s <;> simp_all

/-- A key after its first character, up to a stop character, a bracket or an arrow. -/
def keyRest (stops : List Char) :
    (rest : List Char) → (position : Nat) → List Char × After ⟨rest, position⟩
  | [], p => ([], .none ⟨[], p⟩)
  | '\\' :: rest, p =>
    if '\\' ∈ stops then ([], .none ⟨'\\' :: rest, p⟩)
    else
      match rest with
      | [] => ([], After.behind (.none ⟨[], p + 1⟩))
      | c :: rest =>
        let (key, t) := keyRest stops rest (p + 2)
        (c :: key, t.behind.behind)
  | c :: rest, p =>
    if c ∈ stops ∨ c = '[' ∨ (c = '-' ∧ rest.head? = some '>') then ([], .none ⟨c :: rest, p⟩)
    else
      let (key, t) := keyRest stops rest (p + 1)
      (c :: key, t.behind)

/-- A key whose first character is `c`, which is no stop character. -/
def readKey (stops : List Char) (c : Char) (rest : List Char) (p : Nat) :
    String × After ⟨rest, p⟩ :=
  if c = '\\' then
    match rest with
    | [] => ("", .none ⟨[], p⟩)
    | d :: rest =>
      let (key, t) := keyRest stops rest (p + 1)
      (String.ofList (d :: key), t.behind)
  else
    let (key, t) := keyRest stops rest p
    (String.ofList (c :: key), t)

/-- The mode of a selection and the text after its name. -/
def selection? (inner : List Char) : Option (Selection × Nat × List Char) :=
  [("filter:", Selection.filter), ("collect:", .collect), ("combine:", .combine)].findSome?
    fun (front, mode) =>
      (Text.dropFront? front.toList inner).map fun rest => (mode, front.length, rest)

/-- What is dropped from the front makes a text no longer. -/
theorem length_le_of_dropFront? {front s rest : List Char}
    (h : Text.dropFront? front s = some rest) : rest.length ≤ s.length := by
  fun_induction Text.dropFront? front s with
  | case1 => cases h; exact Nat.le_refl _
  | case2 => cases h
  | case3 front f s ih => exact Nat.le_succ_of_le (ih h)
  | case4 => cases h

/-- The text of a selection is no longer than what stands in the brackets. -/
theorem length_le_of_selection? {inner rest : List Char} {mode : Selection} {width : Nat}
    (h : selection? inner = some (mode, width, rest)) : rest.length ≤ inner.length := by
  obtain ⟨entry, -, he⟩ := List.exists_of_findSome?_eq_some h
  obtain ⟨r, hr, hx⟩ := Option.map_eq_some_iff.1 he
  cases hx
  exact length_le_of_dropFront? hr

/-- The step that stands in brackets, unless it is a selection. -/
def simpleStep (inner : List Char) : Step :=
  match Number.readSigned? (Text.trimChars inner) with
  | some place => .index place
  | none =>
    match String.ofList inner with
    | "last" => .last
    | "size" => .size
    | "unique" => .unique
    | name =>
      match Text.stripFront? "join:" name with
      | some delimiter => .join delimiter
      | none => .key name

/-- The pattern of a selection, which begins at a position. -/
def readPattern (source : Option (List Char)) (p : Nat) :
    Except ParseError (Option Pattern) :=
  match source with
  | none => .ok none
  | some source =>
    match Pattern.ofSource (String.ofList source) with
    | .ok pattern => .ok (some pattern)
    | .error fault => .error ⟨.invalidPattern fault, p⟩

/-! ### Paths -/

mutual

/-- The step that stands in brackets; `inner` begins at the position `p`. -/
def Step.ofBracket (inner : List Char) (p : Nat) : Except ParseError Step :=
  match _h : selection? inner with
  | none => .ok (simpleStep inner)
  | some (mode, width, text) => do
    let (path, _) ← Path.read [] ⟨(condition 0 text).1, p + width⟩
    let pattern ← readPattern (condition 0 text).2 (p + width + (condition 0 text).1.length + 1)
    return .select mode path pattern
termination_by (inner.length, 1)
decreasing_by
  have := length_le_of_selection? _h
  have := length_condition_le 0 text
  simp only [Prod.lex_def]
  omega

/-- Reads a path up to one of the stop characters or the end. -/
def Path.read (stops : List Char) : (s : Scanner) → Except ParseError (Path × After s)
  | ⟨[], p⟩ => .ok ([], .none ⟨[], p⟩)
  | ⟨'-' :: '>' :: rest, p⟩ => do
    if '-' ∈ stops then return ([], .none ⟨'-' :: '>' :: rest, p⟩)
    let (path, t) ← Path.read stops ⟨rest, p + 2⟩
    return (path, t.behind.behind)
  | ⟨'[' :: rest, p⟩ => do
    if '[' ∈ stops then return ([], .none ⟨'[' :: rest, p⟩)
    match h : closing? 0 rest with
    | none => throw ⟨.expected ']', p + 1 + rest.length⟩
    | some (inner, after) =>
      let step ← Step.ofBracket inner (p + 1)
      let (path, t) ← Path.read stops ⟨after, p + 1 + inner.length + 1⟩
      have moved : Scanner.LeadsTo ⟨rest, p + 1⟩ ⟨after, p + 1 + inner.length + 1⟩ := by
        rw [eq_of_closing? h]; exact .append inner ']'
      return (step :: path, After.behind ⟨t.1, moved.trans t.2⟩)
  | ⟨c :: rest, p⟩ => do
    if c ∈ stops then return ([], .none ⟨c :: rest, p⟩)
    let (key, t) := readKey stops c rest (p + 1)
    let (path, u) ← Path.read stops t.1
    return (.key key :: path, (t.beyond u).behind)
termination_by s => (s.rest.length, 0)
decreasing_by
  · simp only [Prod.lex_def, List.length_cons]; omega
  · have := congrArg List.length (eq_of_closing? h)
    simp only [Prod.lex_def, List.length_cons, List.length_append] at *
    omega
  · have := congrArg List.length (eq_of_closing? h)
    simp only [Prod.lex_def, List.length_cons, List.length_append] at *
    omega
  · have := t.2.length_le
    simp only [Prod.lex_def, List.length_cons] at *
    omega

end

/-- The path that a whole text writes. -/
def Path.parse (text : String) : Except ParseError Path := do
  return (← Path.read [] (.ofString text)).1

end CommandTemplate.Json
