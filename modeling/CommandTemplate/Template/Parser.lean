import CommandTemplate.Json.PathParser
import CommandTemplate.Template.Item

/-!
Reading templates.

    template := (text | '\' character | special)*
    special  := '$' '$'? (name '(' arguments ')' | '(' identifier ')' | identifier)

An argument is a template that ends at one of its separators; a call inside takes its own
closing parenthesis, so only separators of the same depth end an argument.  `Template.parse`
reports the first fault.  Each function of the reader tells what it leaves over, together
with a proof that this is the end of what it was given.
-/

namespace CommandTemplate

open Text (Scanner)
open Text.Scanner (After Past)

/-! ### Separators and shapes -/

/-- Where a template in an argument ends. -/
inductive Ending where
  /-- Only with the text. -/
  | none
  | comma
  | parenthesis
  | commaOrParenthesis
  /-- Where the key of a case ends. -/
  | caseKey
  deriving Repr, DecidableEq

/-- Does a character end a template? -/
def Ending.stops : Ending → Char → Bool
  | .none, _ => false
  | .comma, c => c = ','
  | .parenthesis, c => c = ')'
  | .commaOrParenthesis, c => c = ',' || c = ')'
  | .caseKey, c => c = ':' || c = ',' || c = ')'

/-- How the arguments of a function are written. -/
inductive Shape where
  /-- One argument for each ending, of which at least `least` must be there.  The first one may
  be an identifier. -/
  | listed (endings : List Ending) (least : Nat)
  | identifierFirst (others : List Ending) (least : Nat)
  /-- One or more arguments. -/
  | variadic
  | cases

/-- How the arguments of a function are written.  Where another argument must follow, a
closing parenthesis is text, and in the last one a comma is. -/
def Builtin.shape : Builtin → Shape
  | .ifGiven => .identifierFirst [.commaOrParenthesis, .parenthesis] 1
  | .ifEqual => .identifierFirst [.comma, .commaOrParenthesis, .parenthesis] 2
  | .join => .identifierFirst [.parenthesis] 1
  | .switch => .cases
  | .choose | .request => .variadic
  | .lower | .upper | .trim | .urlEncode | .calc | .isMatch => .listed [.parenthesis] 1
  | .randomNumber | .quote | .setting => .listed [.commaOrParenthesis, .parenthesis] 1
  | .dateTime =>
    .listed [.commaOrParenthesis, .commaOrParenthesis, .commaOrParenthesis, .parenthesis] 0
  | .sort => .listed [.commaOrParenthesis, .commaOrParenthesis, .parenthesis] 1
  | .replace => .listed [.comma, .comma, .commaOrParenthesis, .parenthesis] 3
  | .round =>
    .listed [.commaOrParenthesis, .commaOrParenthesis, .commaOrParenthesis, .parenthesis] 1
  | .json => .listed [.comma, .parenthesis] 2
  | .input => .listed [.commaOrParenthesis, .commaOrParenthesis, .parenthesis] 0
  | .lookup _ => .listed [.parenthesis] 0

namespace Template

/-! ### Texts and identifiers -/

/-- Text up to a special or the end of the template, with the escapes taken off. -/
def readText (ending : Ending) :
    (rest : List Char) → (position : Nat) → List Char × After ⟨rest, position⟩
  | [], p => ([], .none ⟨[], p⟩)
  | ['\\'], p => ([], After.behind (.none ⟨[], p + 1⟩))
  | '\\' :: c :: rest, p =>
    let (text, t) := readText ending rest (p + 2)
    (c :: text, t.behind.behind)
  | c :: rest, p =>
    if c = '$' ∨ ending.stops c then ([], .none ⟨c :: rest, p⟩)
    else
      let (text, t) := readText ending rest (p + 1)
      (c :: text, t.behind)

/-- A text as an item, unless it is empty. -/
def textItems : List Char → Template
  | [] => []
  | text => [.literal (String.ofList text)]

/-- May the character stand in an identifier? -/
def isIdentifierChar (c : Char) : Bool :=
  c.isAlphanum || c = '_' || c = '-'

/-- The digits of an identifier that names an argument, and whether it names those after it
too. -/
def argumentDigits? (text : List Char) : Option (List Char × Bool) :=
  match text.takeWhile Char.isDigit, text.dropWhile Char.isDigit with
  | [], _ => none
  | digits, [] => some (digits, false)
  | digits, ['-'] => some (digits, true)
  | _, _ => none

/-- The item that an identifier names; `start` is its position. -/
def identifierItem (text : List Char) (start : Nat) : Except ParseError Item :=
  if text = [] then .error ⟨.expectedIdentifier, start⟩
  else
    match argumentDigits? text with
    | none => .ok (.identifier (String.ofList (text.map Char.toLower)))
    | some (digits, toEnd) =>
      match Number.readUnsigned? digits with
      | none => .error ⟨.invalidIndex (String.ofList digits), start⟩
      | some 0 => .error ⟨.invalidIndex "0", start⟩
      | some index => .ok (.argument index toEnd)

/-- Passes over a character that must come next. -/
def expect (c : Char) (s : Scanner) : Except ParseError (Past s) :=
  match s.accept c with
  | some t => .ok t
  | none => .error ⟨.expected c, s.position⟩

/-- The second dollar sign of a required special, if there is one. -/
def readSign (s : Scanner) : Bool × After s :=
  match s.accept '$' with
  | some t => (true, t.after)
  | none => (false, .none s)

/-- An identifier as it stands after its sign; without a name, one in parentheses. -/
def readIdentifier (name : List Char) (start : Nat) (s : Scanner) :
    Except ParseError (Item × After s) := do
  match if name = [] then s.accept '(' else none with
  | some t =>
    let (text, u) := t.1.readWhile isIdentifierChar
    let item ← identifierItem text t.1.position
    let v ← expect ')' u.1
    return (item, t.beyond (u.beyond v.after))
  | none =>
    let (text, t) := s.readWhile isIdentifierChar
    return (← identifierItem (name ++ text) start, t)

/-! ### Templates -/

/-- What a reader gives from a scanner on. -/
abbrev Parsed (α : Type) (s : Scanner) := Except ParseError (α × After s)

mutual

/-- A template up to its ending. -/
def readItems (depth : Nat) (ending : Ending) (s : Scanner) : Parsed Template s := do
  let (text, t) := readText ending s.rest s.position
  match _h : t.1 with
  | ⟨'$' :: rest, p⟩ =>
    let (item, u) ← readSpecial depth ⟨rest, p + 1⟩
    let (items, v) ← readItems depth ending u.1
    return (textItems text ++ item :: items, t.beyond (_h ▸ (u.beyond v).behind))
  | _ => return (textItems text, t)
termination_by (s.rest.length, 1)
decreasing_by
  all_goals
    have ht := t.2.length_le
    rw [_h] at ht
    simp only [Prod.lex_def, List.length_cons] at *
  · omega
  · have hu := u.2.length_le
    simp only at hu
    omega

/-- What follows a dollar sign. -/
def readSpecial (depth : Nat) (s : Scanner) : Parsed Item s := do
  if maxNesting ≤ depth then throw ⟨.tooDeep, s.position⟩
  let (required, t) := readSign s
  let (name, u) := t.1.readWhile Char.isAlpha
  if name ≠ [] ∧ u.1.peek? = some '(' then
    let (item, v) ← readCall (depth + 1) name t.1.position required u.1
    return (item, t.beyond (u.beyond v))
  else
    let (item, v) ← readIdentifier name t.1.position u.1
    return (.replacement item required, t.beyond (u.beyond v))
termination_by (s.rest.length, 3)
decreasing_by
  have := t.2.length_le
  have := u.2.length_le
  simp only [Prod.lex_def]
  omega

/-- The arguments of a call, from the opening parenthesis on; `start` is the position of the
name. -/
def readCall (depth : Nat) (name : List Char) (start : Nat) (required : Bool) (s : Scanner) :
    Parsed Item s := do
  let lower := String.ofList (name.map Char.toLower)
  if lower = "j" then
    let t ← expect '(' s
    let (path, u) ← Json.Path.read [',', ')'] t.1
    let (arguments, v) ← readDefault depth u.1
    return (.call (.lookup path) arguments required, t.beyond (u.beyond v))
  else
    match Builtin.ofName? lower with
    | none => throw ⟨.unknownFunction (String.ofList name), start⟩
    | some builtin =>
      let t ← expect '(' s
      let (arguments, u) ← readArguments depth builtin.shape t.1
      return (.call builtin arguments required, t.beyond u)
termination_by (s.rest.length, 2)
decreasing_by
  all_goals
    have := t.2.2
    simp only [Prod.lex_def]
  · have := u.2.length_le
    omega
  · omega

/-- The arguments of a shape and the closing parenthesis. -/
def readArguments (depth : Nat) (shape : Shape) (s : Scanner) : Parsed (List Template) s :=
  match shape with
  | .cases => readSwitch depth s
  | .variadic => readMany depth s
  | .identifierFirst others least => do
    let (first, t) ← readFirst depth s
    let u ← expect ',' t.1
    let (arguments, v) ← readListed depth others least u.1
    return (first :: arguments, t.beyond (u.beyond v))
  | .listed endings least =>
    match if least = 0 then s.accept ')' else none with
    | some t => return ([], t.after)
    | none => readListed depth endings least s
termination_by (s.rest.length, 4)
decreasing_by
  · exact .right _ (by omega)
  · exact .right _ (by omega)
  · exact .right _ (by omega)
  · have := t.2.length_le
    have := u.2.2
    simp only [Prod.lex_def]
    omega
  · exact .right _ (by omega)

/-- The default of a look-up, if there is one, and the closing parenthesis. -/
def readDefault (depth : Nat) (s : Scanner) : Parsed (List Template) s := do
  match s.accept ',' with
  | some t =>
    let (argument, u) ← readItems depth .parenthesis t.1
    let v ← expect ')' u.1
    return ([argument], t.beyond (u.beyond v.after))
  | none => return ([], (← expect ')' s).after)
termination_by (s.rest.length, 2)
decreasing_by
  have := t.2.2
  simp only [Prod.lex_def]
  omega

/-- An argument that may be a bare identifier; it is a template if it starts with a special. -/
def readFirst (depth : Nat) (s : Scanner) : Parsed Template s := do
  if s.peek? = some '$' then readItems depth .commaOrParenthesis s
  else
    let (text, t) := s.readWhile isIdentifierChar
    return ([.replacement (← identifierItem text s.position) false], t)
termination_by (s.rest.length, 2)
decreasing_by
  exact .right _ (by omega)

/-- The arguments with some endings up to the closing parenthesis, at least so many. -/
def readListed (depth : Nat) (endings : List Ending) (least : Nat) (s : Scanner) :
    Parsed (List Template) s := do
  match endings with
  | [] => return ([], (← expect ')' s).after)
  | ending :: endings =>
    let (argument, t) ← readItems depth ending s
    match if endings = [] then none else t.1.accept ',' with
    | some u =>
      let (arguments, v) ← readListed depth endings (least - 1) u.1
      return (argument :: arguments, t.beyond (u.beyond v))
    | none =>
      if 1 < least then throw ⟨.expected ',', t.1.position⟩
      return ([argument], t.beyond (← expect ')' t.1).after)
termination_by (s.rest.length, 2)
decreasing_by
  · exact .right _ (by omega)
  · have := t.2.length_le
    have := u.2.2
    simp only [Prod.lex_def]
    omega

/-- Any number of arguments up to the closing parenthesis. -/
def readMany (depth : Nat) (s : Scanner) : Parsed (List Template) s := do
  let (argument, t) ← readItems depth .commaOrParenthesis s
  match t.1.accept ',' with
  | some u =>
    let (arguments, v) ← readMany depth u.1
    return (argument :: arguments, t.beyond (u.beyond v))
  | none => return ([argument], t.beyond (← expect ')' t.1).after)
termination_by (s.rest.length, 2)
decreasing_by
  · exact .right _ (by omega)
  · have := t.2.length_le
    have := u.2.2
    simp only [Prod.lex_def]
    omega

/-- The value of a switch, its cases and its default, up to the closing parenthesis. -/
def readSwitch (depth : Nat) (s : Scanner) : Parsed (List Template) s := do
  let (value, t) ← readFirst depth s
  let u ← expect ',' t.1
  let (cases, v) ← readCases depth [] u.1
  return (value :: cases, t.beyond (u.beyond v))
termination_by (s.rest.length, 3)
decreasing_by
  · exact .right _ (by omega)
  · have := t.2.length_le
    have := u.2.2
    simp only [Prod.lex_def]
    omega

/-- The cases of a switch and its default, after the cases with the keys `seen`. -/
def readCases (depth : Nat) (seen : List Template) (s : Scanner) :
    Parsed (List Template) s := do
  let (key, t) ← readItems depth .caseKey s
  match t.1.accept ':' <|> t.1.accept ',' with
  | none =>
    if seen = [] then throw ⟨.noCase, t.1.position⟩
    return ([key], t.beyond (← expect ')' t.1).after)
  | some u =>
    let (output, v) ← readItems depth .commaOrParenthesis u.1
    if key ∈ seen then throw ⟨.duplicateCase, s.position⟩
    match v.1.accept ',' with
    | some w =>
      let (cases, x) ← readCases depth (key :: seen) w.1
      return (key :: output :: cases, t.beyond (u.beyond (v.beyond (w.beyond x))))
    | none => return ([key, output], t.beyond (u.beyond (v.beyond (← expect ')' v.1).after)))
termination_by (s.rest.length, 2)
decreasing_by
  · exact .right _ (by omega)
  · have := t.2.length_le
    have := u.2.2
    simp only [Prod.lex_def]
    omega
  · have := t.2.length_le
    have := u.2.2
    have := v.2.length_le
    have := w.2.2
    simp only [Prod.lex_def]
    omega

end

end Template

/-- An item at the top of a template: all but texts are escaped. -/
def Item.atTop : Item → Item
  | .literal text => .literal text
  | item => .escaped item

/-- The template that a text writes. -/
def Template.parse (text : String) : Except ParseError Template := do
  let (items, _) ← Template.readItems 0 .none (.ofString text)
  return items.map Item.atTop

end CommandTemplate
