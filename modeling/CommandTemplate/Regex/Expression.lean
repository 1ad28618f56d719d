import CommandTemplate.Regex.NamedClass
import CommandTemplate.Text.Casing

/-!
The meaning of a regular expression.

`Expr` has no flags and no classes: each character matches a set, and each place is a
`Look`.  `Expr.sequence`, `Expr.choice` and `Expr.repetition` build simple expressions: a
sequence holds no empty parts, branches of single characters become one set, and what all
branches begin with stands in front of them.

`Ast.toExpr` brings an expression into this form; it fails where a pattern without Unicode
would match part of a character, and where a class of characters does not exist.
-/

namespace CommandTemplate.Regex

open Text (CodeSet)

/-- Places in a text.  Words consist of Unicode or of ASCII characters. -/
inductive Look where
  | textStart
  | textEnd
  | lineStart (crlf : Bool)
  | lineEnd (crlf : Bool)
  | word (unicode : Bool)
  | notWord (unicode : Bool)
  | wordStart (unicode : Bool)
  | wordEnd (unicode : Bool)
  | wordStartHalf (unicode : Bool)
  | wordEndHalf (unicode : Bool)
  deriving Repr, DecidableEq

/-- What a regular expression matches. -/
inductive Expr where
  | empty
  | one (members : CodeSet)
  | look (look : Look)
  | cat (first second : Expr)
  | alt (first second : Expr)
  | loop (low : Nat) (high : Option Nat) (greedy : Bool) (body : Expr)
  | capture (index : Nat) (name : Option String) (body : Expr)
  deriving DecidableEq

namespace Expr

/-! ### What is known of matches -/

/-- Does every match have no characters? -/
def onlyEmpty : Expr → Bool
  | .empty | .look _ => true
  | .one _ => false
  | .cat a b | .alt a b => a.onlyEmpty && b.onlyEmpty
  | .loop _ _ _ body => body.onlyEmpty
  | .capture _ _ body => body.onlyEmpty

/-- Does every match have a character? -/
def neverEmpty : Expr → Bool
  | .empty | .look _ => false
  | .one _ => true
  | .cat a b => a.neverEmpty || b.neverEmpty
  | .alt a b => a.neverEmpty && b.neverEmpty
  | .loop low _ _ body => low != 0 && body.neverEmpty
  | .capture _ _ body => body.neverEmpty

/-- The least number of characters in a match; nothing if a set without members occurs. -/
def minLength : Expr → Option Nat
  | .empty | .look _ => some 0
  | .one members => if members.ranges = [] then none else some 1
  | .cat a b => return (← a.minLength) + (← b.minLength)
  | .alt a b => return min (← a.minLength) (← b.minLength)
  | .loop low _ _ body => return low * (← body.minLength)
  | .capture _ _ body => body.minLength

/-- Do all matches begin at the beginning of the text, as far as the places in front tell? -/
def startsAnchored : Expr → Bool
  | .empty | .one _ => false
  | .look place => place = .textStart
  | .cat a b => a.startsAnchored || (a.onlyEmpty && b.startsAnchored)
  | .alt a b => a.startsAnchored && b.startsAnchored
  | .loop low _ _ body => low != 0 && body.startsAnchored
  | .capture _ _ body => body.startsAnchored

/-- Do all matches end at the end of the text, as far as the places at the end tell? -/
def endsAnchored : Expr → Bool
  | .empty | .one _ => false
  | .look place => place = .textEnd
  | .cat a b => b.endsAnchored || (b.onlyEmpty && a.endsAnchored)
  | .alt a b => a.endsAnchored && b.endsAnchored
  | .loop low _ _ body => low != 0 && body.endsAnchored
  | .capture _ _ body => body.endsAnchored

/-! ### Building expressions -/

/-- The parts of a sequence. -/
def items : Expr → List Expr
  | .empty => []
  | .cat a b => a.items ++ b.items
  | e => [e]

/-- Parts one after the other. -/
def ofItems : List Expr → Expr
  | [] => .empty
  | [item] => item
  | item :: items => .cat item (ofItems items)

/-- Expressions one after the other. -/
def sequence (es : List Expr) : Expr :=
  ofItems (es.flatMap items)

/-- The branches of an expression. -/
def branches : Expr → List Expr
  | .alt a b => a.branches ++ b.branches
  | e => [e]

/-- Branches, of which the earlier ones are preferred. -/
def ofBranches : List Expr → Expr
  | [] => .one .empty
  | [branch] => branch
  | branch :: branches => .alt branch (ofBranches branches)

/-- The set of a single character. -/
def set? : Expr → Option CodeSet
  | .one members => some members
  | _ => none

/-- Does the expression match one certain character? -/
def isCharacter : Expr → Bool
  | .one ⟨[(low, high)]⟩ => low = high
  | _ => false

/-- The union of branches that are all certain characters, or all other sets. -/
def union? (branches : List Expr) : Option CodeSet :=
  if branches.all isCharacter || !branches.any isCharacter then
    (branches.mapM set?).map fun sets => .ofRanges (sets.flatMap (·.ranges))
  else none

/-- Parts of a sequence, with the certain characters in a row taken together. -/
def runs : List Expr → List (List Expr)
  | [] => []
  | item :: items =>
    match item.isCharacter, runs items with
    | true, (next :: run) :: rest =>
      if next.isCharacter then (item :: next :: run) :: rest else [item] :: (next :: run) :: rest
    | _, rest => [item] :: rest

/-- What two lists begin with. -/
def commonPart : List (List Expr) → List (List Expr) → List (List Expr)
  | a :: s, b :: t => if a = b then a :: commonPart s t else []
  | _, _ => []

/-- What all branches begin with, if there is such a thing, and the rests of the branches.  No
branch may be a single run. -/
def lift? (branches : List Expr) : Option (List Expr × List Expr) :=
  match branches.map fun branch => runs branch.items with
  | [] => none
  | first :: others =>
    let shared := others.foldl commonPart first
    if (first :: others).any (·.length < 2) || shared = [] then none
    else some (shared.flatten, (first :: others).map fun branch =>
      sequence (branch.drop shared.length).flatten)

/-- Branches in their simplest form; each round takes something out of them. -/
def choiceIn : Nat → List Expr → Expr
  | 0, bs => ofBranches bs
  | rounds + 1, bs =>
    match bs with
    | [branch] => branch
    | bs =>
      match union? bs with
      | some members => .one members
      | none =>
        match lift? bs with
        | some (shared, rests) =>
          sequence (shared ++ [choiceIn rounds (rests.flatMap branches)])
        | none => ofBranches bs

/-- The number of parts of an expression. -/
def size : Expr → Nat
  | .empty | .one _ | .look _ => 1
  | .cat a b | .alt a b => a.size + b.size + 1
  | .loop _ _ _ body | .capture _ _ body => body.size + 1

/-- One of several expressions, of which the earlier ones are preferred. -/
def choice (es : List Expr) : Expr :=
  choiceIn (es.foldl (fun n e => n + e.size) 0) (es.flatMap branches)

/-- A repetition.  What only matches no characters is taken at most once. -/
def repetition (low : Nat) (high : Option Nat) (greedy : Bool) (body : Expr) : Expr :=
  let (low, high) := if body.onlyEmpty then (min low 1, some (min (high.getD 1) 1))
    else (low, high)
  if high = some 0 then .empty
  else if low = 1 ∧ high = some 1 then body
  else .loop low high greedy body

/-! ### Groups -/

/-- The largest index of a group. -/
def lastGroup : Expr → Nat
  | .empty | .look _ | .one _ => 0
  | .cat a b | .alt a b => max a.lastGroup b.lastGroup
  | .loop _ _ _ body => body.lastGroup
  | .capture index _ body => max index body.lastGroup

/-- The groups with names. -/
def groupNames : Expr → List (String × Nat)
  | .empty | .look _ | .one _ => []
  | .cat a b | .alt a b => a.groupNames ++ b.groupNames
  | .loop _ _ _ body => body.groupNames
  | .capture index name body => (name.map (·, index)).toList ++ body.groupNames

end Expr

/-! ### Sets of characters -/

/-- The options at one place of a pattern. -/
structure Options where
  ignoreCase : Bool
  multiLine : Bool
  dotAll : Bool
  swapGreed : Bool
  unicode : Bool
  crlf : Bool

namespace Options

/-- The options at the beginning of a pattern. -/
def initial : Options := ⟨false, false, false, false, true, false⟩

def apply (change : FlagChange) (o : Options) : Options where
  ignoreCase := (change.value? .ignoreCase).getD o.ignoreCase
  multiLine := (change.value? .multiLine).getD o.multiLine
  dotAll := (change.value? .dotAll).getD o.dotAll
  swapGreed := (change.value? .swapGreed).getD o.swapGreed
  unicode := (change.value? .unicode).getD o.unicode
  crlf := (change.value? .crlf).getD o.crlf

/-- A set with both cases of its members, if case is ignored. -/
def fold (o : Options) (members : CodeSet) : CodeSet :=
  if !o.ignoreCase then members
  else if o.unicode then members.closeUnderCase
  else members.closeUnderAsciiCase

/-- A set or its complement.  Without Unicode the complement holds parts of characters. -/
def negate (o : Options) (negated : Bool) (members : CodeSet) : Except Error CodeSet :=
  if !negated then .ok members
  else if o.unicode then .ok members.complement
  else .error .notUtf8

/-- The character of a literal, which must be whole. -/
def char (o : Options) (l : Literal) : Except Error Char :=
  if !o.unicode ∧ l.byte ∧ 128 ≤ l.char.toNat then .error .notUtf8 else .ok l.char

/-- The character of a literal in a class. -/
def classChar (o : Options) (l : Literal) : Except Error Char := do
  let c ← o.char l
  if !o.unicode ∧ 128 ≤ c.toNat then .error .unicodeOff else .ok c

/-- The set that a shorthand names. -/
def shorthand (o : Options) (kind : Shorthand) : CodeSet :=
  match kind, o.unicode with
  | .digit, true => Text.Category.decimalNumber
  | .space, true => Text.Property.whiteSpace
  | .word, true => Text.Property.word
  | .digit, false => .ofRanges [(48, 57)]
  | .space, false => .ofRanges [(9, 13), (32, 32)]
  | .word, false => .ofRanges [(48, 57), (65, 90), (95, 95), (97, 122)]

/-- The members of a class of Unicode characters. -/
def property (o : Options) (name : PropertyName) (negated : Bool) : Except Error CodeSet :=
  if !o.unicode then .error .unicodeOff
  else do o.negate (negated != name.negated) (o.fold (← name.members))

end Options

/-- The result of an operation on two sets. -/
def SetOperator.apply (operator : SetOperator) (s t : CodeSet) : CodeSet :=
  match operator with
  | .inter => s.inter t
  | .diff => s.diff t
  | .symmDiff => s.symmDiff t

mutual

/-- The members of a class. -/
def ClassAst.members (o : Options) : ClassAst → Except Error CodeSet
  | .empty => .ok .empty
  | .literal l => return .ofChars [← o.classChar l]
  | .range low high => return .range (← o.classChar low) (← o.classChar high)
  | .ascii members negated => o.negate negated (o.fold members)
  | .shorthand kind negated => o.negate negated (o.shorthand kind)
  | .property name negated => o.property name negated
  | .bracketed negated inner => do o.negate negated (o.fold (← inner.members o))
  | .union items => return .ofRanges (← ClassAst.rangesOfAll o items)
  | .operation operator left right => do
    let s ← left.members o
    let t ← right.members o
    return operator.apply (o.fold s) (o.fold t)

/-- The ranges of several classes together. -/
def ClassAst.rangesOfAll (o : Options) : List ClassAst → Except Error (List (Nat × Nat))
  | [] => .ok []
  | item :: items => do
    let s ← item.members o
    return s.ranges ++ (← ClassAst.rangesOfAll o items)

end

/-! ### Expressions -/

/-- The place that an anchor names. -/
def Anchor.look (o : Options) : Anchor → Look
  | .lineStart => if o.multiLine then .lineStart o.crlf else .textStart
  | .lineEnd => if o.multiLine then .lineEnd o.crlf else .textEnd
  | .textStart => .textStart
  | .textEnd => .textEnd
  | .word => .word o.unicode
  | .notWord => .notWord o.unicode
  | .wordStart => .wordStart o.unicode
  | .wordEnd => .wordEnd o.unicode
  | .wordStartHalf => .wordStartHalf o.unicode
  | .wordEndHalf => .wordEndHalf o.unicode

/-- The set that a dot matches. -/
def Options.dot (o : Options) : Except Error CodeSet :=
  if !o.unicode then .error .notUtf8
  else if o.dotAll then .ok .all
  else if o.crlf then .ok (CodeSet.ofChars ['\n', '\r']).complement
  else .ok (CodeSet.ofChars ['\n']).complement

/-- The options change while an expression is read from left to right. -/
abbrev Lowering := StateT Options (Except Error)

/-- The set that a computation yields, as an expression. -/
def Lowering.one (members : Options → Except Error CodeSet) : Lowering Expr := do
  return .one (← members (← get))

mutual

/-- What an expression matches. -/
def Ast.lowered : Ast → Lowering Expr
  | .empty => return .empty
  | .flags change => do
    modify (·.apply change)
    return .empty
  | .literal l => .one fun o => return o.fold (.ofChars [← o.char l])
  | .dot => .one (·.dot)
  | .anchor place => return .look (place.look (← get))
  | .shorthand kind negated => .one fun o => o.negate negated (o.shorthand kind)
  | .property name negated => .one (·.property name negated)
  | .bracketed negated inner => .one fun o => do o.negate negated (o.fold (← inner.members o))
  | .repetition low high greedy body => do
    let body ← body.lowered
    return .repetition low high (greedy != (← get).swapGreed) body
  | .group kind body => do
    let outer ← get
    match kind with
    | .plain change =>
      set (outer.apply change)
      let body ← body.lowered
      set outer
      return body
    | .capture index name =>
      let body ← body.lowered
      set outer
      return .capture index name body
  | .alternation branches => return .choice (← Ast.loweredAll branches)
  | .concatenation items => return .sequence (← Ast.loweredAll items)

/-- What several expressions match. -/
def Ast.loweredAll : List Ast → Lowering (List Expr)
  | [] => return []
  | item :: items => do
    let first ← item.lowered
    return first :: (← Ast.loweredAll items)

end

/-- What an expression matches from the beginning of a pattern on. -/
def Ast.toExpr (ast : Ast) : Except Error Expr := do
  return (← StateT.run ast.lowered .initial).1

end CommandTemplate.Regex
