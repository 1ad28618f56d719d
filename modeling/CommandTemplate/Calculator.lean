import CommandTemplate.Number.Notation
import CommandTemplate.Text.Blank

/-!
Arithmetic.

    sum      := product (('+' | '-') product)*
    product  := signed (('*' | '/') signed)*
    signed   := ('+' | '-') signed | power
    power    := primary ('^' signed)?
    primary  := number | '(' sum ')' | name '(' sum ')'

`tokenize` cuts a text into tokens with their positions, `Formula.parse` reads a formula from
them, and `Formula.value` computes it.  Angles are in degrees.  Each token is taken once, which
is why reading ends: what is left is shorter by a token at least.
-/

namespace CommandTemplate.Calculator

/-- How deep signed parts may lie in one another. -/
def maxDepth : Nat := 128

inductive Token where
  | number (value : Float)
  | name (text : String)
  | plus
  | minus
  | star
  | slash
  | caret
  | opening
  | closing
  deriving Repr

/-- A token as it is quoted in an error. -/
def Token.text : Token → String
  | .number value => Number.display value
  | .name text => text
  | .plus => "+"
  | .minus => "-"
  | .star => "*"
  | .slash => "/"
  | .caret => "^"
  | .opening => "("
  | .closing => ")"

/-- What can be wrong with an expression. -/
inductive Error where
  | empty
  | unexpectedChar (c : Char) (position : Nat)
  | unexpectedToken (token : Token) (position : Nat)
  | unexpectedEnd
  | unknownFunction (name : String)
  | invalidNumber (text : String)
  | tooDeep
  deriving Repr

/-- The wording of an error. -/
def Error.message : Error → String
  | .empty => "Empty expression"
  | .unexpectedChar c p => "Unexpected character '" ++ c.toString ++ "' at position " ++ toString p
  | .unexpectedToken token p => "Unexpected '" ++ token.text ++ "' at position " ++ toString p
  | .unexpectedEnd => "Unexpected end of expression"
  | .unknownFunction name => "Unknown function '" ++ name ++ "'"
  | .invalidNumber text => "Invalid number '" ++ text ++ "'"
  | .tooDeep => "Expression nested deeper than " ++ toString maxDepth ++ " levels"

/-! ### Tokens -/

/-- A token and the position of its first character. -/
abbrev Placed := Token × Nat

/-- The token that one character is. -/
def signToken? (c : Char) : Option Token :=
  match c with
  | '+' => some .plus
  | '-' => some .minus
  | '*' => some .star
  | '/' => some .slash
  | '^' => some .caret
  | '(' => some .opening
  | ')' => some .closing
  | _ => none

/-- May the character stand in a number? -/
def isNumberChar (c : Char) : Bool :=
  c.isDigit || c = '.'

/-- The tokens of a text that begins at a position. -/
def tokenizeFrom (position : Nat) : List Char → Except Error (List Placed)
  | [] => .ok []
  | c :: s =>
    if Text.isBlank c then tokenizeFrom (position + 1) s
    else
      match signToken? c with
      | some token => do return (token, position) :: (← tokenizeFrom (position + 1) s)
      | none =>
        if isNumberChar c then
          let literal := c :: s.takeWhile isNumberChar
          match Number.readFloat? literal with
          | none => .error (.invalidNumber (String.ofList literal))
          | some value => do
            let tokens ← tokenizeFrom (position + literal.length) (s.dropWhile isNumberChar)
            return (.number value, position) :: tokens
        else if c.isAlpha then do
          let name := c :: s.takeWhile Char.isAlpha
          let tokens ← tokenizeFrom (position + name.length) (s.dropWhile Char.isAlpha)
          return (.name (String.ofList (name.map Char.toLower)), position) :: tokens
        else .error (.unexpectedChar c position)
termination_by s => s.length
decreasing_by
  · simp
  · simp
  · exact Nat.lt_succ_of_le (List.dropWhile_suffix isNumberChar).length_le
  · exact Nat.lt_succ_of_le (List.dropWhile_suffix Char.isAlpha).length_le

/-- The tokens of a text. -/
def tokenize (text : String) : Except Error (List Placed) :=
  tokenizeFrom 0 text.toList

/-! ### Formulas -/

inductive Operator where
  | add
  | sub
  | mul
  | div
  | pow
  deriving Repr, DecidableEq

inductive Function where
  | sqrt
  | sin
  | cos
  | tan
  deriving Repr, DecidableEq

inductive Formula where
  | number (value : Float)
  | negate (body : Formula)
  | binary (operator : Operator) (left right : Formula)
  | apply (function : Function) (argument : Formula)
  deriving Repr

/-- An angle in degrees as one in radians. -/
def radians (degrees : Float) : Float :=
  degrees * (3.14159265358979323846 / 180.0)

def Operator.apply : Operator → Float → Float → Float
  | .add, a, b => a + b
  | .sub, a, b => a - b
  | .mul, a, b => a * b
  | .div, a, b => a / b
  | .pow, a, b => a.pow b

def Function.apply : Function → Float → Float
  | .sqrt, x => x.sqrt
  | .sin, x => (radians x).sin
  | .cos, x => (radians x).cos
  | .tan, x => (radians x).tan

def Function.ofName? : String → Option Function
  | "sqrt" => some .sqrt
  | "sin" => some .sin
  | "cos" => some .cos
  | "tan" => some .tan
  | _ => none

/-- The number that a formula computes. -/
def Formula.value : Formula → Float
  | .number value => value
  | .negate body => -body.value
  | .binary operator left right => operator.apply left.value right.value
  | .apply function argument => function.apply argument.value

/-! ### Reading -/

/-- Fewer tokens than there were. -/
abbrev Fewer (s : List Placed) := { t : List Placed // t.length < s.length }

/-- No more tokens than there were. -/
abbrev AtMost (s : List Placed) := { t : List Placed // t.length ≤ s.length }

/-- Passes over a parenthesis that must come next. -/
def expect (wanted : Token → Bool) : (s : List Placed) → Except Error (Fewer s)
  | [] => .error .unexpectedEnd
  | (token, position) :: s =>
    if wanted token then .ok ⟨s, Nat.lt_succ_self _⟩ else .error (.unexpectedToken token position)

def Token.isOpening : Token → Bool
  | .opening => true
  | _ => false

def Token.isClosing : Token → Bool
  | .closing => true
  | _ => false

/-- The operator of a sum that a token is. -/
def Token.sumOperator? : Token → Option Operator
  | .plus => some .add
  | .minus => some .sub
  | _ => none

/-- The operator of a product that a token is. -/
def Token.productOperator? : Token → Option Operator
  | .star => some .mul
  | .slash => some .div
  | _ => none

mutual

/-- A sum; `depth` counts the signed parts around it. -/
def readSum (depth : Nat) (s : List Placed) : Except Error (Formula × Fewer s) := do
  let (first, t) ← readProduct depth s
  let (sum, u) ← readSumRest depth first t.1
  return (sum, ⟨u.1, Nat.lt_of_le_of_lt u.2 t.2⟩)
termination_by (s.length, 4)
decreasing_by
  · exact .right _ (by omega)
  · exact .left _ _ t.2

/-- The terms of a sum after a first part. -/
def readSumRest (depth : Nat) (left : Formula) :
    (s : List Placed) → Except Error (Formula × AtMost s)
  | [] => .ok (left, ⟨[], Nat.le_refl _⟩)
  | (token, position) :: s =>
    match token.sumOperator? with
    | none => .ok (left, ⟨(token, position) :: s, Nat.le_refl _⟩)
    | some operator => do
      let (right, t) ← readProduct depth s
      let (sum, u) ← readSumRest depth (.binary operator left right) t.1
      return (sum, ⟨u.1, Nat.le_succ_of_le (Nat.le_trans u.2 (Nat.le_of_lt t.2))⟩)
termination_by s => (s.length, 0)
decreasing_by
  · exact .left _ _ (Nat.lt_succ_self _)
  · exact .left _ _ (Nat.lt_succ_of_lt t.2)

/-- A product. -/
def readProduct (depth : Nat) (s : List Placed) : Except Error (Formula × Fewer s) := do
  let (first, t) ← readSigned depth s
  let (product, u) ← readProductRest depth first t.1
  return (product, ⟨u.1, Nat.lt_of_le_of_lt u.2 t.2⟩)
termination_by (s.length, 3)
decreasing_by
  · exact .right _ (by omega)
  · exact .left _ _ t.2

/-- The factors of a product after a first part. -/
def readProductRest (depth : Nat) (left : Formula) :
    (s : List Placed) → Except Error (Formula × AtMost s)
  | [] => .ok (left, ⟨[], Nat.le_refl _⟩)
  | (token, position) :: s =>
    match token.productOperator? with
    | none => .ok (left, ⟨(token, position) :: s, Nat.le_refl _⟩)
    | some operator => do
      let (right, t) ← readSigned depth s
      let (product, u) ← readProductRest depth (.binary operator left right) t.1
      return (product, ⟨u.1, Nat.le_succ_of_le (Nat.le_trans u.2 (Nat.le_of_lt t.2))⟩)
termination_by s => (s.length, 0)
decreasing_by
  · exact .left _ _ (Nat.lt_succ_self _)
  · exact .left _ _ (Nat.lt_succ_of_lt t.2)

/-- A part with signs in front of it. -/
def readSigned (depth : Nat) (s : List Placed) : Except Error (Formula × Fewer s) :=
  if maxDepth ≤ depth then .error .tooDeep
  else
    match s with
    | (.plus, _) :: s => do
      let (body, t) ← readSigned (depth + 1) s
      return (body, ⟨t.1, Nat.lt_succ_of_lt t.2⟩)
    | (.minus, _) :: s => do
      let (body, t) ← readSigned (depth + 1) s
      return (.negate body, ⟨t.1, Nat.lt_succ_of_lt t.2⟩)
    | s => readPower (depth + 1) s
termination_by (s.length, 2)
decreasing_by
  · exact .left _ _ (Nat.lt_succ_self _)
  · exact .left _ _ (Nat.lt_succ_self _)
  · exact .right _ (by omega)

/-- A power; its exponent may have a sign and be a power itself. -/
def readPower (depth : Nat) (s : List Placed) : Except Error (Formula × Fewer s) := do
  let (base, t) ← readPrimary depth s
  match _h : t.1 with
  | (.caret, _) :: u =>
    let (exponent, v) ← readSigned depth u
    return (.binary .pow base exponent, ⟨v.1, by
      have := t.2
      rw [_h] at this
      exact Nat.lt_trans (Nat.lt_succ_of_lt v.2) this⟩)
  | _ => return (base, t)
termination_by (s.length, 1)
decreasing_by
  · exact .right _ (by omega)
  · have := t.2
    rw [_h] at this
    exact .left _ _ (Nat.lt_of_succ_lt this)

/-- A number, a sum in parentheses, or the application of a function to one. -/
def readPrimary (depth : Nat) : (s : List Placed) → Except Error (Formula × Fewer s)
  | [] => .error .unexpectedEnd
  | (.number value, _) :: s => .ok (.number value, ⟨s, Nat.lt_succ_self _⟩)
  | (.opening, _) :: s => do
    let (sum, t) ← readSum depth s
    let u ← expect Token.isClosing t.1
    return (sum, ⟨u.1, Nat.lt_succ_of_lt (Nat.lt_trans u.2 t.2)⟩)
  | (.name name, _) :: s => do
    let t ← expect Token.isOpening s
    let (argument, u) ← readSum depth t.1
    let v ← expect Token.isClosing u.1
    match Function.ofName? name with
    | none => throw (.unknownFunction name)
    | some function =>
      return (.apply function argument,
        ⟨v.1, Nat.lt_succ_of_lt (Nat.lt_trans v.2 (Nat.lt_trans u.2 t.2))⟩)
  | (token, position) :: _ => .error (.unexpectedToken token position)
termination_by s => (s.length, 0)
decreasing_by
  · exact .left _ _ (Nat.lt_succ_self _)
  · exact .left _ _ (Nat.lt_succ_of_lt t.2)

end

/-- The formula that all of some tokens write. -/
def Formula.parse (tokens : List Placed) : Except Error Formula := do
  if tokens.isEmpty then throw .empty
  let (formula, rest) ← readSum 0 tokens
  match rest.1 with
  | [] => return formula
  | (token, position) :: _ => throw (.unexpectedToken token position)

/-- The value of an expression. -/
def evaluate (expression : String) : Except Error Float := do
  return (← Formula.parse (← tokenize expression)).value

/-- A value as it is printed: zero has no sign. -/
def format (value : Float) : String :=
  if value == 0.0 then "0" else Number.display value

/-- The value of an expression as text. -/
def calculate (expression : String) : Except Error String := do
  return format (← evaluate expression)

end CommandTemplate.Calculator
