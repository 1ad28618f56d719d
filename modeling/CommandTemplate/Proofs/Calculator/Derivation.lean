import CommandTemplate.Calculator

/-!
Derivations of arithmetic expressions.

There is one type of derivations for each part of the grammar

    sum      := product (('+' | '-') product)*
    product  := signed (('*' | '/') signed)*
    signed   := ('+' | '-') signed | power
    power    := primary ('^' signed)?
    primary  := number | '(' sum ')' | name '(' sum ')'

Sums and products grow to the right, so their operators associate to the left.  A derivation has
its tokens, its value and its `nesting`, and the formula that stands for it has the same value.
-/

namespace CommandTemplate.Calculator

mutual

inductive Sum where
  | product (product : Product)
  | plus (left : Sum) (right : Product)
  | minus (left : Sum) (right : Product)

inductive Product where
  | signed (signed : Signed)
  | times (left : Product) (right : Signed)
  | over (left : Product) (right : Signed)

inductive Signed where
  | positive (body : Signed)
  | negative (body : Signed)
  | power (power : Power)

inductive Power where
  | primary (primary : Primary)
  | raised (base : Primary) (exponent : Signed)

/-- The names of functions are only those that are known. -/
inductive Primary where
  | number (value : Float)
  | group (sum : Sum)
  | call (function : Function) (argument : Sum)

end

/-- The name of a function as a token has it. -/
def Function.name : Function → String
  | .sqrt => "sqrt"
  | .sin => "sin"
  | .cos => "cos"
  | .tan => "tan"

/-- A function is found by its own name only. -/
theorem Function.ofName?_eq_some {name : String} {function : Function}
    (h : Function.ofName? name = some function) : name = function.name := by
  unfold ofName? at h
  split at h <;> cases h <;> rfl

@[simp] theorem Function.ofName?_name (function : Function) :
    Function.ofName? function.name = some function := by
  cases function <;> rfl

/-! ### Tokens -/

/-- Tokens without their positions. -/
def unplaced (s : List Placed) : List Token :=
  s.map Prod.fst

@[simp] theorem unplaced_cons (token : Token) (position : Nat) (s : List Placed) :
    unplaced ((token, position) :: s) = token :: unplaced s := rfl

mutual

def Sum.tokens : Sum → List Token
  | .product product => product.tokens
  | .plus left right => left.tokens ++ .plus :: right.tokens
  | .minus left right => left.tokens ++ .minus :: right.tokens

def Product.tokens : Product → List Token
  | .signed signed => signed.tokens
  | .times left right => left.tokens ++ .star :: right.tokens
  | .over left right => left.tokens ++ .slash :: right.tokens

def Signed.tokens : Signed → List Token
  | .positive body => .plus :: body.tokens
  | .negative body => .minus :: body.tokens
  | .power power => power.tokens

def Power.tokens : Power → List Token
  | .primary primary => primary.tokens
  | .raised base exponent => base.tokens ++ .caret :: exponent.tokens

def Primary.tokens : Primary → List Token
  | .number value => [.number value]
  | .group sum => .opening :: (sum.tokens ++ [.closing])
  | .call function argument =>
    .name function.name :: .opening :: (argument.tokens ++ [.closing])

end

/-! ### Nesting -/

mutual

/-- The greatest number of signs, exponents, parentheses and arguments of functions that lie
around one signed part. -/
def Sum.nesting : Sum → Nat
  | .product product => product.nesting
  | .plus left right | .minus left right => max left.nesting right.nesting

def Product.nesting : Product → Nat
  | .signed signed => signed.nesting
  | .times left right | .over left right => max left.nesting right.nesting

def Signed.nesting : Signed → Nat
  | .positive body | .negative body => body.nesting + 1
  | .power power => power.nesting

def Power.nesting : Power → Nat
  | .primary primary => primary.nesting
  | .raised base exponent => max base.nesting (exponent.nesting + 1)

def Primary.nesting : Primary → Nat
  | .number _ => 0
  | .group sum => sum.nesting + 1
  | .call _ argument => argument.nesting + 1

end

/-! ### Values -/

mutual

def Sum.value : Sum → Float
  | .product product => product.value
  | .plus left right => left.value + right.value
  | .minus left right => left.value - right.value

def Product.value : Product → Float
  | .signed signed => signed.value
  | .times left right => left.value * right.value
  | .over left right => left.value / right.value

def Signed.value : Signed → Float
  | .positive body => body.value
  | .negative body => -body.value
  | .power power => power.value

def Power.value : Power → Float
  | .primary primary => primary.value
  | .raised base exponent => base.value.pow exponent.value

def Primary.value : Primary → Float
  | .number value => value
  | .group sum => sum.value
  | .call function argument => function.apply argument.value

end

mutual

/-- The formula that stands for a derivation. -/
def Sum.formula : Sum → Formula
  | .product product => product.formula
  | .plus left right => .binary .add left.formula right.formula
  | .minus left right => .binary .sub left.formula right.formula

def Product.formula : Product → Formula
  | .signed signed => signed.formula
  | .times left right => .binary .mul left.formula right.formula
  | .over left right => .binary .div left.formula right.formula

def Signed.formula : Signed → Formula
  | .positive body => body.formula
  | .negative body => .negate body.formula
  | .power power => power.formula

def Power.formula : Power → Formula
  | .primary primary => primary.formula
  | .raised base exponent => .binary .pow base.formula exponent.formula

def Primary.formula : Primary → Formula
  | .number value => .number value
  | .group sum => sum.formula
  | .call function argument => .apply function argument.formula

end

mutual

/-- The formula of a derivation has its value. -/
theorem Sum.value_formula : ∀ d : Sum, d.formula.value = d.value
  | .product product => product.value_formula
  | .plus left right => by
    rw [Sum.formula, Formula.value, left.value_formula, right.value_formula]
    rfl
  | .minus left right => by
    rw [Sum.formula, Formula.value, left.value_formula, right.value_formula]
    rfl

theorem Product.value_formula : ∀ d : Product, d.formula.value = d.value
  | .signed signed => signed.value_formula
  | .times left right => by
    rw [Product.formula, Formula.value, left.value_formula, right.value_formula]
    rfl
  | .over left right => by
    rw [Product.formula, Formula.value, left.value_formula, right.value_formula]
    rfl

theorem Signed.value_formula : ∀ d : Signed, d.formula.value = d.value
  | .positive body => body.value_formula
  | .negative body => congrArg (-·) body.value_formula
  | .power power => power.value_formula

theorem Power.value_formula : ∀ d : Power, d.formula.value = d.value
  | .primary primary => primary.value_formula
  | .raised base exponent => by
    rw [Power.formula, Formula.value, base.value_formula, exponent.value_formula]
    rfl

theorem Primary.value_formula : ∀ d : Primary, d.formula.value = d.value
  | .number _ => rfl
  | .group sum => sum.value_formula
  | .call function argument => congrArg function.apply argument.value_formula

end

/-- The first token of a part that is no sum or product is no sign. -/
theorem Primary.tokens_eq_cons (d : Primary) :
    ∃ token back, d.tokens = token :: back ∧ token.sumOperator? = none := by
  cases d <;> exact ⟨_, _, rfl, rfl⟩

/-- A power starts as its primary part does. -/
theorem Power.tokens_eq_cons (d : Power) :
    ∃ token back, d.tokens = token :: back ∧ token.sumOperator? = none := by
  cases d with
  | primary primary => exact primary.tokens_eq_cons
  | raised base exponent =>
    obtain ⟨token, back, hbase, htoken⟩ := base.tokens_eq_cons
    exact ⟨token, back ++ .caret :: exponent.tokens, by rw [tokens, hbase]; rfl, htoken⟩

end CommandTemplate.Calculator
