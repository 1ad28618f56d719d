/-!
Binary floating-point numbers of 64 bits, read from and written as decimals.

A finite number is `m * 2 ^ q` with `m < 2 ^ 53`.  `Decimal.toBits` rounds a decimal to the
nearest such number, an exact half to the even `m`.  `shortest` goes the other way: of the
decimals that round to a number it takes one with the fewest digits, and of these the one
nearest to the number.  Both work on natural numbers alone, so nothing is lost on the way.
-/

namespace CommandTemplate.Number

/-- The decimal `digits * 10 ^ exponent`. -/
structure Decimal where
  digits : Nat
  exponent : Int
  deriving Repr, DecidableEq

namespace Decimal

/-- The decimal as a fraction. -/
def fraction (d : Decimal) : Nat × Nat :=
  if 0 ≤ d.exponent then (d.digits * Nat.pow 10 d.exponent.toNat, 1)
  else (d.digits, Nat.pow 10 (-d.exponent).toNat)

end Decimal

/-- The bits of infinity. -/
def infinityBits : Nat := 0x7FF0000000000000

/-- A fraction in units of `2 ^ q`, as a fraction. -/
def scaled (num den : Nat) (q : Int) : Nat × Nat :=
  if 0 ≤ q then (num, den * Nat.pow 2 q.toNat) else (num * Nat.pow 2 (-q).toNat, den)

/-- A fraction rounded to the nearest whole number, a half to the even one. -/
def roundHalfEven (num den : Nat) : Nat :=
  let whole := num / den
  let twice := 2 * (num % den)
  if twice < den ∨ (twice = den ∧ whole % 2 = 0) then whole else whole + 1

/-- The bits of the floating-point number nearest to a positive fraction. -/
def bitsOfFraction (num den : Nat) : Nat :=
  let q : Int := max ((num.log2 : Int) - den.log2 - 53) (-1074)
  let low := scaled num den q
  let q := if low.1 / low.2 < Nat.pow 2 53 then q else q + 1
  let exact := scaled num den q
  min infinityBits ((q + 1074).toNat * Nat.pow 2 52 + roundHalfEven exact.1 exact.2)

/-- The bits of the floating-point number nearest to a decimal.  Decimals beyond the range of
the exponent are cut off before their powers of ten are computed. -/
def Decimal.toBits (d : Decimal) : Nat :=
  let size : Int := (toString d.digits).length + d.exponent
  if d.digits = 0 ∨ size < -330 then 0
  else if 310 < size then infinityBits
  else bitsOfFraction d.fraction.1 d.fraction.2

/-- The floating-point number nearest to a decimal with a sign. -/
def ofDecimal (negative : Bool) (d : Decimal) : Float :=
  Float.ofBits (d.toBits + if negative then Nat.pow 2 63 else 0).toUInt64

/-! ### The shortest decimal -/

/-- The significand and the exponent of a finite number without its sign. -/
def significand (bits : Nat) : Nat × Int :=
  let field : Nat := bits / Nat.pow 2 52 % Nat.pow 2 11
  let rest : Nat := bits % Nat.pow 2 52
  if field = 0 then (rest, -1074) else (rest + Nat.pow 2 52, (field : Int) - 1075)

/-- A positive number and the ends of the interval of the reals that round to it, over one
denominator. -/
structure Surroundings where
  low : Nat
  value : Nat
  high : Nat
  denominator : Nat
  /-- Do the ends round to the number too? -/
  closed : Bool

/-- The surroundings of a positive finite number: the ends lie half-way to its neighbours, of
which the lower one is nearer at a power of two. -/
def surroundings (bits : Nat) : Surroundings :=
  let (m, q) := significand bits
  let below := if m = Nat.pow 2 52 ∧ q ≠ -1074 then 1 else 2
  let unit := if 0 ≤ q then Nat.pow 2 q.toNat else 1
  let denominator := if 0 ≤ q then 4 else 4 * Nat.pow 2 (-q).toNat
  ⟨(4 * m - below) * unit, 4 * m * unit, (4 * m + 2) * unit, denominator, m % 2 == 0⟩

/-- Which of two decimals is taken that are equally near to a number. -/
inductive HalfWay where
  | up
  | even
  deriving Repr, DecidableEq

namespace Surroundings

/-- Does the fraction `n / d` round to the number? -/
def holds (s : Surroundings) (n d : Nat) : Bool :=
  let n := n * s.denominator
  if s.closed then s.low * d ≤ n && n ≤ s.high * d else s.low * d < n && n < s.high * d

/-- The decimal on the grid of `10 ^ exponent` that is nearest to the number, if one there
rounds to it. -/
def onGrid (half : HalfWay) (s : Surroundings) (exponent : Int) : Option Decimal :=
  let up := if 0 ≤ exponent then Nat.pow 10 exponent.toNat else 1
  let down := if 0 ≤ exponent then 1 else Nat.pow 10 (-exponent).toNat
  let n := s.value * down / (s.denominator * up)
  let lower := s.holds (n * up) down
  let upper := s.holds ((n + 1) * up) down
  let middle := (2 * n + 1) * up * s.denominator
  let nearUpper := middle < 2 * s.value * down
    ∨ (middle = 2 * s.value * down ∧ (half = .up ∨ n % 2 = 1))
  if upper ∧ (nearUpper ∨ ¬lower) then some ⟨n + 1, exponent⟩
  else if lower then some ⟨n, exponent⟩
  else none

/-- The exponent of the first decimal digit. -/
def magnitude (s : Surroundings) : Int :=
  let guess : Int := ((s.value.log2 : Int) - s.denominator.log2) * 30103 / 100000
  let reaches (e : Int) : Bool :=
    if 0 ≤ e then s.denominator * Nat.pow 10 e.toNat ≤ s.value
    else s.denominator ≤ s.value * Nat.pow 10 (-e).toNat
  if reaches (guess + 1) then guess + 1 else if reaches guess then guess else guess - 1

end Surroundings

/-- The decimal with the fewest digits that rounds to a positive finite number; of several
the nearest to it, and of two equally near ones that which `half` names.  The first grid is the
one above the leading digit, whose only candidate is the next power of ten. -/
def shortest (half : HalfWay) (bits : Nat) : Decimal :=
  let s := surroundings bits
  let e := s.magnitude
  ((List.range 18).findSome? fun (n : Nat) => s.onGrid half (e + 1 - (n : Int))).getD ⟨0, 0⟩

end CommandTemplate.Number
