import CommandTemplate.Number.Binary64
import CommandTemplate.Number.Integer

/-!
Decimal notation of floating-point numbers.

`readFloat?` reads a number with an optional point and an optional power of ten.  The
digits of a number are always those of its shortest decimal; the layouts differ in where
the point goes.  `positional` never writes a power of ten, `dotted` keeps a fraction even
of whole numbers, and `scientific` writes very large and very small numbers with a power
of ten.
-/

namespace CommandTemplate.Number

/-! ### Reading -/

/-- What follows a mark for a power of ten: a sign and digits up to the end. -/
def readExponent? : List Char → Option Int
  | [] => some 0
  | c :: s => if c = 'e' ∨ c = 'E' then readInt? s else none

/-- A number without a sign: digits with an optional point and an optional power of ten. -/
def readDecimal? (s : List Char) : Option Decimal :=
  let (whole, s) := s.span Char.isDigit
  let (places, s) := match s with
    | '.' :: s => s.span Char.isDigit
    | s => ([], s)
  if whole = [] ∧ places = [] then none
  else (readExponent? s).map fun e => ⟨ofDigits (whole ++ places), e - places.length⟩

/-- The names of the values that are no numbers, without a sign. -/
def readSpecial? (s : List Char) : Option Float :=
  match String.ofList (s.map Char.toLower) with
  | "inf" | "infinity" => some (1.0 / 0.0)
  | "nan" => some (0.0 / 0.0)
  | _ => none

/-- A floating-point number with an optional sign. -/
def readFloat? (s : List Char) : Option Float :=
  let (negative, s) := match s with
    | '-' :: s => (true, s)
    | '+' :: s => (false, s)
    | s => (false, s)
  match readDecimal? s with
  | some d => some (ofDecimal negative d)
  | none => (readSpecial? s).map fun x => if negative then -x else x

/-! ### Writing -/

/-- The sign bit of a number. -/
def isNegative (x : Float) : Bool :=
  Nat.pow 2 63 ≤ x.toBits.toNat

/-- The bits of a number without its sign. -/
def magnitudeBits (x : Float) : Nat :=
  x.toBits.toNat % Nat.pow 2 63

/-- The shortest decimal of a finite number without its sign. -/
def decimalOf (half : HalfWay) (bits : Nat) : Decimal :=
  if bits = 0 then ⟨0, 0⟩ else shortest half bits

namespace Decimal

/-- The digits of the whole part and those after the point. -/
def parts (d : Decimal) : List Char × List Char :=
  let digits := (toString d.digits).toList
  if 0 ≤ d.exponent then
    (if d.digits = 0 then digits else digits ++ List.replicate d.exponent.toNat '0', [])
  else
    let places := (-d.exponent).toNat
    let digits := List.replicate (places + 1 - digits.length) '0' ++ digits
    digits.splitAt (digits.length - places)

/-- Digits with a point in front of those after it, if there are any. -/
def positional (d : Decimal) : String :=
  match d.parts with
  | (whole, []) => String.ofList whole
  | (whole, places) => String.ofList (whole ++ '.' :: places)

/-- As `positional`, with a zero after the point of a whole number. -/
def dotted (d : Decimal) : String :=
  match d.parts with
  | (whole, []) => String.ofList (whole ++ ['.', '0'])
  | (whole, places) => String.ofList (whole ++ '.' :: places)

/-- The power of ten of the first digit. -/
def leading (d : Decimal) : Int :=
  (toString d.digits).length + d.exponent - 1

/-- The first digit, the others after a point, and the power of ten with its sign. -/
def withPower (d : Decimal) : String :=
  let digits := match (toString d.digits).toList with
    | c :: rest@(_ :: _) => c :: '.' :: rest
    | digits => digits
  let power := d.leading
  String.ofList digits ++ "e" ++ (if 0 ≤ power then "+" else "-") ++ toString power.natAbs

/-- A power of ten where the first digit stands beyond the sixteenth place before the point
or the fifth after it, and otherwise as `dotted`. -/
def scientific (d : Decimal) : String :=
  if d.digits = 0 ∨ (-5 ≤ d.leading ∧ d.leading ≤ 15) then d.dotted else d.withPower

end Decimal

/-- A number in a layout for finite numbers without their sign. -/
def write (half : HalfWay) (layout : Decimal → String) (x : Float) : String :=
  if x.isNaN then "NaN"
  else
    let sign := if isNegative x then "-" else ""
    if x.isInf then sign ++ "inf" else sign ++ layout (decimalOf half (magnitudeBits x))

/-- A number without a power of ten, as short as it reads back. -/
def display (x : Float) : String :=
  write .up Decimal.positional x

end CommandTemplate.Number
