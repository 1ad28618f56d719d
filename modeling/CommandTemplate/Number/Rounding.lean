import CommandTemplate.Number.Notation
import CommandTemplate.Text.Blank
import CommandTemplate.Text.Casing

/-!
Rounding decimals.

A number is rounded as the shortest decimal that it is written as, so `2.345` counts as
half-way between `2.34` and `2.35`.  `RoundingMode.awayFromZero` decides between the two
neighbours of a decimal, and `roundText?` reads, rounds and writes.
-/

namespace CommandTemplate

/-- Which of the two neighbours a decimal is rounded to. -/
inductive RoundingMode where
  /-- The nearer one, a tie away from zero. -/
  | halfUp
  /-- The nearer one, a tie towards zero. -/
  | halfDown
  /-- The nearer one, a tie to the even last digit. -/
  | halfEven
  /-- Away from zero. -/
  | up
  /-- Towards zero. -/
  | down
  | ceil
  | floor
  deriving Repr, DecidableEq

namespace RoundingMode

/-- The mode with a name; half up without a known one. -/
def ofName (name : String) : RoundingMode :=
  match Text.lower (Text.trim name) with
  | "half-down" | "halfdown" => .halfDown
  | "half-even" | "halfeven" => .halfEven
  | "up" => .up
  | "down" => .down
  | "ceil" | "ceiling" => .ceil
  | "floor" => .floor
  | _ => .halfUp

/-- Is a number rounded away from zero whose kept digits are `kept`, and whose dropped ones
are `dropped` of `unit`? -/
def awayFromZero (mode : RoundingMode) (negative : Bool) (kept dropped unit : Nat) : Bool :=
  match mode with
  | .up => dropped != 0
  | .down => false
  | .ceil => dropped != 0 && !negative
  | .floor => dropped != 0 && negative
  | .halfUp => unit ≤ 2 * dropped
  | .halfDown => unit < 2 * dropped
  | .halfEven => unit < 2 * dropped || (unit == 2 * dropped && kept % 2 == 1)

end RoundingMode

namespace Number

/-- The most digits after the point that are kept or filled up. -/
def maxPlaces : Nat := 340

/-- The number of digits after the point of a decimal. -/
def Decimal.places (d : Decimal) : Nat :=
  (-d.exponent).toNat

/-- The digits of a decimal without the point. -/
def Decimal.units (d : Decimal) : Nat :=
  d.digits * Nat.pow 10 d.exponent.toNat

/-- A decimal rounded to a number of places, as a number of units in the last place; a decimal
with fewer places stays as it is. -/
def Decimal.round (mode : RoundingMode) (negative : Bool) (places : Nat) (d : Decimal) : Nat :=
  let unit := Nat.pow 10 (d.places - places)
  let kept := d.units / unit
  if mode.awayFromZero negative kept (d.units % unit) unit then kept + 1 else kept

/-- The digits after the point without zeros at their end, but at least `least` of them. -/
def fitPlaces (least : Nat) (digits : List Char) : List Char :=
  let digits := Text.dropEndWhile (· == '0') digits
  digits ++ List.replicate (least - digits.length) '0'

/-- A number of units of `10 ^ -places` with at least `least` digits after the point. -/
def fixedText (units places least : Nat) : String :=
  let whole := toString (units / Nat.pow 10 places)
  let digits := if places = 0 then [] else (padded places (units % Nat.pow 10 places)).toList
  match fitPlaces least digits with
  | [] => whole
  | digits => whole ++ "." ++ String.ofList digits

/-- The number that a text writes, rounded to `most` places and written with at least `least`
of them. -/
def roundText? (mode : RoundingMode) (most least : Nat) (text : String) : Option String := do
  let x ← readFloat? (Text.trimChars text.toList)
  if x.isNaN || x.isInf then none
  let d := decimalOf .up (magnitudeBits x)
  let most := min most maxPlaces
  let units := d.round mode (isNegative x) most
  let written := fixedText units (min d.places most) (min least maxPlaces)
  return if isNegative x && units != 0 then "-" ++ written else written

end Number

end CommandTemplate
