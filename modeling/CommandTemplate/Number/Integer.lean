/-!
Whole numbers in decimal notation.

`readNat?` takes digits after an optional plus sign, `readInt?` also a minus sign; both
accept ASCII digits only.  The bounded readers refuse what does not fit in 64 bits.
-/

namespace CommandTemplate.Number

/-- The value of a list of decimal digits. -/
def ofDigits (digits : List Char) : Nat :=
  digits.foldl (fun n c => 10 * n + (c.toNat - '0'.toNat)) 0

/-- One or more decimal digits and nothing else. -/
def readDigits? (s : List Char) : Option Nat :=
  if s ≠ [] ∧ s.all Char.isDigit then some (ofDigits s) else none

/-- A whole number without a minus sign. -/
def readNat? : List Char → Option Nat
  | '+' :: digits => readDigits? digits
  | digits => readDigits? digits

/-- A whole number. -/
def readInt? : List Char → Option Int
  | '-' :: digits => (readDigits? digits).map fun n => -(n : Int)
  | s => (readNat? s).map fun n => (n : Int)

/-- Does the number fit in 64 bits with a sign? -/
def fitsSigned (n : Int) : Bool :=
  -0x8000000000000000 ≤ n && n < 0x8000000000000000

/-- A number of 64 bits without a sign. -/
def readUnsigned? (s : List Char) : Option Nat :=
  (readNat? s).filter (· < 0x10000000000000000)

/-- A number of 64 bits with a sign. -/
def readSigned? (s : List Char) : Option Int :=
  (readInt? s).filter fitsSigned

/-- Decimal digits, with zeros in front up to a width. -/
def padded (width n : Nat) : String :=
  let digits := toString n
  String.ofList (List.replicate (width - digits.length) '0') ++ digits

end CommandTemplate.Number
