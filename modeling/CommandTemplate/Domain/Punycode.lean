/-!
Punycode: the form of labels in ASCII letters, digits and hyphens.

The ASCII characters of a label come first, with a hyphen behind them.  Then every other
character is inserted, by ascending code points: a number tells how many places to pass on, where
one passes all places of the text once for each code point.  The digits of a number have weights
that depend on the numbers before (`adapt`), and a digit below a threshold is the last one.
-/

namespace CommandTemplate.Domain.Punycode

/-- The number of digits. -/
def base : Nat := 36

/-- The value of a digit: the letters of either case, then the decimal digits. -/
def digit? (c : Char) : Option Nat :=
  if c.isAlpha then some (c.toLower.toNat - 'a'.toNat)
  else if c.isDigit then some (c.toNat - '0'.toNat + 26)
  else none

/-- The number if it fits into a word of 32 bits. -/
def word? (n : Nat) : Option Nat :=
  if n < 4294967296 then some n else none

/-- A digit below the threshold is the last one of a number.  `position` is the number of the
digit times the base. -/
def threshold (position bias : Nat) : Nat :=
  if position ≤ bias then 1 else if bias + 26 ≤ position then 26 else position - bias

/-- Divides a distance until it is small, and counts the divisions in `position`. -/
def reduce (position distance : Nat) : Nat × Nat :=
  if 455 < distance then reduce (position + base) (distance / 35) else (position, distance)
termination_by distance
decreasing_by exact Nat.div_lt_self (by omega) (by omega)

/-- The bias for the next number, after a distance in a text of `size` characters. -/
def adapt (distance size : Nat) (isFirst : Bool) : Nat :=
  let distance := distance / (if isFirst then 700 else 2)
  let (position, distance) := reduce 0 (distance + distance / size)
  position + base * distance / (distance + 38)

/-- Adds the number at the start of a text to `sum`, and gives what follows it. -/
def addNumber? (bias position weight sum : Nat) (s : List Char) :
    Option { r : Nat × List Char // r.2.length < s.length } :=
  match s with
  | [] => none
  | c :: s => do
    let digit ← digit? c
    let sum ← word? (sum + digit * weight)
    let last := threshold position bias
    if digit < last then some ⟨(sum, s), by simp⟩
    else
      let weight ← word? (weight * (base - last))
      let ⟨r, shorter⟩ ← addNumber? bias (position + base) weight sum s
      some ⟨r, Nat.lt_succ_of_lt shorter⟩

/-- A text in which characters are inserted. -/
structure Insertion where
  text : List Char
  /-- The code point that is inserted at present. -/
  code : Nat
  /-- The place behind the last insertion. -/
  place : Nat
  bias : Nat
  deriving Repr

/-- Nothing is inserted yet. -/
def Insertion.start (text : List Char) : Insertion :=
  ⟨text, 128, 0, 72⟩

/-- Inserts one character, where `sum` places are passed from the start at the present code
point. -/
def Insertion.insert? (state : Insertion) (sum : Nat) : Option Insertion :=
  let size := state.text.length + 1
  let code := state.code + sum / size
  let place := sum % size
  if code < 0xD800 ∨ (0xDFFF < code ∧ code < 0x110000) then
    some
      { text := state.text.insertIdx place (Char.ofNat code)
        code
        place := place + 1
        bias := adapt (sum - state.place) size (state.place = 0) }
  else none

/-- The text after all insertions. -/
def Insertion.insertAll? (state : Insertion) (s : List Char) : Option (List Char) :=
  if s = [] then some state.text
  else do
    let ⟨(sum, rest), _⟩ ← addNumber? state.bias base 1 state.place s
    (← state.insert? sum).insertAll? rest
termination_by s.length

/-- The text that a label stands for. -/
def decode? (s : List Char) : Option (List Char) :=
  let numbers := (s.reverse.takeWhile (· ≠ '-')).reverse
  let ascii := s.take (s.length - numbers.length - 1)
  if ascii = [] then (Insertion.start []).insertAll? s
  else if ascii.all (·.toNat < 128) then (Insertion.start ascii).insertAll? numbers
  else none

end CommandTemplate.Domain.Punycode
