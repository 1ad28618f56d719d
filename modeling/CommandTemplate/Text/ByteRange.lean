import CommandTemplate.Text.CodeSet

/-!
Ranges of characters as ranges of bytes.

A character takes one to four bytes.  Once a range of characters is cut at the lengths of
encodings and at the ends of blocks of 64, 4096 and 262144 characters, the encodings of each
part are all the ways to choose one byte from each of some ranges.  `CodeSet.sequences` lists
these ranges for every part of a set.
-/

namespace CommandTemplate.Text

/-- The bytes from `low` to `high`. -/
structure ByteRange where
  low : Nat
  high : Nat
  deriving Repr, DecidableEq

namespace ByteRange

/-- The bytes of the encoding of a code point. -/
def encode (n : Nat) : List Nat :=
  let tail (k : Nat) : Nat := 0x80 + k % 64
  if n < 0x80 then [n]
  else if n < 0x800 then [0xC0 + n / 64, tail n]
  else if n < 0x10000 then [0xE0 + n / 4096, tail (n / 64), tail n]
  else [0xF0 + n / 262144, tail (n / 4096), tail (n / 64), tail n]

/-- The parts of a range that do not lie in `low` to `high`. -/
def leaveOut (low high : Nat) (r : Nat × Nat) : List (Nat × Nat) :=
  if r.1 ≤ high ∧ low ≤ r.2 then
    [(r.1, low - 1), (high + 1, r.2)].filter fun part => part.1 ≤ part.2
  else [r]

/-- The parts of a range in front of `n` and from `n` on. -/
def cutAt (n : Nat) (r : Nat × Nat) : List (Nat × Nat) :=
  if r.1 < n ∧ n ≤ r.2 then [(r.1, n - 1), (n, r.2)] else [r]

/-- The parts of a range, each of which lies in one block or fills several ones. -/
def cutBlocks (size : Nat) (r : Nat × Nat) : List (Nat × Nat) :=
  let first := (r.1 + size - 1) / size * size
  let last := (r.2 + 1) / size * size
  if r.1 / size = r.2 / size then [r]
  else (cutAt first r).flatMap (cutAt last)

/-- The parts of a range whose encodings are choices from ranges of bytes. -/
def parts (r : Nat × Nat) : List (Nat × Nat) :=
  let parts := leaveOut 0xD800 0xDFFF r
  let parts := ([0x80, 0x800, 0x10000].foldl fun parts n => parts.flatMap (cutAt n)) parts
  parts.flatMap fun part =>
    if part.2 < 0x80 then [part]
    else ([64, 4096, 262144].foldl fun parts size => parts.flatMap (cutBlocks size)) [part]

/-- The ranges of bytes from which the encodings of a part are chosen. -/
def sequence (part : Nat × Nat) : List ByteRange :=
  (encode part.1).zipWith ByteRange.mk (encode part.2)

end ByteRange

/-- For each part of a set the ranges from which its encodings are chosen. -/
def CodeSet.sequences (s : CodeSet) : List (List ByteRange) :=
  (s.ranges.flatMap ByteRange.parts).map ByteRange.sequence

end CommandTemplate.Text
