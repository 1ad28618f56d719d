/-!
Sets of characters, kept as ranges of code points.

A `CodeSet` is a list of ranges in ascending order that neither overlap nor touch.
`CodeSet.ofRanges` brings any list of ranges into this form; the union appends, and the other
operations cut ranges.  The ends of a range are characters, so `after` and `before`, which
step over one of its ends, pass by the surrogates.  `CodeSet.ofText` reads the notation in
which the tables of this library are written: hexadecimal code points, ranges of them, and
ranges with a stride (`100-12e/2` is every second one), with a space in between.
-/

namespace CommandTemplate.Text

/-- The value of a hexadecimal digit. -/
def hexDigit? (c : Char) : Option Nat :=
  if '0' ≤ c ∧ c ≤ '9' then some (c.toNat - '0'.toNat)
  else if 'a' ≤ c ∧ c ≤ 'f' then some (c.toNat - 'a'.toNat + 10)
  else if 'A' ≤ c ∧ c ≤ 'F' then some (c.toNat - 'A'.toNat + 10)
  else none

/-- The number that hexadecimal digits write. -/
def readHex? (digits : List Char) : Option Nat :=
  digits.foldlM (fun n c => (hexDigit? c).map (16 * n + ·)) 0

/-- The words of a table text, between which there are spaces and ends of lines. -/
def tableWords (text : String) : List (List Char) :=
  (text.toList.splitOnP fun c => c = ' ' || c = '\n').filter (· ≠ [])

/-- A set of code points, as ascending ranges with gaps between them. -/
structure CodeSet where
  ranges : List (Nat × Nat)
  deriving Repr, DecidableEq, Inhabited

namespace CodeSet

/-- The largest code point. -/
def top : Nat := 0x10FFFF

/-- Joins a range with those of an ascending list that it reaches. -/
def joinInto (r : Nat × Nat) : List (Nat × Nat) → List (Nat × Nat)
  | [] => [r]
  | s :: rest =>
    if s.1 ≤ r.2 + 1 then joinInto (r.1, max r.2 s.2) rest else r :: joinInto s rest

/-- Joins the ranges of an ascending list where they overlap or touch. -/
def join : List (Nat × Nat) → List (Nat × Nat)
  | [] => []
  | r :: rest => joinInto r rest

/-- The set of the code points of any ranges. -/
def ofRanges (ranges : List (Nat × Nat)) : CodeSet :=
  ⟨join ((ranges.filter fun r => r.1 ≤ r.2).mergeSort fun a b => a.1 ≤ b.1)⟩

/-- The set of some characters. -/
def ofChars (cs : List Char) : CodeSet :=
  ofRanges (cs.map fun c => (c.toNat, c.toNat))

/-- The characters from `lo` to `hi`. -/
def range (lo hi : Char) : CodeSet :=
  ofRanges [(lo.toNat, hi.toNat)]

/-- Is `n` in one of some ascending ranges? -/
def inRanges (n : Nat) : List (Nat × Nat) → Bool
  | [] => false
  | (lo, hi) :: rest => lo ≤ n && (n ≤ hi || inRanges n rest)

/-- Is the character in the set? -/
def has (s : CodeSet) (c : Char) : Bool :=
  inRanges c.toNat s.ranges

def empty : CodeSet := ⟨[]⟩

/-- Every character. -/
def all : CodeSet := ⟨[(0, top)]⟩

def union (s t : CodeSet) : CodeSet :=
  ofRanges (s.ranges ++ t.ranges)

/-- The code point that follows one, past the surrogates. -/
def after (n : Nat) : Nat :=
  if n = 0xD7FF then 0xE000 else n + 1

/-- The code point in front of one, past the surrogates. -/
def before (n : Nat) : Nat :=
  if n = 0xE000 then 0xD7FF else n - 1

/-- The range between two code points, whichever is the smaller one. -/
def between (a b : Nat) : Nat × Nat :=
  (min a b, max a b)

/-- The gaps behind a range that ends at `hi`, in front of, between and behind ascending ranges. -/
def gapsAfter (hi : Nat) : List (Nat × Nat) → List (Nat × Nat)
  | [] => if hi < top then [(after hi, top)] else []
  | (low, high) :: rest => between (after hi) (before low) :: gapsAfter high rest

/-- Every character that is not in the set.  Two ranges that meet around the surrogates leave
the two characters there in the complement. -/
def complement (s : CodeSet) : CodeSet :=
  match s.ranges with
  | [] => all
  | (low, high) :: rest =>
    ofRanges ((if 0 < low then [(0, before low)] else []) ++ gapsAfter high rest)

/-- The common parts of two lists of ascending ranges. -/
def common : List (Nat × Nat) → List (Nat × Nat) → List (Nat × Nat)
  | [], _ | _, [] => []
  | (a, b) :: s, (c, d) :: t =>
    (max a c, min b d) :: if b < d then common s ((c, d) :: t) else common ((a, b) :: s) t

/-- The characters in both sets. -/
def inter (s t : CodeSet) : CodeSet :=
  ofRanges (common s.ranges t.ranges)

/-- The parts of a range outside of ascending ranges. -/
def outside (low high : Nat) : List (Nat × Nat) → List (Nat × Nat)
  | [] => [(low, high)]
  | (c, d) :: t =>
    if d < low then outside low high t
    else if high < c then [(low, high)]
    else
      (if low < c then [(low, before c)] else [])
        ++ if d < high then outside (after d) high t else []

/-- The characters of the first set that are not in the second one. -/
def diff (s t : CodeSet) : CodeSet :=
  ofRanges (s.ranges.flatMap fun (low, high) => outside low high t.ranges)

/-- The characters that are in exactly one of the two sets. -/
def symmDiff (s t : CodeSet) : CodeSet :=
  (s.union t).diff (s.inter t)

/-- Are all members ASCII characters? -/
def isAscii (s : CodeSet) : Bool :=
  s.ranges.all fun r => r.2 < 128

end CodeSet

/-- Code points at equal distances: every `stride`-th one from `first` to `last`. -/
structure Span where
  first : Nat
  last : Nat
  stride : Nat
  deriving Repr

namespace Span

/-- Reads one word of a table: a code point, a range of them, or a range with a stride. -/
def ofWord? (word : List Char) : Option Span := do
  let (codes, stride) ← match word.splitOn '/' with
    | [codes] => pure (codes, 1)
    | [codes, stride] => pure (codes, ← readHex? stride)
    | _ => none
  match codes.splitOn '-' with
  | [one] => (readHex? one).map fun n => ⟨n, n, stride⟩
  | [first, last] => return ⟨← readHex? first, ← readHex? last, stride⟩
  | _ => none

/-- Is the code point one of the span? -/
def has (span : Span) (n : Nat) : Bool :=
  span.first ≤ n && n ≤ span.last && (n - span.first) % span.stride = 0

/-- The code points of a span. -/
def toList (span : Span) : List Nat :=
  (List.range ((span.last - span.first) / span.stride + 1)).map (span.first + · * span.stride)

/-- The code points of a span as ranges. -/
def ranges (span : Span) : List (Nat × Nat) :=
  if span.stride = 1 then [(span.first, span.last)] else span.toList.map fun n => (n, n)

end Span

/-- The set that a table text writes. -/
def CodeSet.ofText (text : String) : CodeSet :=
  .ofRanges (((tableWords text).filterMap Span.ofWord?).flatMap Span.ranges)

end CommandTemplate.Text
