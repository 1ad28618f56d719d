import CommandTemplate.Domain.Direction
import CommandTemplate.Domain.Label
import CommandTemplate.Number.Integer

/-!
Domains: names of computers, and addresses of four bytes.

A domain is a list of labels with dots in between.  A domain whose last label is a number must
be an address of four bytes; the last number of such an address fills the bytes that are left.
-/

namespace CommandTemplate.Domain

open Text

/-- The labels of a domain as they are shown, if each of them is one and all keep their order. -/
def labels? (s : List Char) : Option (List (List Char)) := do
  let labels ← ((composed (← imageOfText? s)).splitOn '.').mapM readLabel?
  if keepsOrder labels then some labels else none

/-- The labels without an empty one at the end, unless there is no other. -/
def withoutRoot (labels : List (List Char)) : List (List Char) :=
  if labels.length ≠ 1 ∧ labels.getLast? = some [] then labels.dropLast else labels

/-- A number in an address of four bytes: decimal, octal after a zero, or hexadecimal. -/
def readByteGroup? (s : List Char) : Option Nat :=
  let inBase (base : Nat) (digits : List Char) : Option Nat :=
    digits.foldlM (fun n c => do
      let d ← hexDigit? c
      if d < base then some (base * n + d) else none) 0
  match s with
  | [] => none
  | '0' :: 'x' :: digits | '0' :: 'X' :: digits => inBase 16 digits
  | '0' :: c :: digits => inBase 8 (c :: digits)
  | digits => inBase 10 digits

/-- Must a domain with these labels be an address of four bytes? -/
def endsInNumber (labels : List (List Char)) : Bool :=
  match labels.getLast? with
  | none => false
  | some label =>
    (label ≠ [] && label.all Char.isDigit)
      || match label with
        | '0' :: x :: _ => (x = 'x' || x = 'X') && (readByteGroup? label).isSome
        | _ => false

/-- Are the labels at most four numbers, of which the last one fills what is left? -/
def isByteAddress (labels : List (List Char)) : Bool :=
  match labels.mapM readByteGroup? with
  | none => false
  | some numbers =>
    numbers.length ≤ 4 && numbers.dropLast.all (· < 256)
      && (numbers.getLast?.getD 0) < Nat.pow 256 (5 - numbers.length)

/-- Is the text a domain or an address of four bytes? -/
def isDomain (s : List Char) : Bool :=
  match labels? s with
  | none => false
  | some labels =>
    labels ≠ [[]]
      && (!endsInNumber (withoutRoot labels) || isByteAddress (withoutRoot labels))

end CommandTemplate.Domain
