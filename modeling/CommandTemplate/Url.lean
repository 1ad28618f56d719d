import CommandTemplate.Domain

/-!
Addresses of web pages.

`isWebAddress` tells whether a text is an absolute address with the scheme `http` or `https`.
After the scheme come slashes, an optional user, the host, and an optional port; what follows
may be anything.  A host is a domain, an address of four bytes, or one of eight groups in
brackets.
-/

namespace CommandTemplate.Url

/-! ### Hosts -/

/-- The value of a percent sign with two hexadecimal digits. -/
def percentByte? (a b : Char) : Option UInt8 := do
  return UInt8.ofNat (16 * (← Text.hexDigit? a) + (← Text.hexDigit? b))

/-- The bytes of a text with those behind percent signs decoded. -/
def percentDecode : List Char → List UInt8
  | [] => []
  | '%' :: a :: b :: s =>
    match percentByte? a b with
    | some byte => byte :: percentDecode s
    | none => '%'.toNat.toUInt8 :: percentDecode (a :: b :: s)
  | c :: s => c.toString.toUTF8.toList ++ percentDecode s
termination_by s => s.length

/-- Is the text a number below 256 without a superfluous zero? -/
def isStrictByte (s : List Char) : Bool :=
  match s with
  | '0' :: _ :: _ => false
  | s => match Number.readDigits? s with
    | some n => n < 256
    | none => false

/-- The number of groups that a text between colons fills, if it is a proper one. -/
def groupWidth? (isLast : Bool) (s : List Char) : Option Nat :=
  if s ≠ [] ∧ s.length ≤ 4 ∧ s.all (fun c => (Text.hexDigit? c).isSome) then some 1
  else if isLast ∧ (s.splitOn '.').length = 4 ∧ (s.splitOn '.').all isStrictByte then some 2
  else none

/-- The number of groups in a part of an address of eight groups. -/
def groupCount? (isEnd : Bool) (s : List Char) : Option Nat :=
  if s = [] then some 0
  else go (s.splitOn ':')
where
  go : List (List Char) → Option Nat
    | [] => some 0
    | [group] => groupWidth? isEnd group
    | group :: groups => do return (← groupWidth? false group) + (← go groups)

/-- The texts before and after the first double colon. -/
def splitDoubleColon : List Char → Option (List Char × List Char)
  | [] => none
  | ':' :: ':' :: s => some ([], s)
  | c :: s => (splitDoubleColon s).map fun (before, after) => (c :: before, after)

/-- Is the text an address of eight groups, of which zeros may be left out in one place? -/
def isGroupAddress (s : List Char) : Bool :=
  match splitDoubleColon s with
  | none => groupCount? true s = some 8
  | some (before, after) =>
    match groupCount? false before, groupCount? true after with
    | some m, some n => m + n ≤ 7
    | _, _ => false

/-- Do bytes encode a domain or an address of four bytes? -/
def isEncodedDomain (bytes : List UInt8) : Bool :=
  (String.fromUTF8? ⟨bytes.toArray⟩).any fun text => Domain.isDomain text.toList

/-- Is the text a host? -/
def isHost (s : List Char) : Bool :=
  match s with
  | '[' :: inner => inner.getLast? = some ']' && isGroupAddress inner.dropLast
  | s => isEncodedDomain (percentDecode s)

/-! ### Addresses -/

/-- A host up to the colon in front of a port, which stands outside of brackets. -/
def splitPort (inBrackets : Bool) : List Char → List Char × Option (List Char)
  | [] => ([], none)
  | c :: s =>
    if c = ':' ∧ ¬inBrackets then ([], some s)
    else
      let (host, port) := splitPort (c = '[' || (inBrackets && c ≠ ']')) s
      (c :: host, port)

/-- Is the text a port, which may be empty? -/
def isPort (s : List Char) : Bool :=
  s.all Char.isDigit && Number.ofDigits s < 65536

/-- Is the text a host with an optional user before and an optional port after it? -/
def isAuthority (s : List Char) : Bool :=
  let place := (s.reverse.takeWhile (· ≠ '@')).reverse
  let (host, port) := splitPort false place
  isHost host && (port.all isPort)

/-- Does a character end the host? -/
def endsAuthority (c : Char) : Bool :=
  c = '/' || c = '\\' || c = '?' || c = '#'

/-- May the character stand in a scheme after the first one? -/
def isSchemeChar (c : Char) : Bool :=
  c.isAlphanum || c = '+' || c = '-' || c = '.'

/-- Is the text an absolute address with the scheme `http` or `https`?  Control characters at
its ends do not matter, nor do line ends and tabs inside. -/
def isWebAddress (text : String) : Bool :=
  let isEdge (c : Char) : Bool := c.toNat ≤ 32
  let s := ((text.toList.dropWhile isEdge).reverse.dropWhile isEdge).reverse
  let s := s.filter fun c => c ≠ '\t' && c ≠ '\n' && c ≠ '\r'
  match s.span isSchemeChar with
  | (scheme, ':' :: rest) =>
    let scheme := String.ofList (scheme.map Char.toLower)
    (scheme = "http" || scheme = "https")
      && isAuthority ((rest.dropWhile fun c => c = '/' || c = '\\').takeWhile (!endsAuthority ·))
  | _ => false

end CommandTemplate.Url
