import CommandTemplate.Domain.Joining
import CommandTemplate.Domain.Mapping
import CommandTemplate.Domain.Punycode
import CommandTemplate.Text.Composition

/-!
Labels, the parts of a domain between its dots.

`readLabel?` takes a label whose characters have been replaced by their images and gives the
label as it is shown; a label that begins with `xn--` is decoded.  A label beyond ASCII does not
begin with a mark, and its joiners have letters to join.
-/

namespace CommandTemplate.Domain

open Text

/-- Is the character an ASCII one that no domain has? -/
def isForbidden (c : Char) : Bool :=
  c.toNat ≤ 32 || c.toNat = 127 || c ∈ "#%/:<>?@[\\]^|".toList

/-- The most characters that a label beyond ASCII has. -/
def labelLimit : Nat := 1000

/-- The most characters that are decoded. -/
def codeLimit : Nat := 2000

/-- Is the text a label beyond ASCII? -/
def isWideLabel (label : List Char) : Bool :=
  !label.head?.any Recent.mark.has && Joining.allMayStand [] label && label.length ≤ labelLimit

/-- Is the text one that a label may be decoded to?  It is what it stands for itself. -/
def isDecodedLabel (label : List Char) : Bool :=
  isOwnImage label && composed label = label && !label.any isForbidden && isWideLabel label

/-- The label as it is shown. -/
def readLabel? (label : List Char) : Option (List Char) :=
  match label with
  | 'x' :: 'n' :: '-' :: '-' :: code =>
    if code = [] ∨ code.getLast? = some '-' ∨ codeLimit < code.length then none
    else (Punycode.decode? code).filter isDecodedLabel
  | _ =>
    if !label.any isForbidden && (label.all (·.toNat < 128) || isWideLabel label) then some label
    else none

end CommandTemplate.Domain
