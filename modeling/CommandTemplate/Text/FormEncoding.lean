/-!
The encoding of form fields in addresses.

Letters, digits and four marks stay, a blank becomes a plus sign, and every other byte is
written as two hexadecimal digits after a percent sign.
-/

namespace CommandTemplate.Text

/-- Does a byte stand for itself? -/
def isFormByte (b : UInt8) : Bool :=
  let c := Char.ofNat b.toNat
  c.isAlphanum || c = '*' || c = '-' || c = '.' || c = '_'

/-- A byte in a form field. -/
def formByte (b : UInt8) : List Char :=
  if isFormByte b then [Char.ofNat b.toNat]
  else if b = 32 then ['+']
  else ['%', (b.toNat / 16).digitChar.toUpper, (b.toNat % 16).digitChar.toUpper]

/-- A text as a form field. -/
def formEncode (s : String) : String :=
  String.ofList (s.toUTF8.toList.flatMap formByte)

end CommandTemplate.Text
