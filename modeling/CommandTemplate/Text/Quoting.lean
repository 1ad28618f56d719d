import CommandTemplate.Text.Pieces

/-!
Texts inside other texts.

`quote` puts a text between quotes and writes each quote in it twice.  `double` writes each
occurrence of a character twice, which is how a command takes a character that would
otherwise separate its parts.
-/

namespace CommandTemplate.Text

/-- A text between two quotes, with the quotes in it doubled; an empty quote adds nothing. -/
def quoteChars (quote s : List Char) : List Char :=
  if quote = [] then s else quote ++ substituteChars quote (quote ++ quote) s ++ quote

/-- A text between two quotes, with the quotes in it doubled. -/
def quote (mark s : String) : String :=
  String.ofList (quoteChars mark.toList s.toList)

/-- A text with each `c` in it doubled. -/
def doubleChars (c : Char) (s : List Char) : List Char :=
  s.flatMap fun d => if d = c then [c, c] else [d]

/-- A text with each `c` in it doubled. -/
def double (c : Char) (s : String) : String :=
  String.ofList (doubleChars c s.toList)

end CommandTemplate.Text
