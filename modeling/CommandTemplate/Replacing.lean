import CommandTemplate.Regex.Replace
import CommandTemplate.Text.Blank

/-!
The ways in which the function `replace` puts texts in the place of others.

A `Substitution` has a fixed replacement.  The other modes evaluate it for each match, or have
a command evaluated.
-/

namespace CommandTemplate

/-- How a fixed replacement is put in the place of what is searched. -/
inductive Substitution where
  | exact
  | anyCase
  /-- The search text is a pattern; the replacement may refer to its groups. -/
  | pattern (extent : Regex.Extent) (refers : Bool)
  deriving Repr, DecidableEq

/-- How a replacement is found. -/
inductive ReplaceMode where
  | fixed (substitution : Substitution)
  | evaluated
  | byCommand
  deriving Repr, DecidableEq

/-- The mode with a name; all names but these stand for a replacement that ignores case. -/
def ReplaceMode.ofName : String → ReplaceMode
  | "cs" => .fixed .exact
  | "reg" => .fixed (.pattern .all false)
  | "regFirst" => .fixed (.pattern .first false)
  | "regRef" => .fixed (.pattern .all true)
  | "regFirstRef" => .fixed (.pattern .first true)
  | "regFunc" => .evaluated
  | "regCustom" => .byCommand
  | _ => .fixed .anyCase

/-- What a text is replaced by where a pattern does not compile. -/
def patternFault (fault : Regex.Error) : String :=
  "Error: " ++ fault.message

/-- A text with the matches of a pattern replaced, or what is wrong with the pattern. -/
def replacePattern (extent : Regex.Extent) (refers : Bool) (source replacement text : String) :
    String :=
  match Regex.compile source with
  | .error fault => patternFault fault
  | .ok regex =>
    if refers then regex.replaceExpanding extent replacement text
    else regex.replaceFixed extent replacement text

/-- A text with what is searched in it replaced. -/
def Substitution.apply (search replacement text : String) : Substitution → String
  | .exact => Text.substitute search replacement text
  | .anyCase => replacePattern .all false ("(?iu)" ++ Regex.escape search) replacement text
  | .pattern extent refers => replacePattern extent refers search replacement text

end CommandTemplate
