import CommandTemplate.Regex.Replace
import CommandTemplate.Text.Blank
import CommandTemplate.Text.Casing

/-!
Rules that a message matches or not.

A rule is written with a front that tells its kind: `re:` before a regular expression, `start:`
before the text that the message starts with, `cs:` before a text in it, `w:` before a word in
it.  Without one of these it is a text in the message.  Only `re:` and `cs:` respect case.
-/

namespace CommandTemplate

/-- What a message must be like. -/
inductive Rule where
  | pattern (source : String)
  | starts (text : String)
  | exact (text : String)
  | word (text : String)
  | anywhere (text : String)
  deriving Repr, DecidableEq

namespace Rule

/-- The rule that a text without blanks around it writes. -/
def ofTrimmed (text : String) : Rule :=
  match Text.stripFront? "re:" text with
  | some source => .pattern source
  | none =>
  match Text.stripFront? "start:" text with
  | some text => .starts text
  | none =>
  match Text.stripFront? "cs:" text with
  | some text => .exact text
  | none =>
  match Text.stripFront? "w:" text with
  | some text => .word text
  | none => .anywhere text

/-- The rule that a text writes; a blank text writes none. -/
def ofText? (text : String) : Option Rule :=
  let text := Text.trim text
  if text = "" then none else some (ofTrimmed text)

/-- Does the pattern match, if it is one? -/
def patternMatches (source message : String) : Bool :=
  match Regex.compile source with
  | .ok regex => regex.isMatch message
  | .error _ => false

/-- Does a message match a rule? -/
def holds (message : String) : Rule → Bool
  | .pattern source => patternMatches source message
  | .starts text => Text.startsWith (Text.lower text) (Text.lower message)
  | .exact text => Text.contains text message
  | .word text => patternMatches ("(?i)\\b" ++ Regex.escape text ++ "\\b") message
  | .anywhere text => Text.contains (Text.lower text) (Text.lower message)

/-- Does a message match the rule that a text writes? -/
def holdsFor (message text : String) : Bool :=
  match ofText? text with
  | some rule => rule.holds message
  | none => false

end Rule

end CommandTemplate
