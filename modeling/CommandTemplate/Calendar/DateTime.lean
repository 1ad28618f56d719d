import CommandTemplate.Calendar.Almanac
import CommandTemplate.Calendar.Letters

/-!
Writing points in time.

`formatDateTime` takes a format, a zone, a language tag and a timestamp in milliseconds, each of
which may be empty.  A format is one of the predefined names, or a pattern with percent signs,
or else a pattern in letters.  The clocks and the locales are those of an `Almanac`.
-/

namespace CommandTemplate.Calendar

/-- What can be wrong with a point in time and the way it is to be written. -/
inductive DateTimeError where
  | invalidFormat (format : String)
  | invalidZone
  | invalidTimestamp
  | unwritable
  deriving Repr, DecidableEq

/-- The wording of an error. -/
def DateTimeError.message : DateTimeError → String
  | .invalidFormat format => "Invalid time format (" ++ format ++ ")"
  | .invalidZone => "Invalid timezone"
  | .invalidTimestamp => "Invalid timestamp"
  | .unwritable => "Time format error"

/-- The predefined formats. -/
def namedFormats : List (String × String) := [
  ("date", "%Y-%m-%d"),
  ("time", "%H:%M:%S"),
  ("datetime", "%Y-%m-%d %H:%M:%S"),
  ("date_tz", "%Y-%m-%d %Z (%:z)"),
  ("time_tz", "%H:%M:%S %Z (%:z)"),
  ("datetime_tz", "%Y-%m-%d %H:%M:%S %Z (%:z)"),
  ("date_short", "%x"),
  ("date_medium", "%e %b %Y"),
  ("date_long", "%e %B %Y"),
  ("date_full", "%A, %e %B %Y"),
  ("time_short", "%H:%M"),
  ("time_medium", "%X"),
  ("time_long", "%X %Z"),
  ("time_full", "%X %Z (%:z)"),
  ("datetime_short", "%x %H:%M"),
  ("datetime_medium", "%e %b %Y %X"),
  ("datetime_long", "%e %B %Y %X %Z"),
  ("datetime_full", "%A, %e %B %Y %X %Z (%:z)")]

/-- The directives of a format, which must all be known. -/
def readFormat (format : String) : Except DateTimeError (List Char) :=
  let format := if format = "" then "datetime" else format
  let pattern? := match namedFormats.lookup format with
    | some pattern => some pattern.toList
    | none =>
      if '%' ∈ format.toList then some format.toList else letterPattern? format.toList
  match pattern? with
  | none => .error (.invalidFormat format)
  | some pattern =>
    if isValidPattern pattern then .ok pattern else .error (.invalidFormat format)

/-- The first and the last year that can be written. -/
def isYearInRange (year : Int) : Bool :=
  -262143 ≤ year && year ≤ 262142

/-- A timestamp in milliseconds as seconds and nanoseconds; `now` stands for an empty one. -/
def readTimestamp (now : Int) (timestamp : String) : Except DateTimeError (Int × Nat) :=
  let milliseconds? :=
    if timestamp = "" then some now else Number.readSigned? (Text.trimChars timestamp.toList)
  match milliseconds? with
  | none => .error .invalidTimestamp
  | some n =>
    if isYearInRange (Date.ofDay (n / 86400000)).year then
      .ok (n / 1000, (n % 1000).toNat * 1000000)
    else .error .invalidTimestamp

/-- The clock of a zone that is named or not. -/
def readZone (almanac : Almanac) (zone : String) : Except DateTimeError Clock :=
  if zone = "" then .ok almanac.localClock
  else
    match findZone? zone with
    | some zone => .ok (almanac.clock zone)
    | none => .error .invalidZone

/-- A point in time as text, or what is wrong. -/
def tryFormatDateTime (almanac : Almanac) (now : Int) (format zone tag timestamp : String) :
    Except DateTimeError String := do
  let pattern ← readFormat format
  let (second, nanosecond) ← readTimestamp now timestamp
  let (name, offset) := (← readZone almanac zone).timeAt second
  match Moment.render? ⟨second, nanosecond, name, offset⟩ (almanac.localeOf tag) pattern with
  | some text => return text
  | none => throw .unwritable

/-- A point in time as text, or the message of what is wrong.  The time `now` is taken where no
timestamp is given. -/
def formatDateTime (almanac : Almanac) (now : Int) (format zone tag timestamp : String) :
    String :=
  match tryFormatDateTime almanac now format zone tag timestamp with
  | .ok text => text
  | .error e => e.message

end CommandTemplate.Calendar
