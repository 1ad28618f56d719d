import CommandTemplate.Calendar.Date
import CommandTemplate.Calendar.Locale
import CommandTemplate.Number.Integer

/-!
Patterns of dates and times.

A pattern is text with directives, each of which is a percent sign and a letter, with signs in
between that say how a number is filled up.  `Directive.parse` reads a pattern; `Moment.render`
writes a moment in it.  Some directives stand for a pattern of the locale.
-/

namespace CommandTemplate.Calendar

/-- How a number is filled up to its width. -/
inductive Padding where
  | none
  | zero
  | space
  deriving Repr, DecidableEq

/-- The numbers of a moment. -/
inductive Field where
  | year
  | century
  | yearOfCentury
  | weekYear
  | weekYearOfCentury
  | quarter
  | month
  | day
  | weekFromSunday
  | weekFromMonday
  | week
  | weekday
  | weekdayFromMonday
  | dayOfYear
  | hour
  | hour12
  | minute
  | second
  | nanosecond
  | timestamp
  deriving Repr, DecidableEq

/-- How exactly the offset of a zone is written. -/
inductive Precision where
  | hours
  | minutes
  | seconds
  deriving Repr, DecidableEq

/-- The patterns that a locale has. -/
inductive LocalPattern where
  | dateTime
  | date
  | time
  | time12
  deriving Repr, DecidableEq

/-- A part of a pattern. -/
inductive Directive where
  | text (c : Char)
  | number (field : Field) (padding : Padding)
  | dayName (short : Bool)
  | monthName (short : Bool)
  | halfDay (lower : Bool)
  /-- The fraction of the second with its point: as many digits as needed in groups of three,
  or a fixed number of them. -/
  | fraction (digits : Option Nat)
  /-- The fraction of the second without its point. -/
  | fractionDigits (digits : Nat)
  | zoneName
  | offset (precision : Precision) (colon : Bool)
  /-- An offset that can only be read, not written. -/
  | looseOffset
  /-- Date, time and offset in the notation of the internet. -/
  | timestampText
  | localized (pattern : LocalPattern)
  | invalid
  deriving Repr, DecidableEq

namespace Directive

/-- The numbers by their letters, with the way they are filled up. -/
def number? (c : Char) : Option (Field × Padding) :=
  match c with
  | 'C' => some (.century, .zero)
  | 'G' => some (.weekYear, .zero)
  | 'H' => some (.hour, .zero)
  | 'I' => some (.hour12, .zero)
  | 'M' => some (.minute, .zero)
  | 'S' => some (.second, .zero)
  | 'U' => some (.weekFromSunday, .zero)
  | 'V' => some (.week, .zero)
  | 'W' => some (.weekFromMonday, .zero)
  | 'Y' => some (.year, .zero)
  | 'd' => some (.day, .zero)
  | 'e' => some (.day, .space)
  | 'f' => some (.nanosecond, .zero)
  | 'g' => some (.weekYearOfCentury, .zero)
  | 'j' => some (.dayOfYear, .zero)
  | 'k' => some (.hour, .space)
  | 'l' => some (.hour12, .space)
  | 'm' => some (.month, .zero)
  | 'q' => some (.quarter, .none)
  | 's' => some (.timestamp, .none)
  | 'u' => some (.weekdayFromMonday, .none)
  | 'w' => some (.weekday, .none)
  | 'y' => some (.yearOfCentury, .zero)
  | _ => none

/-- A number that is filled up in a given way. -/
def padded (padding : Padding) (c : Char) : Directive :=
  match number? c with
  | some (field, _) => .number field padding
  | none => .invalid

def two (field : Field) : Directive :=
  .number field .zero

/-- The directives that a letter stands for. -/
def ofLetter (c : Char) : List Directive :=
  match number? c with
  | some (field, padding) => [.number field padding]
  | none =>
    match c with
    | 'A' => [.dayName false]
    | 'B' => [.monthName false]
    | 'D' => [two .month, .text '/', two .day, .text '/', two .yearOfCentury]
    | 'F' => [two .year, .text '-', two .month, .text '-', two .day]
    | 'P' => [.halfDay true]
    | 'R' => [two .hour, .text ':', two .minute]
    | 'T' => [two .hour, .text ':', two .minute, .text ':', two .second]
    | 'X' => [.localized .time]
    | 'Z' => [.zoneName]
    | 'a' => [.dayName true]
    | 'b' | 'h' => [.monthName true]
    | 'c' => [.localized .dateTime]
    | 'n' => [.text '\n']
    | 'p' => [.halfDay false]
    | 'r' => [.localized .time12]
    | 't' => [.text '\t']
    | 'v' => [.number .day .space, .text '-', .monthName true, .text '-', two .year]
    | 'x' => [.localized .date]
    | 'z' => [.offset .minutes false]
    | '+' => [.timestampText]
    | '%' => [.text '%']
    | _ => [.invalid]

/-- The directives of a pattern. -/
def parse : List Char → List Directive
  | [] => []
  | ['%'] => [.invalid]
  | '%' :: '-' :: c :: s => padded .none c :: parse s
  | '%' :: '_' :: c :: s => padded .space c :: parse s
  | '%' :: '0' :: c :: s => padded .zero c :: parse s
  | '%' :: '#' :: 'z' :: s => .looseOffset :: parse s
  | '%' :: ':' :: ':' :: ':' :: 'z' :: s => .offset .hours true :: parse s
  | '%' :: ':' :: ':' :: 'z' :: s => .offset .seconds true :: parse s
  | '%' :: ':' :: 'z' :: s => .offset .minutes true :: parse s
  | '%' :: '.' :: 'f' :: s => .fraction none :: parse s
  | '%' :: '.' :: '3' :: 'f' :: s => .fraction (some 3) :: parse s
  | '%' :: '.' :: '6' :: 'f' :: s => .fraction (some 6) :: parse s
  | '%' :: '.' :: '9' :: 'f' :: s => .fraction (some 9) :: parse s
  | '%' :: '3' :: 'f' :: s => .fractionDigits 3 :: parse s
  | '%' :: '6' :: 'f' :: s => .fractionDigits 6 :: parse s
  | '%' :: '9' :: 'f' :: s => .fractionDigits 9 :: parse s
  | '%' :: c :: s => ofLetter c ++ parse s
  | c :: s => .text c :: parse s

end Directive

/-- Can all directives of a pattern be read? -/
def isValidPattern (pattern : List Char) : Bool :=
  (Directive.parse pattern).all (· ≠ .invalid)

/-! ### Moments -/

/-- A point in time as the clocks of a zone show it. -/
structure Moment where
  /-- Seconds since the beginning of 1970 in universal time. -/
  timestamp : Int
  nanosecond : Nat
  /-- The name of the zone's time. -/
  zone : String
  /-- Seconds ahead of universal time. -/
  offset : Int

namespace Moment

/-- The seconds that the clock shows, counted from the beginning of 1970. -/
def localSecond (m : Moment) : Int :=
  m.timestamp + m.offset

def date (m : Moment) : Date :=
  Date.ofDay (m.localSecond / 86400)

/-- The seconds since midnight. -/
def secondOfDay (m : Moment) : Nat :=
  (m.localSecond % 86400).toNat

def hour (m : Moment) : Nat :=
  m.secondOfDay / 3600

def minute (m : Moment) : Nat :=
  m.secondOfDay / 60 % 60

def second (m : Moment) : Nat :=
  m.secondOfDay % 60

/-- The hour on a clock with twelve hours. -/
def hour12 (m : Moment) : Nat :=
  (m.hour + 11) % 12 + 1

/-! ### Numbers -/

/-- A number of two digits.  The first digit of a number beyond 99 is the character so many
places after `0`. -/
def twoDigits (padding : Padding) (n : Nat) : String :=
  let last := (n % 10).digitChar
  match n / 10, padding with
  | 0, .none => String.singleton last
  | 0, .space => String.ofList [' ', last]
  | tens, _ => String.ofList [Char.ofNat ('0'.toNat + tens), last]

/-- A number filled up to a width, which counts the sign. -/
def filled (padding : Padding) (width : Nat) (sign digits : String) : String :=
  let fill := width - sign.length - digits.length
  match padding with
  | .none => sign ++ digits
  | .zero => sign ++ String.ofList (List.replicate fill '0') ++ digits
  | .space => String.ofList (List.replicate fill ' ') ++ sign ++ digits

/-- A number with a minus sign if it is negative. -/
def signed (padding : Padding) (width : Nat) (n : Int) : String :=
  filled padding width (if n < 0 then "-" else "") (toString n.natAbs)

/-- A year.  Outside of four digits it always has a sign. -/
def yearText (padding : Padding) (year : Int) : String :=
  if 0 ≤ year ∧ year < 10000 then signed padding 4 year
  else filled padding 5 (if year < 0 then "-" else "+") (toString year.natAbs)

/-- A number of the moment. -/
def number (m : Moment) (padding : Padding) : Field → String
  | .year => yearText padding m.date.year
  | .century => twoDigits padding (m.date.year / 100 % 256).toNat
  | .yearOfCentury => twoDigits padding (m.date.year % 100).toNat
  | .weekYear => yearText padding m.date.weekYear
  | .weekYearOfCentury => twoDigits padding (m.date.weekYear % 100).toNat
  | .quarter => toString m.date.quarter
  | .month => twoDigits padding m.date.month
  | .day => twoDigits padding m.date.dayOfMonth
  | .weekFromSunday => twoDigits padding m.date.weekFromSunday
  | .weekFromMonday => twoDigits padding m.date.weekFromMonday
  | .week => twoDigits padding m.date.week
  | .weekday => toString m.date.weekday
  | .weekdayFromMonday => toString m.date.weekdayFromMonday
  | .dayOfYear => signed padding 3 m.date.dayOfYear
  | .hour => twoDigits padding m.hour
  | .hour12 => twoDigits padding m.hour12
  | .minute => twoDigits padding m.minute
  | .second => twoDigits padding m.second
  | .nanosecond => signed padding 9 m.nanosecond
  | .timestamp => signed padding 9 m.timestamp

/-! ### Directives -/

/-- The first digits of the fraction of the second. -/
def fractionDigits (m : Moment) (digits : Nat) : String :=
  Number.padded digits (m.nanosecond / Nat.pow 10 (9 - digits))

/-- The fraction of the second in groups of three digits, or nothing where it is zero. -/
def fraction (m : Moment) (point : String) : String :=
  if m.nanosecond = 0 then ""
  else if m.nanosecond % 1000000 = 0 then point ++ m.fractionDigits 3
  else if m.nanosecond % 1000 = 0 then point ++ m.fractionDigits 6
  else point ++ m.fractionDigits 9

/-- The offset from universal time. -/
def offsetText (m : Moment) (precision : Precision) (colon : Bool) : String :=
  let sign := if m.offset < 0 then "-" else "+"
  let seconds := m.offset.natAbs
  let separator := if colon then ":" else ""
  let minutes := (seconds + 30) / 60
  match precision with
  | .hours => sign ++ Number.padded 2 (seconds / 3600)
  | .minutes =>
    sign ++ Number.padded 2 (minutes / 60) ++ separator ++ Number.padded 2 (minutes % 60)
  | .seconds =>
    sign ++ Number.padded 2 (seconds / 3600) ++ separator ++ Number.padded 2 (seconds / 60 % 60)
      ++ separator ++ Number.padded 2 (seconds % 60)

/-- Date, time and offset in the notation of the internet. -/
def internetText (m : Moment) : String :=
  yearText .zero m.date.year ++ "-" ++ Number.padded 2 m.date.month ++ "-"
    ++ Number.padded 2 m.date.dayOfMonth ++ "T" ++ Number.padded 2 m.hour ++ ":"
    ++ Number.padded 2 m.minute ++ ":" ++ Number.padded 2 m.second ++ m.fraction "."
    ++ m.offsetText .minutes true

/-- What a directive stands for that needs no pattern of the locale. -/
def plain? (m : Moment) (l : Locale) : Directive → Option String
  | .text c => some c.toString
  | .number field padding => some (m.number padding field)
  | .dayName short => (if short then l.shortDays else l.days)[m.date.weekday]?
  | .monthName short => (if short then l.shortMonths else l.months)[m.date.month - 1]?
  | .halfDay lower =>
    let name := if m.hour < 12 then l.beforeNoon else l.afterNoon
    some (if lower then String.ofList (name.toList.flatMap Text.lowerChar) else name)
  | .fraction none => some (m.fraction l.decimalPoint)
  | .fraction (some digits) => some (l.decimalPoint ++ m.fractionDigits digits)
  | .fractionDigits digits => some (m.fractionDigits digits)
  | .zoneName => some m.zone
  | .offset precision colon => some (m.offsetText precision colon)
  | .timestampText => some m.internetText
  | .looseOffset | .localized _ | .invalid => none

/-- The pattern of a locale.  Without a clock of twelve hours, it is that of the time. -/
def localPattern (l : Locale) : LocalPattern → String
  | .dateTime => l.dateTime
  | .date => l.date
  | .time => l.time
  | .time12 => if l.time12 = "" then l.time else l.time12

/-- What a directive stands for, if it can be written. -/
def directive? (m : Moment) (l : Locale) : Directive → Option String
  | .localized pattern => do
    let parts ← (Directive.parse (localPattern l pattern).toList).mapM (m.plain? l)
    return String.join parts
  | directive => m.plain? l directive

/-- The moment in a pattern, if all its directives can be written. -/
def render? (m : Moment) (l : Locale) (pattern : List Char) : Option String := do
  return String.join (← (Directive.parse pattern).mapM (m.directive? l))

end Moment

end CommandTemplate.Calendar
