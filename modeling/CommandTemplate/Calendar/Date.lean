/-!
Dates of the Gregorian calendar.

Days are counted from 1 January 1970.  `Date.ofDay` and `Date.day` go between a day number and
a date, for any year before or after: the years are taken in eras of 400 years, each of which
begins on 1 March and has the same number of days.
-/

namespace CommandTemplate.Calendar

/-- A date; months and days of months count from 1. -/
structure Date where
  year : Int
  month : Nat
  dayOfMonth : Nat
  deriving Repr, DecidableEq

/-- Is the year one of 366 days? -/
def isLeap (year : Int) : Bool :=
  year % 4 == 0 && (year % 100 != 0 || year % 400 == 0)

namespace Date

/-- The number of the day on which a date falls. -/
def day (d : Date) : Int :=
  let year := if d.month ≤ 2 then d.year - 1 else d.year
  let era := year / 400
  let yearOfEra := year % 400
  let monthFromMarch : Int := (d.month + 9) % 12
  let dayOfYear := (153 * monthFromMarch + 2) / 5 + d.dayOfMonth - 1
  let dayOfEra := yearOfEra * 365 + yearOfEra / 4 - yearOfEra / 100 + dayOfYear
  era * 146097 + dayOfEra - 719468

/-- The date of a day. -/
def ofDay (day : Int) : Date :=
  let shifted := day + 719468
  let era := shifted / 146097
  let dayOfEra := shifted % 146097
  let yearOfEra := (dayOfEra - dayOfEra / 1460 + dayOfEra / 36524 - dayOfEra / 146096) / 365
  let dayOfYear := dayOfEra - (365 * yearOfEra + yearOfEra / 4 - yearOfEra / 100)
  let monthFromMarch := (5 * dayOfYear + 2) / 153
  let dayOfMonth := dayOfYear - (153 * monthFromMarch + 2) / 5 + 1
  let month := if monthFromMarch < 10 then monthFromMarch + 3 else monthFromMarch - 9
  let year := yearOfEra + era * 400
  ⟨if month ≤ 2 then year + 1 else year, month.toNat, dayOfMonth.toNat⟩

/-- The day of the week, from 0 for a Sunday on. -/
def weekday (d : Date) : Nat :=
  ((d.day + 4) % 7).toNat

/-- The day of the week, from 1 for a Monday to 7 for a Sunday. -/
def weekdayFromMonday (d : Date) : Nat :=
  (d.weekday + 6) % 7 + 1

/-- The day of the year, from 1 on. -/
def dayOfYear (d : Date) : Nat :=
  (d.day - day ⟨d.year, 1, 1⟩).toNat + 1

/-- The week of the year; weeks begin on a Sunday, and days before the first are in week 0. -/
def weekFromSunday (d : Date) : Nat :=
  (d.dayOfYear + 6 - d.weekday) / 7

/-- The week of the year; weeks begin on a Monday, and days before the first are in week 0. -/
def weekFromMonday (d : Date) : Nat :=
  (d.dayOfYear + 7 - d.weekdayFromMonday) / 7

/-- The Thursday of the week of a date, which decides about the year of the week. -/
def thursday (d : Date) : Date :=
  ofDay (d.day + 4 - d.weekdayFromMonday)

/-- The year to which the week of a date belongs. -/
def weekYear (d : Date) : Int :=
  d.thursday.year

/-- The week of a date in the year to which it belongs. -/
def week (d : Date) : Nat :=
  (d.thursday.dayOfYear - 1) / 7 + 1

/-- The quarter of the year, from 1 on. -/
def quarter (d : Date) : Nat :=
  (d.month - 1) / 3 + 1

end Date

end CommandTemplate.Calendar
