import CommandTemplate.Calendar.Locale
import CommandTemplate.Calendar.Zone

/-!
What is known of zones and languages.

The clocks of the zones change whenever a country decides so, and the locales are those of some
collection.  Neither is part of the language of templates, so an `Almanac` is handed to whoever
writes a point in time, just like the current time.
-/

namespace CommandTemplate.Calendar

/-- The clocks of the zones, and the locales.  If nothing else is said, universal time is kept
everywhere and no locale has a name. -/
structure Almanac where
  /-- The clock of the zone with a name. -/
  clock : String → Clock := fun _ => .universal
  /-- The clock where no zone is named. -/
  localClock : Clock := .universal
  /-- The locale with a name: a language and a region. -/
  locale? : String → Option Locale := fun _ => none

/-- The locale of a language tag, or the one without a language. -/
def Almanac.localeOf (almanac : Almanac) (tag : String) : Locale :=
  if tag = "" then .posix
  else ((Locale.candidates tag).findSome? almanac.locale?).getD .posix

end CommandTemplate.Calendar
