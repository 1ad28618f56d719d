import CommandTemplate.Calendar.ZoneNames
import CommandTemplate.Text.Blank
import CommandTemplate.Text.Casing
import CommandTemplate.Text.Pieces

/-!
Time zones.

A `Clock` tells the time that a zone keeps.  `findZone?` searches a zone by its name or by a part
of it.
-/

namespace CommandTemplate.Calendar

/-- The time of a zone. -/
structure Clock where
  /-- The name of the time at a second of universal time, and how many seconds it is ahead of
  universal time. -/
  timeAt : Int → String × Int

namespace Clock

/-- One time all the year round. -/
def fixed (name : String) (offset : Int) : Clock :=
  ⟨fun _ => (name, offset)⟩

/-- Universal time. -/
def universal : Clock := fixed "UTC" 0

end Clock

/-- The zone with a name.  Without one of just this name, the first whose name is the same
without regard to case, or else the first whose name has the given one in it; blanks stand
for underscores. -/
def findZone? (name : String) : Option String :=
  let name := Text.trim name
  if name ∈ zoneNames then some name
  else
    let wanted := Text.lower (Text.substitute " " "_" name)
    if wanted = "" then none
    else
      zoneNames.find? (Text.lower · = wanted)
        <|> zoneNames.find? fun zone => Text.contains wanted (Text.lower zone)

end CommandTemplate.Calendar
