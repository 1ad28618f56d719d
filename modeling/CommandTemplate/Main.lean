import CommandTemplate.CommandLine.Action
import Std.Time.DateTime.Timestamp
import Std.Time.Zoned.Database

/-!
The application.

It reads its command line and the file with the configuration, and writes what comes of them.
The file is the one that the command line names, or else `customcmd/config.toml` in the
directory for configurations, where it may be missing.  The clocks of the zones are those of the
system.
-/

namespace CommandTemplate.CommandLine

/-- Why a file cannot be read. -/
def readFault : IO.Error → String
  | .noFileOrDirectory .. => "No such file or directory (os error 2)"
  | .permissionDenied .. => "Permission denied (os error 13)"
  | .inappropriateType .. => "Is a directory (os error 21)"
  | e => toString e

/-- Reads a file, which must be there if it was asked for. -/
def readFile (asked : Bool) (path : String) : IO ConfigFile := do
  match ← (IO.FS.readFile path).toBaseIO with
  | .ok content => return .text path content
  | .error e =>
    match e, asked with
    | .noFileOrDirectory .., false => return .absent
    | e, _ => return .unreadable path (readFault e)

/-- The directory for configurations. -/
def configDirectory : IO (Option String) := do
  match ← IO.getEnv "XDG_CONFIG_HOME" with
  | some path => if path.startsWith "/" then return some path
  | none => pure ()
  return (← IO.getEnv "HOME").map (· ++ "/.config")

/-- Finds and reads the file with the configuration. -/
def findConfig (asked : Option String) : IO ConfigFile := do
  match asked with
  | some path => readFile true path
  | none =>
    match ← configDirectory with
    | some directory => readFile false (directory ++ "/customcmd/config.toml")
    | none => return .absent

/-- The time zone that is kept at a second of universal time. -/
def zoneAt (rules : Std.Time.TimeZone.ZoneRules) (second : Int) : Std.Time.TimeZone :=
  rules.timezoneAt (.ofSecondsSinceUnixEpoch (.ofInt second))

/-- The clock of a zone. -/
def clockOf (rules : Std.Time.TimeZone.ZoneRules) : Calendar.Clock where
  timeAt second :=
    let zone := zoneAt rules second
    (zone.abbreviation, zone.offset.second.val)

/-- The clock of the place at hand, whose times have their offsets for names. -/
def localClockOf (rules : Std.Time.TimeZone.ZoneRules) : Calendar.Clock where
  timeAt second :=
    let zone := zoneAt rules second
    (zone.offset.toIsoString true, zone.offset.second.val)

/-- The rules that a database yields, or those of universal time where it has none. -/
def rulesOf (rules : IO Std.Time.TimeZone.ZoneRules) : IO Std.Time.TimeZone.ZoneRules := do
  match ← rules.toBaseIO with
  | .ok rules => return rules
  | .error _ => return .UTC

/-- The clocks of the system, and the locales that there are. -/
def findAlmanac : IO Calendar.Almanac := do
  let clocks ← Calendar.zoneNames.mapM fun zone => do
    return (zone, clockOf (← rulesOf (Std.Time.Database.defaultGetZoneRules zone)))
  let localRules ← rulesOf Std.Time.Database.defaultGetLocalZoneRules
  return {
    clock := fun zone => (clocks.lookup zone).getD .universal
    localClock := localClockOf localRules
    locale? := fun name => Calendar.Locale.named.lookup name }

/-- The time, a source of random numbers and the clocks of the zones. -/
def findWorld : IO World := do
  let now ← Std.Time.Timestamp.now
  let seed ← IO.rand 0 0x3fffffffffffffff
  return {
    now := now.toMillisecondsSinceUnixEpoch.val
    chance := fun n => (mixHash (hash seed) (hash n)).toNat
    almanac := ← findAlmanac }

/-- Writes a report. -/
def writeReport (report : Report) : IO UInt32 := do
  IO.print report.output
  IO.eprint report.errors
  return report.code.toUInt32

end CommandTemplate.CommandLine

open CommandTemplate.CommandLine in
def main (words : List String) : IO UInt32 := do
  match readMain words with
  | .error report => writeReport report
  | .ok a => writeReport (applicationWith (← findWorld) (← findConfig a.config) a)
