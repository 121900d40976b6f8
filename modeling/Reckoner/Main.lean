import Reckoner.CommandLine
import Std.Time.Zoned

/-!
# The program

Reads the clock, the time zone, the environment variables and the standard
input, and writes what `Reckoner.run` reports.
-/

namespace Reckoner

/-- The clock of the host. -/
def hostClock : IO Instant := do
  let nanos := (← Std.Time.Timestamp.now).toNanosecondsSinceUnixEpoch.val
  return ⟨nanos / nanosPerSecond, (nanos % nanosPerSecond).toNat⟩

/-- The timetable of the host: universal time, if it cannot be read. -/
def hostTimetable : IO Timetable := do
  try
    let rules ← Std.Time.Database.defaultGetLocalZoneRules
    let changes := rules.transitions.toList.map fun c =>
      (c.time.val, c.localTimeType.gmtOffset.second.val)
    return ⟨rules.initialLocalTimeType.gmtOffset.second.val, changes⟩
  catch _ => return ⟨0, []⟩

/-- The environment variable that a line writes. -/
def readSetting? (line : String) : Option (String × String) :=
  let cs := line.toList
  match cs.dropWhile (· != '=') with
  | [] => none
  | _ :: value => some (String.ofList (cs.takeWhile (· != '=')), String.ofList value)

/-- The environment variables of the host, as far as they can be read. -/
def hostVariables : IO (List (String × String)) := do
  try
    let text ← IO.FS.readFile "/proc/self/environ"
    return (text.splitOn "\x00").filterMap readSetting?
  catch _ => return []

/-- The standard input, or nothing if that is a terminal. -/
def hostInput : IO String := do
  let input ← IO.getStdin
  if ← input.isTty then return "" else input.readToEnd

/-- What the program reports to this host. -/
def hostReport (args : List String) : IO Report := do
  let ctx := Context.ofClock (← hostClock) (.host (← hostTimetable))
  let ctx := { ctx with env := ← hostVariables }
  try
    return run ctx (← hostInput) args
  catch e => return .failure 1 ("Failed to read standard input: " ++ toString e)

end Reckoner

def main (args : List String) : IO UInt32 := do
  let report ← Reckoner.hostReport args
  (← IO.getStdout).putStr report.out
  (← IO.getStderr).putStr report.err
  return report.code.toUInt32
