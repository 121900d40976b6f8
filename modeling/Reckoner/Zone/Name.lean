import Reckoner.Text.Casing
import Reckoner.Text.Digits
import Reckoner.Text.Ranges
import Reckoner.Zone.Basic

/-!
# Names of zones

`Zone.parse` reads the name of a zone, which is one of these:

* `UTC` or `GMT`, alone or with hours and minutes ahead or behind;
* an abbreviation, such as `EST`, which stands for the region where it is used
  most and so follows that region's summer time;
* a city, in any case, with blanks or underscores between its words;
* a region's full name, such as `Europe/Berlin`.

Two steps may panic.  The sign behind `UTC` is cut off as one byte, which may
lie inside a character; and offsets are computed in words of 32 bits.
`Zone.parse?` is the zone where neither happens, and takes a name for which one
does for no zone.  `Token.read` looks every name in a source up with the panics;
whoever asks for a zone after that, or gives the name on the command line, asks
`Zone.parse?`, and a panic there is left out.
-/

namespace Reckoner

/-- What ends a computation without a result. -/
inductive Panic where
  /-- A text is cut inside a character. -/
  | boundary
  /-- A number has no room in a word. -/
  | overflow
deriving DecidableEq, Repr

/-- A result, unless the computation panics. -/
abbrev Guarded (α : Type) := Except Panic α

instance Guarded.decidableEq {α : Type} [DecidableEq α] : DecidableEq (Guarded α)
  | .ok x, .ok y => decidable_of_decidable_of_iff (p := x = y) (by rw [Except.ok.injEq])
  | .error e, .error f => decidable_of_decidable_of_iff (p := e = f) (by rw [Except.error.injEq])
  | .ok _, .error _ => isFalse nofun
  | .error _, .ok _ => isFalse nofun

namespace Zone

/-- Abbreviations and the regions they stand for. -/
def abbreviations : List (String × String) := [
  ("EST", "America/New_York"),
  ("EDT", "America/New_York"),
  ("ET", "America/New_York"),
  ("CST", "America/Chicago"),
  ("CDT", "America/Chicago"),
  ("CT", "America/Chicago"),
  ("MST", "America/Denver"),
  ("MDT", "America/Denver"),
  ("PST", "America/Los_Angeles"),
  ("PDT", "America/Los_Angeles"),
  ("PT", "America/Los_Angeles"),
  ("AKST", "America/Anchorage"),
  ("HST", "Pacific/Honolulu"),
  ("WET", "Europe/Lisbon"),
  ("BST", "Europe/London"),
  ("CET", "Europe/Paris"),
  ("CEST", "Europe/Paris"),
  ("EET", "Europe/Athens"),
  ("EEST", "Europe/Athens"),
  ("MSK", "Europe/Moscow"),
  ("IST", "Asia/Kolkata"),
  ("SGT", "Asia/Singapore"),
  ("HKT", "Asia/Hong_Kong"),
  ("JST", "Asia/Tokyo"),
  ("KST", "Asia/Seoul"),
  ("AWST", "Australia/Perth"),
  ("ACST", "Australia/Adelaide"),
  ("AEST", "Australia/Sydney"),
  ("AEDT", "Australia/Sydney"),
  ("NZST", "Pacific/Auckland"),
  ("NZDT", "Pacific/Auckland")]

/-- Cities, in lower case, and the regions they lie in. -/
def cities : List (String × String) := [
  ("london", "Europe/London"),
  ("dublin", "Europe/Dublin"),
  ("lisbon", "Europe/Lisbon"),
  ("paris", "Europe/Paris"),
  ("berlin", "Europe/Berlin"),
  ("madrid", "Europe/Madrid"),
  ("rome", "Europe/Rome"),
  ("amsterdam", "Europe/Amsterdam"),
  ("zurich", "Europe/Zurich"),
  ("vienna", "Europe/Vienna"),
  ("prague", "Europe/Prague"),
  ("warsaw", "Europe/Warsaw"),
  ("stockholm", "Europe/Stockholm"),
  ("oslo", "Europe/Oslo"),
  ("helsinki", "Europe/Helsinki"),
  ("athens", "Europe/Athens"),
  ("istanbul", "Europe/Istanbul"),
  ("moscow", "Europe/Moscow"),
  ("cairo", "Africa/Cairo"),
  ("lagos", "Africa/Lagos"),
  ("nairobi", "Africa/Nairobi"),
  ("johannesburg", "Africa/Johannesburg"),
  ("cape town", "Africa/Johannesburg"),
  ("dubai", "Asia/Dubai"),
  ("mumbai", "Asia/Kolkata"),
  ("delhi", "Asia/Kolkata"),
  ("kolkata", "Asia/Kolkata"),
  ("bangkok", "Asia/Bangkok"),
  ("jakarta", "Asia/Jakarta"),
  ("singapore", "Asia/Singapore"),
  ("hong kong", "Asia/Hong_Kong"),
  ("manila", "Asia/Manila"),
  ("beijing", "Asia/Shanghai"),
  ("shanghai", "Asia/Shanghai"),
  ("seoul", "Asia/Seoul"),
  ("tokyo", "Asia/Tokyo"),
  ("perth", "Australia/Perth"),
  ("sydney", "Australia/Sydney"),
  ("melbourne", "Australia/Melbourne"),
  ("auckland", "Pacific/Auckland"),
  ("honolulu", "Pacific/Honolulu"),
  ("anchorage", "America/Anchorage"),
  ("vancouver", "America/Vancouver"),
  ("los angeles", "America/Los_Angeles"),
  ("san francisco", "America/Los_Angeles"),
  ("denver", "America/Denver"),
  ("chicago", "America/Chicago"),
  ("mexico city", "America/Mexico_City"),
  ("toronto", "America/Toronto"),
  ("new york", "America/New_York"),
  ("sao paulo", "America/Sao_Paulo"),
  ("buenos aires", "America/Argentina/Buenos_Aires")]

/-- First words of cities whose name has two. -/
def cityOpeners : List String :=
  ["new", "los", "hong", "san", "cape", "sao", "buenos", "mexico"]

/-- Whether two words together name a city. -/
def isTwoWordCity (first second : String) : Bool :=
  let joined := Text.toLower first ++ " " ++ Text.toLower second
  cities.any (·.1 == joined)

/-! ## Offsets from universal time -/

/-- A number on the way to an offset. -/
def inWord (n : Int) : Guarded Int :=
  if -(Text.maxWord + 1 : Int) ≤ n ∧ n ≤ Text.maxWord then .ok n else .error .overflow

/-- The offset, if it is shorter than a day. -/
def checkOffset? (seconds : Int) : Option Int :=
  if -86400 < seconds ∧ seconds < 86400 then some seconds else none

/-- Hours, or hours and minutes with a colon between them, as an offset ahead
or behind. -/
def readHours (sign : Int) (cs : List Char) : Guarded (Option Int) :=
  let (hours, minutes) := Text.splitOnce ':' cs
  match Text.word? hours, minutes.elim (some 0) Text.word? with
  | some hours, some minutes =>
    if 14 < hours ∨ 59 < minutes then .ok none
    else do
      let fromHours ← inWord (hours * 3600)
      let fromMinutes ← inWord (minutes * 60)
      let seconds ← inWord (fromHours + fromMinutes)
      return checkOffset? (← inWord (sign * seconds))
  | _, _ => .ok none

/-- What may follow `UTC` and `GMT`: nothing, or a sign and a number of hours.
The sign is one byte. -/
def readOffset : List Char → Guarded (Option Int)
  | [] => .ok (some 0)
  | c :: rest =>
    if c.utf8Size ≠ 1 then .error .boundary
    else if c = '+' then readHours 1 rest
    else if c = '-' then readHours (-1) rest
    else .ok none

/-- An offset from universal time, in any case. -/
def parseOffset (name : String) : Guarded (Option Int) :=
  match (Text.toUpper name).toList with
  | 'U' :: 'T' :: 'C' :: rest => readOffset rest
  | 'G' :: 'M' :: 'T' :: rest => readOffset rest
  | _ => .ok none

/-! ## All names -/

/-- The zone of a region. -/
def ofRegion? (name : String) : Option Zone := (timetable? name).map (.region name)

/-- A city's name with blanks between its words, in lower case. -/
def cityKey (name : String) : String :=
  String.ofList ((Text.toLower name).toList.map fun c => if c = '_' then ' ' else c)

/-- The region that a name without a slash stands for. -/
def regionName? (name : String) : Option String :=
  match abbreviations.lookup name with
  | some r => some r
  | none => cities.lookup (cityKey name)

/-- The zone of an abbreviation, a city or a region. -/
def ofName? (name : String) : Option Zone :=
  match regionName? name with
  | some r => ofRegion? r
  | none => if name.toList.contains '/' then ofRegion? name else none

/-- The zone with the given name. -/
def parse (name : String) : Guarded (Option Zone) := do
  let name := Text.trim name
  match ← parseOffset name with
  | some seconds => return some (.fixed seconds)
  | none => return ofName? name

/-- The zone with the given name, where reading it does not panic. -/
def parse? (name : String) : Option Zone :=
  match parse name with
  | .ok zone => zone
  | .error _ => none

end Zone

end Reckoner
