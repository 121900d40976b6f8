import Reckoner.Calendar.Day
import Reckoner.Decimal.Text

/-!
# Instants and wall clocks

An `Instant` is a point in time and a `Wall` what a clock on the wall shows.
Both count seconds from the start of 1970, the one in universal time, the other
on that clock, and nanoseconds within the second.  A zone (see
`Reckoner.Zone.Basic`) leads from one to the other.

A leap second is the second before it gone on: its nanoseconds are those from a
whole second up to two.  So it comes after all of the second before it and
before the next one, though it ends up at the same number of milliseconds.
-/

namespace Reckoner

/-- Nanoseconds in a second. -/
abbrev nanosPerSecond : Nat := 1000000000

/-- Seconds in a day. -/
abbrev secondsPerDay : Int := 86400

/-- A point in time. -/
structure Instant where
  seconds : Int
  nanos : Nat
deriving DecidableEq, Repr

/-- The reading of a wall clock with its calendar. -/
structure Wall where
  seconds : Int
  nanos : Nat
deriving DecidableEq, Repr

/-- A number of seconds and nanoseconds moved by `delta` nanoseconds.  A leap
second counts only while it is not left: a move on from it starts at the second
it belongs to, a move back by a second or more at the next one. -/
def moveBy (seconds : Int) (nanos : Nat) (delta : Int) : Int × Nat :=
  let whole := Int.tdiv delta nanosPerSecond
  let part := Int.tmod delta nanosPerSecond
  if nanosPerSecond ≤ nanos ∧ whole = 0 ∧ nanos + part < 2 * nanosPerSecond then
    (seconds, (nanos + part).toNat)
  else
    let start := if nanos < nanosPerSecond ∨ 0 ≤ whole then seconds else seconds + 1
    let total := (nanos % nanosPerSecond : Nat) + part
    (start + whole + total / nanosPerSecond, (total % nanosPerSecond).toNat)

namespace Wall

/-- The day number. -/
def dayNumber (w : Wall) : Int := w.seconds / secondsPerDay

/-- The day. -/
def day (w : Wall) : Day := Day.ofNumber w.dayNumber

/-- Seconds since midnight. -/
def secondOfDay (w : Wall) : Nat := (w.seconds % secondsPerDay).toNat

/-- The hour. -/
def hour (w : Wall) : Nat := w.secondOfDay / 3600

/-- The minute of the hour. -/
def minute (w : Wall) : Nat := w.secondOfDay / 60 % 60

/-- The second of the minute; that of a leap second is the one before. -/
def second (w : Wall) : Nat := w.secondOfDay % 60

/-- Midnight at the start of a day. -/
def midnight (d : Day) : Wall := ⟨d.number * secondsPerDay, 0⟩

/-- A time of a day.  Second 60 is the leap second of its minute. -/
def onDay (d : Day) (hour minute second nanos : Nat) : Wall :=
  { seconds := d.number * secondsPerDay + (hour * 3600 + minute * 60 + min second 59 : Nat)
    nanos := if second ≤ 59 then nanos else nanos + nanosPerSecond }

/-- Whether the day is in the range of dates. -/
def inRange (w : Wall) : Bool := Day.yearInRange w.day.year

/-- The reading, if its day is in the range of dates. -/
def check? (w : Wall) : Option Wall := if w.inRange then some w else none

/-- The same time on a day `n` days later, or earlier if negative. -/
def addDays? (w : Wall) (n : Int) : Option Wall :=
  check? { w with seconds := w.seconds + n * secondsPerDay }

/-- The same time on a day `n` months later, or earlier if negative. -/
def addMonths? (w : Wall) (n : Int) : Option Wall :=
  let d := w.day.addMonths n
  if Day.yearInRange d.year then
    some { w with seconds := d.number * secondsPerDay + w.seconds % secondsPerDay }
  else none

/-- A reading one hour later. -/
def hourLater? (w : Wall) : Option Wall :=
  let (seconds, nanos) := moveBy w.seconds w.nanos (3600 * nanosPerSecond : Nat)
  check? ⟨seconds, nanos⟩

/-! ## Text -/

/-- A number with zeros in front. -/
def padded (width n : Nat) : String := Decimal.padZeros width (toString n)

/-- A year: four digits, with a sign when it needs more or is negative. -/
def renderYear (y : Int) : String :=
  if 0 ≤ y ∧ y ≤ 9999 then padded 4 y.natAbs
  else (if y < 0 then "-" else "+") ++ padded 4 y.natAbs

/-- Day, month and year with dots. -/
def renderDay (w : Wall) : String :=
  let d := w.day
  padded 2 d.day ++ "." ++ padded 2 d.month ++ "." ++ renderYear d.year

/-- Hours, minutes and seconds.  A leap second shows as one more than the
second it belongs to. -/
def renderClock (w : Wall) : String :=
  padded 2 w.hour ++ ":" ++ padded 2 w.minute ++ ":" ++
    padded 2 (w.second + w.nanos / nanosPerSecond)

/-- Hours and minutes, and seconds unless they are zero. -/
def renderTime (w : Wall) : String :=
  if w.second == 0 then padded 2 w.hour ++ ":" ++ padded 2 w.minute else w.renderClock

end Wall

namespace Instant

/-- Whole milliseconds from the start of 1970, rounded down. -/
def millis (i : Instant) : Int := i.seconds * 1000 + i.nanos / 1000000

/-- The instant a number of milliseconds from the start of 1970. -/
def ofMillis (n : Int) : Instant := ⟨n / 1000, (n % 1000).toNat * 1000000⟩

/-- The instant, if it is in the range of dates in universal time. -/
def check? (i : Instant) : Option Instant :=
  if Wall.inRange ⟨i.seconds, i.nanos⟩ then some i else none

/-- The instant a number of milliseconds later, or earlier if negative. -/
def addMillis? (i : Instant) (n : Int) : Option Instant :=
  let (seconds, nanos) := moveBy i.seconds i.nanos (n * 1000000)
  check? ⟨seconds, nanos⟩

/-- The order in time. -/
def compare (i j : Instant) : Ordering :=
  (Ord.compare i.seconds j.seconds).then (Ord.compare i.nanos j.nanos)

/-- Nanoseconds from `j` to `i`.  A leap second of the one with the earlier time
of day lies between the two. -/
def nanosSince (i j : Instant) : Int :=
  let ti := i.seconds % secondsPerDay
  let tj := j.seconds % secondsPerDay
  let leap : Int :=
    if tj < ti ∧ nanosPerSecond ≤ j.nanos then 1
    else if ti < tj ∧ nanosPerSecond ≤ i.nanos then -1
    else 0
  (i.seconds - j.seconds + leap) * nanosPerSecond + i.nanos - j.nanos

end Instant

end Reckoner
