import Reckoner.Calendar.Text
import Reckoner.Error
import Reckoner.Unit.Table
import Reckoner.Zone.Name

/-!
# Dates

A `Date` is an instant that is shown on the clocks of a zone.  Equality and
order see the instant alone.

* `Date.shift` moves a date by an amount of a calendar unit.  Days, weeks,
  months and years follow the calendar of the zone and keep the time of day;
  seconds, minutes and hours are fixed durations, and so are fractions of days
  and weeks.
* `Date.secondsSince` and `Date.timestamp` measure in seconds.
* `Date.ofText?` reads a date and `Date.render` writes one.
-/

namespace Reckoner

/-- How much of a date is shown. -/
inductive DateForm where
  /-- The day alone; the time is midnight. -/
  | day
  /-- The time alone. -/
  | time
  /-- Day and time. -/
  | dayTime
deriving DecidableEq, Repr

/-- A moment of a day is no longer a whole day. -/
def DateForm.timed : DateForm → DateForm
  | day => dayTime
  | time => time
  | dayTime => dayTime

/-- An instant, the zone it is shown in, and the name the zone was written
as. -/
structure Date where
  instant : Instant
  zone : Zone
  label : Option String
  form : DateForm
deriving DecidableEq, Repr

/-- The parts of a date that can be asked for. -/
inductive DatePart where
  | year
  | month
  | day
  | hour
  | minute
  | weekday
deriving DecidableEq, Repr

namespace Date

/-- What the clocks of its zone show. -/
def wall (d : Date) : Wall := d.zone.wallClock d.instant

/-- The same instant in another zone. -/
def inZone (d : Date) (zone : Zone) (label : String) : Date :=
  { d with zone, label := some label, form := d.form.timed }

/-- The same instant in the zone with the given name. -/
def inZoneNamed (d : Date) (name : String) (offset : Nat) : Checked Date :=
  match Zone.parse? name with
  | some zone => pure (d.inZone zone name)
  | none => failAt offset (.unknownZone name)

/-- Seconds from one date to another, in whole milliseconds toward zero. -/
def secondsSince (d other : Date) : Decimal :=
  (Decimal.ofThousandths (Int.tdiv (d.instant.nanosSince other.instant) 1000000)).normalize

/-- Seconds since the start of 1970, in whole milliseconds rounded down. -/
def timestamp (d : Date) : Decimal := (Decimal.ofThousandths d.instant.millis).normalize

/-- The order in time. -/
def compare (d other : Date) : Ordering := d.instant.compare other.instant

/-- Whether two dates are the same instant. -/
def sameInstant (d other : Date) : Bool := d.instant == other.instant

/-! ## Calendar arithmetic -/

/-- The date at which the clocks of its zone show another reading. -/
def atWall (d : Date) (wall : Option Wall) (offset : Nat) : Checked Date :=
  match wall.bind d.zone.instantOf? with
  | some instant => pure { d with instant }
  | none => failAt offset (.domain .dateRange)

/-- The length of a unit in seconds; months and years are averages. -/
def unitSeconds : CalendarUnit → Nat
  | .second => 1
  | .minute => 60
  | .hour => 3600
  | .day => 86400
  | .week => 604800
  | .month => 2629746
  | .year => 31556952

/-- An amount of a unit in milliseconds. -/
def durationMillis (amount : Decimal) (unit : CalendarUnit) (offset : Nat) : Checked Int := do
  let seconds ← orFail offset (.domain .dateRange) (amount.mul? (.ofNat (unitSeconds unit)))
  let millis ← orFail offset (.domain .dateRange) (seconds.mul? (.ofNat 1000))
  (millis.roundPlaces 0 .toEven).toInteger offset

/-- The date after a fixed duration. -/
def shiftDuration (d : Date) (amount : Decimal) (unit : CalendarUnit) (offset : Nat) :
    Checked Date := do
  let millis ← durationMillis amount unit offset
  let instant ← orFail offset (.domain .dateRange) (d.instant.addMillis? millis)
  pure { d with instant, form := d.form.timed }

/-- The date some days later at the same time of day; `size` is the number of
days in the unit counted. -/
def shiftDays (d : Date) (amount : Decimal) (size : Int) (offset : Nat) : Checked Date := do
  let n ← amount.toInteger offset
  d.atWall (d.wall.addDays? (n * size)) offset

/-- The date some months later at the same time of day; `size` is the number
of months in the unit counted. -/
def shiftMonths (d : Date) (amount : Decimal) (size : Int) (offset : Nat) : Checked Date := do
  let n ← amount.toInteger offset
  d.atWall (d.wall.addMonths? (n * size)) offset

/-- The date moved by an amount of a calendar unit. -/
def shift (d : Date) (amount : Decimal) (unit : CalendarUnit) (offset : Nat) : Checked Date :=
  match unit with
  | .day => if amount.isWhole then d.shiftDays amount 1 offset else d.shiftDuration amount unit offset
  | .week => if amount.isWhole then d.shiftDays amount 7 offset else d.shiftDuration amount unit offset
  | .month =>
    if amount.isWhole then d.shiftMonths amount 1 offset
    else failAt offset (.typing (.fractionalShift "month"))
  | .year =>
    if amount.isWhole then d.shiftMonths amount 12 offset
    else failAt offset (.typing (.fractionalShift "year"))
  | .second | .minute | .hour => d.shiftDuration amount unit offset

/-! ## Parts -/

/-- A part of a date, as the clocks of its zone show it.  Weeks start with
Monday, which is day one. -/
def part (d : Date) : DatePart → Int
  | .year => d.wall.day.year
  | .month => d.wall.day.month
  | .day => d.wall.day.day
  | .hour => d.wall.hour
  | .minute => d.wall.minute
  | .weekday => Day.weekday d.wall.dayNumber

/-! ## Text -/

/-- The text of a date: as much as its form shows, and the zone if it was
named. -/
def render (d : Date) : String :=
  let shown :=
    match d.form with
    | .day => d.wall.renderDay
    | .time => d.wall.renderTime
    | .dayTime => d.wall.renderDay ++ "T" ++ d.wall.renderTime
  match d.label with
  | some label => shown ++ " " ++ label
  | none => shown

/-- The date at which the clocks of a zone show a reading. -/
def ofWall? (wall : Wall) (zone : Zone) (form : DateForm) : Option Date :=
  (zone.instantOf? wall).map fun instant => { instant, zone, label := none, form }

/-- Reads a timestamp, a day with a time, or a day alone.  The latter two are
on the clocks of the given zone. -/
def ofText? (text : List Char) (zone : Zone) : Option Date :=
  match Calendar.timestamp? text with
  | some instant => some { instant, zone, label := none, form := .dayTime }
  | none =>
    match Calendar.readFirst? Calendar.timeLayouts text with
    | some wall => ofWall? wall zone .dayTime
    | none => (Calendar.readFirst? Calendar.dayLayouts text).bind fun wall => ofWall? wall zone .day

/-- The instant a number of seconds after the start of 1970. -/
def ofSeconds (seconds : Decimal) (zone : Zone) (failure : Cause) (offset : Nat) : Checked Date := do
  let millis ← orFail offset failure (seconds.mul? (.ofNat 1000))
  let millis ← (millis.roundPlaces 0 .toEven).toInteger offset
  let instant ← orFail offset failure (Instant.check? (.ofMillis millis))
  pure { instant, zone, label := none, form := .dayTime }

end Date

end Reckoner
