/-!
# Days of the calendar

The Gregorian calendar, carried back and forth without end.  A `Day` is a
year, a month and a day of the month; `Day.number` counts days from the first
of January 1970 and `Day.ofNumber` goes back.

Years are counted from March inside these two functions, so that the leap day
is the last day of a year.
-/

namespace Reckoner

/-- A day of the calendar.  Months and days count from one. -/
structure Day where
  year : Int
  month : Nat
  day : Nat
deriving DecidableEq, Repr

namespace Day

/-- Whether a year has a leap day. -/
def isLeap (year : Int) : Bool :=
  (year % 4 == 0 && year % 100 != 0) || year % 400 == 0

/-- The number of days of a month. -/
def daysInMonth (year : Int) (month : Nat) : Nat :=
  match month with
  | 2 => if isLeap year then 29 else 28
  | 4 | 6 | 9 | 11 => 30
  | _ => 31

/-- The first year that dates can have. -/
def minYear : Int := -262143

/-- The last year that dates can have. -/
def maxYear : Int := 262142

/-- Whether a year is within the range of dates. -/
def yearInRange (year : Int) : Bool := minYear ≤ year && year ≤ maxYear

/-- The day, if the calendar has it. -/
def ofParts? (year : Int) (month day : Nat) : Option Day :=
  if yearInRange year && 1 ≤ month && month ≤ 12 && 1 ≤ day && day ≤ daysInMonth year month then
    some { year, month, day }
  else none

/-- Days from the first of January 1970. -/
def number (d : Day) : Int :=
  let y := if d.month ≤ 2 then d.year - 1 else d.year
  let era := y / 400
  let yearOfEra := y % 400
  let monthFromMarch : Int := (d.month + 9) % 12
  let dayOfYear := (153 * monthFromMarch + 2) / 5 + d.day - 1
  let dayOfEra := yearOfEra * 365 + yearOfEra / 4 - yearOfEra / 100 + dayOfYear
  era * 146097 + dayOfEra - 719468

/-- The day with the given number. -/
def ofNumber (n : Int) : Day :=
  let z := n + 719468
  let era := z / 146097
  let dayOfEra := z % 146097
  let yearOfEra :=
    (dayOfEra - dayOfEra / 1460 + dayOfEra / 36524 - dayOfEra / 146096) / 365
  let dayOfYear := dayOfEra - (365 * yearOfEra + yearOfEra / 4 - yearOfEra / 100)
  let monthFromMarch := (5 * dayOfYear + 2) / 153
  let day := dayOfYear - (153 * monthFromMarch + 2) / 5 + 1
  let month := if monthFromMarch < 10 then monthFromMarch + 3 else monthFromMarch - 9
  let year := yearOfEra + era * 400
  { year := if month ≤ 2 then year + 1 else year, month := month.toNat, day := day.toNat }

/-- The day of the week of a day number, Monday being one. -/
def weekday (n : Int) : Nat := ((n + 3) % 7).toNat + 1

/-- The day `months` months later, or earlier if negative.  A day that the
target month does not have becomes its last one. -/
def addMonths (d : Day) (months : Int) : Day :=
  let index := 12 * d.year + (d.month - 1 : Nat) + months
  let year := index / 12
  let month := (index % 12).toNat + 1
  { year, month, day := min d.day (daysInMonth year month) }

end Day

end Reckoner
