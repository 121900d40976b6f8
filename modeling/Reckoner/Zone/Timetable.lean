import Reckoner.Calendar.Clock
import Reckoner.Text.Digits

/-!
# Timetables

A region's clocks run a number of seconds ahead of universal time, and that
number changes now and then.  A `Timetable` is the offset at the beginning and
the list of changes, in ascending order of time.

Changes are partly listed and partly go by a rule that repeats every year, a
`Recurrence`: on the first, second, … or last such weekday of a month.  Rules
are carried up to the year 2099; the last offset stays for ever.
-/

namespace Reckoner

/-- A moment that comes every year: the `week`-th `weekday` of `month` (the
last one for week five, Sunday being weekday zero), `seconds` after its
midnight. -/
structure YearlyMoment where
  month : Nat
  week : Nat
  weekday : Nat
  seconds : Int
deriving DecidableEq, Repr

/-- The moment of one year, in seconds on the wall clock. -/
def YearlyMoment.inYear (m : YearlyMoment) (year : Int) : Int :=
  let first := Day.number { year, month := m.month, day := 1 }
  let ahead := ((m.weekday : Int) - Day.weekday first) % 7
  let day := ahead + 7 * (m.week - 1 : Nat)
  let length : Int := Day.daysInMonth year m.month
  let day := if length ≤ day then day - 7 else day
  (first + day) * 86400 + m.seconds

/-- Summer time that comes every year from `firstYear` on. -/
structure Recurrence where
  firstYear : Nat
  winter : Int
  summer : Int
  toSummer : YearlyMoment
  toWinter : YearlyMoment
deriving DecidableEq, Repr

namespace Recurrence

/-- Rules are not carried beyond this year. -/
def lastYear : Nat := 2099

/-- The two changes of one year, in order. -/
def changesIn (r : Recurrence) (year : Nat) : List (Int × Int) :=
  let begin := (r.toSummer.inYear year - r.winter, r.summer)
  let finish := (r.toWinter.inYear year - r.summer, r.winter)
  if begin.1 < finish.1 then [begin, finish] else [finish, begin]

/-- All changes by the rule. -/
def changes (r : Recurrence) : List (Int × Int) :=
  (List.range (lastYear + 1 - r.firstYear)).flatMap fun n => r.changesIn (r.firstYear + n)

end Recurrence

/-- The offsets of a region, in seconds east, and when they change. -/
structure Timetable where
  initial : Int
  changes : List (Int × Int)
deriving DecidableEq, Repr

namespace Timetable

/-- The offset in force at second `t`, given the one before all changes. -/
def offsetFrom (current : Int) (t : Int) : List (Int × Int) → Int
  | [] => current
  | (since, offset) :: rest => if since ≤ t then offsetFrom offset t rest else current

/-- The offset in force at a second of universal time. -/
def offsetAt (table : Timetable) (t : Int) : Int := offsetFrom table.initial t table.changes

/-- The first second at which the clocks show `w`, where `current` has been in
force since `since` and `changes` follow. -/
def firstShowing? (w : Int) (since : Option Int) (current : Int) :
    List (Int × Int) → Option Int
  | [] =>
    let t := w - current
    if since.all (· ≤ t) then some t else none
  | (next, offset) :: rest =>
    let t := w - current
    if since.all (· ≤ t) && t < next then some t
    else firstShowing? w (some next) offset rest

/-- The first second at which the clocks show `w`; none where a change skips
it. -/
def earliest? (table : Timetable) (w : Int) : Option Int :=
  firstShowing? w none table.initial table.changes

end Timetable

/-! ## Written changes -/

namespace Timetable

/-- A whole number with an optional minus sign. -/
def readInt (cs : List Char) : Int :=
  match cs with
  | '-' :: rest => -(Text.digitsValue rest : Int)
  | _ => Text.digitsValue cs

/-- One written change: a time and an offset with a colon between them. -/
def readChange (cs : List Char) : Int × Int :=
  (readInt (cs.takeWhile (· ≠ ':')), readInt ((cs.dropWhile (· ≠ ':')).drop 1))

/-- The words of a text that blanks divide. -/
def readWords : (word : List Char) → List Char → List (List Char)
  | [], [] => []
  | word, [] => [word.reverse]
  | word, c :: rest =>
    if c = ' ' then
      match word with
      | [] => readWords [] rest
      | _ => word.reverse :: readWords [] rest
    else readWords (c :: word) rest

/-- Written changes: a time and an offset with a colon between them, blanks
between two changes. -/
def readChanges (text : String) : List (Int × Int) := (readWords [] text.toList).map readChange

end Timetable

/-- A region with its offsets as they are written down, line by line. -/
structure RegionEntry where
  name : String
  initial : Int
  changes : List String
  rule : Option Recurrence

/-- The timetable of an entry: the written changes, then those by the rule. -/
def RegionEntry.timetable (e : RegionEntry) : Timetable :=
  { initial := e.initial
    changes := e.changes.flatMap Timetable.readChanges ++
      match e.rule with
      | some r => r.changes
      | none => [] }

end Reckoner
