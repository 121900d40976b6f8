import Reckoner.Date
import Reckoner.Proofs.Calendar.Days
import Reckoner.Proofs.Decimal.Whole

/-!
# Moves of instants, readings and dates

* Seconds with nanoseconds are one number of nanoseconds (`totalNanos`), and a move adds to it
  (`moveBy_of_lt`), but for leap seconds.  A leap second that is moved by a whole second or more
  becomes the second it belongs to, and then is moved (`moveBy_seconds`).
* A whole number of days, weeks, months or years moves the reading (`Wall.moved?`) and looks for
  an instant that shows it (`Date.shift_eq`).  From a reading near the range a number of them that
  leads into the range has room in a 64-bit word (`Wall.Near.fits`).
-/

namespace Reckoner

/-! ## Seconds and nanoseconds -/

section

variable {seconds : Int} {nanos : Nat}

/-- Nanoseconds in all. -/
def totalNanos (seconds : Int) (nanos : Nat) : Int := seconds * 1000000000 + nanos

/-- Outside of leap seconds a move adds nanoseconds. -/
theorem moveBy_of_lt (h : nanos < nanosPerSecond) (delta : Int) :
    moveBy seconds nanos delta = ((totalNanos seconds nanos + delta) / 1000000000,
      ((totalNanos seconds nanos + delta) % 1000000000).toNat) := by
  have hparts := Int.mul_tdiv_add_tmod delta 1000000000
  simp only [nanosPerSecond] at h
  simp only [moveBy, totalNanos, nanosPerSecond, Int.cast_ofNat_Int]
  rw [if_neg (by omega), if_pos (Or.inl h), Nat.mod_eq_of_lt h]
  simp only [Prod.mk.injEq]
  omega

/-- A move by whole seconds, forwards. -/
theorem moveBy_seconds {n : Int} (hn : 0 < n) :
    moveBy seconds nanos (n * 1000000000) = (seconds + n, nanos % 1000000000) := by
  have hwhole : Int.tdiv (n * 1000000000) 1000000000 = n := Int.mul_tdiv_cancel n (by decide)
  have hpart : Int.tmod (n * 1000000000) 1000000000 = 0 := Int.mul_tmod_left n _
  simp only [moveBy, nanosPerSecond, Int.cast_ofNat_Int, hwhole, hpart]
  rw [if_neg (by omega), if_pos (Or.inr (Int.le_of_lt hn))]
  simp only [Prod.mk.injEq]
  omega

end

/-! ## Units that follow the calendar -/

/-- Days, weeks, months and years. -/
def CalendarUnit.dated : CalendarUnit → Bool
  | .day | .week | .month | .year => true
  | .second | .minute | .hour => false

namespace Wall

/-- The reading a whole number of units later, by the calendar. -/
def moved? (w : Wall) (n : Int) : CalendarUnit → Option Wall
  | .day => w.addDays? (n * 1)
  | .week => w.addDays? (n * 7)
  | .month => w.addMonths? (n * 1)
  | .year => w.addMonths? (n * 12)
  | .second | .minute | .hour => none

/-- An hour later; a leap second is left. -/
def hourLater (w : Wall) : Wall := ⟨w.seconds + 3600, w.nanos % 1000000000⟩

theorem hourLater?_eq (w : Wall) : w.hourLater? = w.hourLater.check? := by
  have hmove : moveBy w.seconds w.nanos (3600 * nanosPerSecond : Nat) =
      (w.seconds + 3600, w.nanos % 1000000000) := moveBy_seconds (n := 3600) (by decide)
  rw [hourLater?, hmove]
  rfl

variable {w w' : Wall} {n : Int} {unit : CalendarUnit}

theorem dated_of_moved? (h : w.moved? n unit = some w') : unit.dated = true := by
  cases unit with
  | day | week | month | year => rfl
  | second | minute | hour => cases h

theorem addDays?_eq_some_iff : w.addDays? n = some w' ↔
    w'.inRange = true ∧ w' = { w with seconds := w.seconds + n * 86400 } := by
  rw [addDays?, check?_eq_some_iff]
  constructor
  · rintro ⟨h, rfl⟩
    exact ⟨h, rfl⟩
  · rintro ⟨h, rfl⟩
    exact ⟨h, rfl⟩

theorem Near.year_bounds (h : w.Near) :
    Day.minYear - 1 ≤ w.day.year ∧ w.day.year < Day.maxYear + 2 := by
  have hvalid := Day.valid_ofNumber w.dayNumber
  have hlow := hvalid.le_year_iff (Day.minYear - 1)
  have hhigh := hvalid.le_year_iff (Day.maxYear + 2)
  have hfirst : Day.number ⟨Day.minYear - 1, 1, 1⟩ = -96465658 := by decide
  have hlast : Day.number ⟨Day.maxYear + 2, 1, 1⟩ = 95026602 := by decide
  rw [Day.number_ofNumber] at hlow hhigh
  obtain ⟨hstart, hstop⟩ := h
  rw [rangeStart_eq] at hstart
  rw [rangeStop_eq] at hstop
  have hday : w.dayNumber = w.seconds / 86400 := rfl
  rw [day]
  omega

theorem addMonths?_eq_some_iff : w.addMonths? n = some w' ↔
    Day.yearInRange (w.day.addMonths n).year = true ∧
      w' = { w with seconds := (w.day.addMonths n).number * 86400 + w.seconds % 86400 } := by
  rw [addMonths?]
  split
  · rename_i hyear
    simp only [Option.some.injEq, hyear, true_and, eq_comm]
  · rename_i hyear
    simp only [hyear, reduceCtorEq, false_and]

theorem Near.bounds_of_addDays? (hw : w.Near) (h : w.addDays? n = some w') :
    -200000000 < n ∧ n < 200000000 := by
  obtain ⟨hrange, rfl⟩ := addDays?_eq_some_iff.1 h
  rw [inRange_iff] at hrange
  obtain ⟨hlow, hhigh⟩ := hw
  rw [rangeStart_eq, rangeStop_eq] at hrange
  rw [rangeStart_eq] at hlow
  rw [rangeStop_eq] at hhigh
  dsimp only at hrange
  omega

theorem Near.bounds_of_addMonths? (hw : w.Near) (h : w.addMonths? n = some w') :
    -200000000 < n ∧ n < 200000000 := by
  obtain ⟨hrange, -⟩ := addMonths?_eq_some_iff.1 h
  have hyear := hw.year_bounds
  have hmonth : w.day.month ≤ 12 := (Day.valid_ofNumber w.dayNumber).month_le
  rw [Day.yearInRange_iff] at hrange
  simp only [Day.addMonths, Day.minYear, Day.maxYear] at hrange hyear
  omega

/-- What leads into the range is not large. -/
theorem Near.fits (hw : w.Near) (h : w.moved? n unit = some w') : FitsInt64 n := by
  suffices hbounds : -200000000 < n ∧ n < 200000000 by
    simp only [FitsInt64, Decimal.int64Min, Decimal.int64Max]
    omega
  cases unit with
  | day | week =>
    have := hw.bounds_of_addDays? h
    omega
  | month | year =>
    have := hw.bounds_of_addMonths? h
    omega
  | second | minute | hour => cases h

end Wall

namespace Date

variable {d d' : Date} {amount : Decimal} {n : Int} {unit : CalendarUnit} {o : Nat}

theorem shift_eq_bind (hunit : unit.dated = true) (hwhole : amount.isWhole = true) :
    d.shift amount unit o = amount.toInteger o >>= fun n => d.atWall (d.wall.moved? n unit) o := by
  cases unit with
  | day | week | month | year => exact if_pos hwhole
  | second | minute | hour => cases hunit

theorem shift_eq (hunit : unit.dated = true) (hn : amount.toRat = n) (hfits : FitsInt64 n) :
    d.shift amount unit o = d.atWall (d.wall.moved? n unit) o := by
  rw [shift_eq_bind hunit (Decimal.isWhole_of_toRat hn), Decimal.toInteger_of_toRat hn hfits]
  rfl

/-- A date is moved by finding an instant for the reading moved. -/
theorem shift_eq_ok_iff (hunit : unit.dated = true) (hn : amount.toRat = n) (hd : d.wall.Near) :
    d.shift amount unit o = .ok d' ↔ ∃ w i, d.wall.moved? n unit = some w ∧
      d.zone.instantOf? w = some i ∧ d' = { d with instant := i } := by
  by_cases hfits : FitsInt64 n
  · rw [shift_eq hunit hn hfits, atWall]
    cases d.wall.moved? n unit with
    | none => simp [failAt]
    | some w =>
      cases hi : d.zone.instantOf? w with
      | none => simp [failAt, hi]
      | some i => simp [pure, Except.pure, hi, eq_comm]
  · rw [shift_eq_bind hunit (Decimal.isWhole_of_toRat hn), Decimal.toInteger_of_not_fits hn hfits]
    constructor
    · intro h
      cases h
    · rintro ⟨w, i, hmoved, -⟩
      exact absurd (hd.fits hmoved) hfits

end Date

end Reckoner
