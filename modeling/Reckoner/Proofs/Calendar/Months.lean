import Reckoner.Proofs.Calendar.Moves
import Reckoner.Proofs.Quantity.Size
import Reckoner.Proofs.Zone.Readings

/-!
# Dates moved by months

What a number of months later means is said of readings (`Wall.MonthsLater`): months and years are
counted through, a day that the month does not have becomes its last one, and the time of day stays.

`Date.shift_months`: on clocks whose offset never changes a date moved by months shows that reading,
years are twelve months, and the same number of months leads back from a day up to the 28th.
-/

namespace Reckoner

namespace Day

variable {d : Day} {n : Int}

theorem valid_addMonths (h : d.Valid) : (d.addMonths n).Valid := by
  have hlength := daysInMonth_bounds (d.addMonths n).year (d.addMonths n).month
  have hone := h.one_le_day
  have hday : (d.addMonths n).day =
      min d.day (daysInMonth (d.addMonths n).year (d.addMonths n).month) := rfl
  refine ⟨Nat.le_add_left 1 _, ?_, by omega, by omega⟩
  simp only [addMonths]
  omega

/-- Months that are counted back lead back, unless the day became the last of its month. -/
theorem addMonths_addMonths_neg (h : d.Valid) (hday : d.day ≤ 28) :
    (d.addMonths n).addMonths (-n) = d := by
  obtain ⟨year, month, day⟩ := d
  have hone := h.one_le_month
  have htwelve := h.month_le
  have hlength := daysInMonth_bounds ((12 * year + (month - 1 : Nat) + n) / 12)
    (((12 * year + (month - 1 : Nat) + n) % 12).toNat + 1)
  have hback := daysInMonth_bounds year month
  dsimp only at hone htwelve hday
  have hindex : 12 * ((12 * year + (month - 1 : Nat) + n) / 12) +
      (((12 * year + (month - 1 : Nat) + n) % 12).toNat + 1 - 1 : Nat) + -n =
        12 * year + (month - 1 : Nat) := by
    omega
  have hyear : (12 * year + ((month - 1 : Nat) : Int)) / 12 = year := by omega
  have hmonth : ((12 * year + ((month - 1 : Nat) : Int)) % 12).toNat + 1 = month := by omega
  simp only [addMonths, hindex, hyear, hmonth, Day.mk.injEq, true_and]
  omega

end Day

namespace Wall

/-- The reading some months later: the months are counted from January of year zero. -/
structure MonthsLater (w : Wall) (n : Int) (w' : Wall) : Prop where
  year : w'.day.year = (12 * w.day.year + (w.day.month - 1) + n) / 12
  month : (w'.day.month : Int) = (12 * w.day.year + (w.day.month - 1) + n) % 12 + 1
  day : w'.day.day = min w.day.day (Day.daysInMonth w'.day.year w'.day.month)
  secondOfDay : w'.secondOfDay = w.secondOfDay
  nanos : w'.nanos = w.nanos

variable {w w' : Wall} {n : Int}

/-- The reading that `addMonths?` checks. -/
def addMonths (w : Wall) (n : Int) : Wall :=
  { w with seconds := (w.day.addMonths n).number * 86400 + w.seconds % 86400 }

theorem valid_day (w : Wall) : w.day.Valid := Day.valid_ofNumber _

theorem day_addMonths (w : Wall) (n : Int) : (w.addMonths n).day = w.day.addMonths n := by
  have hnumber : (w.addMonths n).dayNumber = (w.day.addMonths n).number := by
    simp only [dayNumber, addMonths, secondsPerDay]
    omega
  rw [day, hnumber, Day.ofNumber_number (Day.valid_addMonths w.valid_day)]

theorem seconds_eq (w : Wall) : w.seconds = w.day.number * 86400 + w.seconds % 86400 := by
  rw [day, Day.number_ofNumber]
  simp only [dayNumber, secondsPerDay]
  omega

theorem addMonths?_eq : w.addMonths? n =
    if (w.addMonths n).inRange then some (w.addMonths n) else none := by
  rw [inRange, day_addMonths]
  rfl

theorem monthsLater_addMonths (w : Wall) (n : Int) : w.MonthsLater n (w.addMonths n) := by
  have hmonth := w.valid_day.one_le_month
  refine ⟨?_, ?_, ?_, ?_, rfl⟩
  · rw [day_addMonths]
    simp only [Day.addMonths]
    omega
  · rw [day_addMonths]
    simp only [Day.addMonths]
    omega
  · rw [day_addMonths]
    rfl
  · simp only [secondOfDay, addMonths, secondsPerDay]
    omega

/-- There is only one reading some months later. -/
theorem MonthsLater.eq (h : w.MonthsLater n w') : w' = w.addMonths n := by
  have hcalendar := w.monthsLater_addMonths n
  have hday : w'.day = (w.addMonths n).day := by
    have hyear := h.year.trans hcalendar.year.symm
    have hmonth : w'.day.month = (w.addMonths n).day.month := by
      exact_mod_cast h.month.trans hcalendar.month.symm
    have hday := h.day
    rw [hyear, hmonth, ← hcalendar.day] at hday
    cases hw : w'.day
    cases hw' : (w.addMonths n).day
    rw [hw, hw'] at hyear hmonth hday
    exact congr (congr (congrArg Day.mk hyear) hmonth) hday
  have hseconds : w'.seconds = (w.addMonths n).seconds := by
    have htime := h.secondOfDay.trans hcalendar.secondOfDay.symm
    have hleft := w'.seconds_eq
    have hright := (w.addMonths n).seconds_eq
    rw [hday] at hleft
    simp only [Wall.secondOfDay, secondsPerDay] at htime
    omega
  exact congr (congrArg Wall.mk hseconds) (h.nanos.trans hcalendar.nanos.symm)

/-- The same number of months leads back. -/
theorem addMonths_addMonths_neg (h : w.day.day ≤ 28) : (w.addMonths n).addMonths (-n) = w := by
  have hseconds : ((w.addMonths n).addMonths (-n)).seconds = w.seconds := by
    rw [addMonths, day_addMonths, Day.addMonths_addMonths_neg w.valid_day h]
    show w.day.number * 86400 + ((w.day.addMonths n).number * 86400 + w.seconds % 86400) % 86400 =
      w.seconds
    have := w.seconds_eq
    omega
  exact congrArg (Wall.mk · w.nanos) hseconds

end Wall

namespace Date

variable {d : Date} {n : Decimal} {months : Int}

/-- On clocks whose offset never changes, months are counted through, in both directions: if an
instant in the range shows the reading that number of months later, the date moved is that instant,
with all else as it was.  Years are twelve months.  And the same number of months leads back, from a
day that all months have. -/
theorem shift_months {seconds : Int} (hzone : d.zone = .fixed seconds)
    (hoffset : Timetable.IsOffset seconds) (hd : d.instant.InRange) (hn : n.toRat = months)
    (o : Nat) :
    (∃ w, d.wall.MonthsLater months w) ∧
    (∀ i : Instant, i.InRange → (d.zone.wallClock i).inRange →
      d.wall.MonthsLater months (d.zone.wallClock i) →
        d.shift n .month o = .ok { d with instant := i } ∧
        (d.wall.inRange → d.wall.day.day ≤ 28 →
          ({ d with instant := i } : Date).shift n.neg .month o = .ok d)) ∧
    ∀ m : Decimal, m.toRat = 12 * n.toRat → ∀ d',
      d.shift n .year o = .ok d' ↔ d.shift m .month o = .ok d' := by
  have hlawful : d.zone.Lawful := hzone ▸ hoffset
  have hnear (i : Instant) (hi : i.InRange) : (d.zone.wallClock i).Near := hlawful.near hi
  have hfixed (i : Instant) (hi : i.InRange) : d.zone.instantOf? (d.zone.wallClock i) = some i := by
    rw [hzone]
    exact Zone.instantOf?_wallClock_fixed seconds hi
  refine ⟨⟨_, d.wall.monthsLater_addMonths months⟩, fun i hi hshown hlater => ⟨?_, ?_⟩, ?_⟩
  · refine (shift_eq_ok_iff rfl hn (hnear _ hd)).2 ⟨_, i, ?_, hfixed i hi, rfl⟩
    rw [Wall.moved?, mul_one, Wall.addMonths?_eq, ← hlater.eq, if_pos hshown]
  · intro hrange hday
    have hback : n.neg.toRat = ((-months : Int) : ℚ) := by
      rw [Decimal.toRat_neg, hn, Int.cast_neg]
    have hwall : ({ d with instant := i } : Date).wall = d.wall.addMonths months := hlater.eq
    refine (shift_eq_ok_iff (d := { d with instant := i }) rfl hback (hnear i hi)).2
      ⟨d.wall, d.instant, ?_, hfixed _ hd, rfl⟩
    rw [hwall, Wall.moved?, mul_one, Wall.addMonths?_eq, Wall.addMonths_addMonths_neg hday,
      if_pos hrange]
  · intro m hm d'
    have hmonths : m.toRat = ((months * 12 : Int) : ℚ) := by
      rw [hm, hn]
      push_cast
      exact mul_comm _ _
    rw [shift_eq_ok_iff rfl hn (hnear _ hd), shift_eq_ok_iff rfl hmonths (hnear _ hd)]
    simp only [Wall.moved?, mul_one]

/-- The last of January 2024, an hour ahead of universal time. -/
def lastOfJanuary : Date :=
  { instant := ⟨1706655600, 0⟩, zone := .fixed 3600, label := some "UTC+1", form := .day }

/-- A month later is the last of February, which was a leap day. -/
theorem shift_months_leap :
    lastOfJanuary.wall.day = ⟨2024, 1, 31⟩ ∧ lastOfJanuary.instant.InRange ∧
      Decimal.one.toRat = ((1 : Int) : ℚ) ∧
      lastOfJanuary.shift .one .month 0 = .ok { lastOfJanuary with instant := ⟨1709161200, 0⟩ } ∧
      (Zone.fixed 3600).wallClock ⟨1709161200, 0⟩ = Wall.midnight ⟨2024, 2, 29⟩ := by
  have hone : Decimal.one.toRat = ((1 : Int) : ℚ) := by rw [Decimal.toRat_one, Int.cast_one]
  have hrange (t : Int) (ht : 0 ≤ t ∧ t < 1800000000) : Instant.InRange ⟨t, 0⟩ := by
    rw [Instant.InRange, rangeStart_eq, rangeStop_eq]
    dsimp only
    omega
  have hlater : lastOfJanuary.wall.MonthsLater 1 ((Zone.fixed 3600).wallClock ⟨1709161200, 0⟩) :=
    ⟨by decide, by decide, by decide, by decide, rfl⟩
  obtain ⟨-, hmoved, -⟩ := shift_months (d := lastOfJanuary) rfl (by decide)
    (hrange _ (by decide)) hone 0
  exact ⟨by decide, hrange _ (by decide), hone,
    (hmoved ⟨1709161200, 0⟩ (hrange _ (by decide)) (by decide) hlater).1, by decide⟩

end Date

end Reckoner
