import Reckoner.Proofs.Calendar.Moves
import Reckoner.Proofs.Calendar.Shifts
import Reckoner.Proofs.Zone.Readings

/-!
# Sums of dates and times, and differences of dates

On clocks whose offset never changes a date moved by seconds, minutes, hours, days or weeks differs
from the date by just that time, and the time leads back (`Eval.sums_return`).  The one way goes
through decimals that are rounded to milliseconds (`Date.shiftDuration_eq_ok_iff`), the other, for
whole days and weeks, through readings (`Date.instant_of_shift_days`).

A leap second that is left is not returned to, and does not count.
-/

namespace Reckoner

/-! ## Moves by milliseconds -/

/-- However a move treats a leap second, it is off by less than three seconds. -/
theorem moveBy_bounds (seconds : Int) (nanos : Nat) (delta : Int) :
    delta - 3000000000 ≤ ((moveBy seconds nanos delta).1 - seconds) * 1000000000 ∧
      ((moveBy seconds nanos delta).1 - seconds) * 1000000000 ≤ delta + 3000000000 := by
  have hparts := Int.mul_tdiv_add_tmod delta 1000000000
  have hbelow := Int.tmod_lt_of_pos delta (b := 1000000000) (by decide)
  have habove := Int.lt_tmod_of_pos delta (b := 1000000000) (by decide)
  simp only [moveBy, nanosPerSecond, Int.cast_ofNat_Int]
  split
  · dsimp only
    omega
  · split <;> omega

namespace Instant

variable {i j : Instant} {n : Int}

/-- Nanoseconds from the start of 1970, outside of leap seconds. -/
def nanosInAll (i : Instant) : Int := totalNanos i.seconds i.nanos

theorem addMillis?_eq_some_iff (hi : i.nanos < nanosPerSecond) : i.addMillis? n = some j ↔
    j.InRange ∧ j.nanos < nanosPerSecond ∧ j.nanosInAll = i.nanosInAll + n * 1000000 := by
  rw [addMillis?, moveBy_of_lt hi, check?_eq_some_iff, ← nanosInAll]
  generalize i.nanosInAll + n * 1000000 = all
  obtain ⟨seconds, nanos⟩ := j
  simp only [nanosInAll, totalNanos, nanosPerSecond, InRange, Instant.mk.injEq]
  omega

/-- Only so many milliseconds lead into the range. -/
theorem bounds_of_addMillis? (hi : i.InRange) (h : i.addMillis? n = some j) :
    -100000000000000000 < n ∧ n < 100000000000000000 := by
  have hrange : InRange ⟨(moveBy i.seconds i.nanos (n * 1000000)).1, _⟩ :=
    (check?_eq_some_iff.1 h).1
  have hbounds := moveBy_bounds i.seconds i.nanos (n * 1000000)
  simp only [InRange, rangeStart_eq, rangeStop_eq] at hi hrange
  omega

/-- Outside of leap seconds the time between two instants is the difference. -/
theorem nanosSince_of_lt (hi : i.nanos < nanosPerSecond) (hj : j.nanos < nanosPerSecond) :
    i.nanosSince j = i.nanosInAll - j.nanosInAll := by
  simp only [nanosPerSecond] at hi hj
  simp only [nanosSince, nanosInAll, totalNanos, nanosPerSecond]
  rw [if_neg (by omega), if_neg (by omega)]
  omega

/-- Instants with the same time of day are whole days apart, leap seconds or not. -/
theorem nanosSince_of_dvd (i : Instant) (h : 86400 ∣ n) :
    nanosSince { i with seconds := i.seconds + n } i = n * 1000000000 := by
  simp only [nanosSince, nanosPerSecond, secondsPerDay]
  rw [if_neg (by omega), if_neg (by omega)]
  omega

theorem eq_of_nanosInAll (hi : i.nanos < nanosPerSecond) (hj : j.nanos < nanosPerSecond)
    (h : i.nanosInAll = j.nanosInAll) : i = j := by
  simp only [nanosPerSecond] at hi hj
  simp only [nanosInAll, totalNanos] at h
  have hseconds : i.seconds = j.seconds := by omega
  have hnanos : i.nanos = j.nanos := by omega
  exact congr (congrArg Instant.mk hseconds) hnanos

end Instant

/-! ## Amounts in milliseconds -/

namespace Date

variable {d d' : Date} {amount : Decimal} {n : Int} {unit : CalendarUnit} {o : Nat}

theorem durationMillis_eq_ok_iff : durationMillis amount unit o = .ok n ↔
    ∃ x y, amount.mul? (.ofNat (unitSeconds unit)) = some x ∧ x.mul? (.ofNat 1000) = some y ∧
      (y.roundPlaces 0 .toEven).toInteger o = .ok n := by
  rw [durationMillis]
  cases hx : amount.mul? (.ofNat (unitSeconds unit)) with
  | none => simp [orFail, failAt, bind, Except.bind]
  | some x =>
    cases hy : x.mul? (.ofNat 1000) with
    | none => simp [orFail, failAt, bind, Except.bind, hy]
    | some y => simp [orFail, bind, Except.bind, hy]

theorem toRat_unitSeconds (unit : CalendarUnit) :
    (Decimal.ofNat (unitSeconds unit)).toRat = unitSeconds unit :=
  Decimal.toRat_ofNat (by cases unit <;> decide)

theorem toRat_thousand : (Decimal.ofNat 1000).toRat = 1000 := Decimal.toRat_ofNat (by decide)

/-- As long as there are not too many, whole milliseconds are not rounded. -/
theorem durationMillis_of_small (hn : amount.toRat * unitSeconds unit * 1000 = n)
    (hsmall : n.natAbs < 1000000000000000000) : durationMillis amount unit o = .ok n := by
  have hroom : n.natAbs < Decimal.capacity := hsmall.trans (by decide)
  have hseconds : amount.toRat * unitSeconds unit = n / 1000 := by
    rw [← hn, mul_div_cancel_right₀ _ (by norm_num)]
  have hx := Decimal.value_mul? amount (.ofNat (unitSeconds unit))
  rw [toRat_unitSeconds, hseconds, Decimal.rounded?_thousandths hroom] at hx
  obtain ⟨x, hx, hxvalue⟩ := Option.map_eq_some_iff.1 hx
  have hy := Decimal.value_mul? x (.ofNat 1000)
  rw [toRat_thousand, hxvalue, div_mul_cancel₀ _ (by norm_num),
    Decimal.rounded?_intCast hroom] at hy
  obtain ⟨y, hy, hyvalue⟩ := Option.map_eq_some_iff.1 hy
  have hfits : FitsInt64 n := by
    simp only [FitsInt64, Decimal.int64Min, Decimal.int64Max]
    omega
  exact durationMillis_eq_ok_iff.2 ⟨x, y, hx, hy,
    Decimal.toInteger_of_toRat (Decimal.toRat_roundPlaces_zero hyvalue) hfits⟩

/-- Too many milliseconds stay too many. -/
theorem le_of_durationMillis {millis : Int} (hn : amount.toRat * unitSeconds unit * 1000 = n)
    (hlarge : 1000000000000000000 ≤ n.natAbs) (h : durationMillis amount unit o = .ok millis) :
    1000000000000000000 ≤ millis.natAbs := by
  obtain ⟨x, y, hx, hy, hmillis⟩ := durationMillis_eq_ok_iff.1 h
  have hxvalue := Decimal.value_mul? amount (.ofNat (unitSeconds unit))
  have hyvalue := Decimal.value_mul? x (.ofNat 1000)
  rw [hx, Option.map_some, toRat_unitSeconds] at hxvalue
  rw [hy, Option.map_some, toRat_thousand] at hyvalue
  have hseconds : ((1000000000000000 : Nat) : ℚ) ≤ |amount.toRat * unitSeconds unit| := by
    have hall : ((1000000000000000000 : Nat) : ℚ) ≤ |amount.toRat * unitSeconds unit * 1000| := by
      rw [hn, Decimal.abs_intCast]
      exact_mod_cast hlarge
    rw [abs_mul] at hall
    norm_num at hall ⊢
    linarith
  have hxlarge := Decimal.le_abs_of_rounded hxvalue.symm hseconds
  have hproduct : ((1000000000000000000 : Nat) : ℚ) ≤ |x.toRat * 1000| := by
    rw [abs_mul]
    norm_num at hxlarge ⊢
    linarith
  have hylarge := Decimal.le_abs_of_rounded hyvalue.symm hproduct
  have hround := Decimal.le_abs_roundPlaces_zero hylarge
  rw [Decimal.toRat_of_toInteger hmillis, Decimal.abs_intCast] at hround
  exact_mod_cast hround

/-- A fixed duration moves the instant by its milliseconds. -/
theorem shiftDuration_eq_ok_iff (hd : d.instant.InRange)
    (hn : amount.toRat * unitSeconds unit * 1000 = n) :
    d.shiftDuration amount unit o = .ok d' ↔ ∃ i, d.instant.addMillis? n = some i ∧
      d' = { d with instant := i, form := d.form.timed } := by
  have hmoved (millis : Int) : (orFail o (.domain .dateRange) (d.instant.addMillis? millis) >>=
      fun i => pure { d with instant := i, form := d.form.timed }) = .ok d' ↔
        ∃ i, d.instant.addMillis? millis = some i ∧
          d' = { d with instant := i, form := d.form.timed } := by
    cases d.instant.addMillis? millis with
    | none => simp [orFail, failAt, bind, Except.bind]
    | some i => simp [orFail, bind, Except.bind, pure, Except.pure, eq_comm]
  rw [shiftDuration]
  constructor
  · intro h
    obtain ⟨millis, hmillis, h⟩ := ok_bind_eq_ok h
    obtain ⟨i, hi, hd'⟩ := (hmoved millis).1 h
    have hbounds := Instant.bounds_of_addMillis? hd hi
    rcases Nat.lt_or_ge n.natAbs 1000000000000000000 with hsmall | hlarge
    · rw [durationMillis_of_small hn hsmall] at hmillis
      cases hmillis
      exact ⟨i, hi, hd'⟩
    · have := le_of_durationMillis hn hlarge hmillis
      omega
  · rintro ⟨i, hi, hd'⟩
    have hbounds := Instant.bounds_of_addMillis? hd hi
    rw [durationMillis_of_small hn (by omega)]
    exact (hmoved n).2 ⟨i, hi, hd'⟩

end Date

/-! ## Whole days and weeks -/

/-- Where the offset never changes a reading denotes the instant that shows it, unless that comes
before the range: then it may denote the one an hour later. -/
theorem Zone.instant_of_instantOf?_fixed {seconds : Int} {w : Wall} {i : Instant}
    (h : (Zone.fixed seconds).instantOf? w = some i) (hstart : rangeStart ≤ w.seconds - seconds) :
    i.InRange ∧ i = ⟨w.seconds - seconds, w.nanos⟩ := by
  have hearliest (v : Wall) : (Zone.fixed seconds).earliest? v =
      Instant.check? ⟨v.seconds - seconds, v.nanos⟩ := rfl
  rw [instantOf?, hearliest] at h
  cases hfirst : Instant.check? ⟨w.seconds - seconds, w.nanos⟩ with
  | some j =>
    rw [hfirst] at h
    cases h
    obtain ⟨hrange, rfl⟩ := Instant.check?_eq_some_iff.1 hfirst
    exact ⟨hrange, rfl⟩
  | none =>
    rw [hfirst, Wall.hourLater?_eq] at h
    obtain ⟨v, hv, hlater⟩ := Option.bind_eq_some_iff.1 h
    obtain ⟨-, rfl⟩ := Wall.check?_eq_some_iff.1 hv
    obtain ⟨hrange, -⟩ := Instant.check?_eq_some_iff.1 hlater
    have hlast : w.seconds + 3600 - seconds < rangeStop := hrange.2
    rw [Instant.check?_of_inRange ⟨hstart, by dsimp only; omega⟩] at hfirst
    cases hfirst

namespace Date

variable {d d' : Date} {amount : Decimal} {n seconds : Int} {unit : CalendarUnit} {o : Nat}

/-- A whole number of days or weeks. -/
def ByDays (amount : Decimal) (unit : CalendarUnit) : Prop :=
  (unit = .day ∨ unit = .week) ∧ amount.isWhole = true

theorem shift_of_not_byDays (hmonth : unit ≠ .month) (hyear : unit ≠ .year)
    (h : ¬ByDays amount unit) : d.shift amount unit o = d.shiftDuration amount unit o := by
  cases unit with
  | day =>
    have hwhole : ¬amount.isWhole = true := fun hwhole => h ⟨.inl rfl, hwhole⟩
    rw [shift, if_neg hwhole]
  | week =>
    have hwhole : ¬amount.isWhole = true := fun hwhole => h ⟨.inr rfl, hwhole⟩
    rw [shift, if_neg hwhole]
  | month => exact absurd rfl hmonth
  | year => exact absurd rfl hyear
  | second | minute | hour => rfl

/-- Whole days and weeks later is so many seconds later. -/
theorem instant_of_shift_days (hzone : d.zone = .fixed seconds)
    (hoffset : Timetable.IsOffset seconds) (hd : d.instant.InRange)
    (hunit : unit = .day ∨ unit = .week) (hn : amount.toRat = n) (h : d.shift amount unit o = .ok d')
    (hstart : rangeStart ≤ d.instant.seconds + n * unitSeconds unit) :
    d'.instant.InRange ∧
      d' = { d with instant := { d.instant with
        seconds := d.instant.seconds + n * unitSeconds unit } } := by
  have hnear : d.wall.Near := (show d.zone.Lawful from hzone ▸ hoffset).near hd
  have hdated : unit.dated = true := by
    rcases hunit with rfl | rfl <;> rfl
  obtain ⟨w, i, hw, hi, rfl⟩ := (shift_eq_ok_iff hdated hn hnear).1 h
  have hmoved : w = ⟨d.wall.seconds + n * unitSeconds unit, d.instant.nanos⟩ := by
    rcases hunit with rfl | rfl
    all_goals
      obtain ⟨-, rfl⟩ := Wall.addDays?_eq_some_iff.1 hw
      refine congrArg (Wall.mk · d.instant.nanos) ?_
      simp only [unitSeconds]
      omega
  have hwall : d.wall.seconds = d.instant.seconds + seconds := by
    rw [wall, hzone]
    rfl
  have hshown : w.seconds - seconds = d.instant.seconds + n * unitSeconds unit := by
    rw [hmoved]
    dsimp only
    omega
  rw [hzone] at hi
  obtain ⟨hrange, rfl⟩ := Zone.instant_of_instantOf?_fixed hi (by omega)
  refine ⟨hrange, ?_⟩
  rw [hshown, hmoved]

theorem toRat_secondsSince (h : d'.instant.nanosSince d.instant = n * 1000000)
    (hroom : n.natAbs < Decimal.capacity) : (d'.secondsSince d).toRat = n / 1000 := by
  rw [secondsSince, h, Int.mul_tdiv_cancel n (by decide), Decimal.toRat_normalize,
    Decimal.toRat_ofThousandths hroom]

/-- Weeks are seven days, whether they are whole or not. -/
theorem shift_week_eq_ok_iff {weeks days : Decimal} (hd : d.instant.InRange) (hnear : d.wall.Near)
    (hn : weeks.toRat * 604800 * 1000 = n) (hdays : days.toRat = 7 * weeks.toRat) :
    d.shift weeks .week o = .ok d' ↔ d.shift days .day o = .ok d' := by
  have hwhole : days.isWhole = true ↔ weeks.isWhole = true :=
    Decimal.isWhole_mul_iff (k := 7) (by decide) (by exact_mod_cast hdays)
  by_cases h : weeks.isWhole = true
  · have hvalue := Decimal.toRat_of_isWhole h
    have hvalue' : days.toRat = ((weeks.toInt * 7 : Int) : ℚ) := by
      rw [hdays, hvalue, mul_comm]
      push_cast
      rfl
    rw [shift_eq_ok_iff rfl hvalue hnear, shift_eq_ok_iff rfl hvalue' hnear]
    simp only [Wall.moved?, mul_one]
  · have hweeks : weeks.toRat * unitSeconds .week * 1000 = n := hn
    have hn' : days.toRat * unitSeconds .day * 1000 = n := by
      rw [← hn, hdays]
      simp only [unitSeconds]
      push_cast
      ring
    rw [shift_of_not_byDays (by decide) (by decide) fun hday => h hday.2,
      shift_of_not_byDays (by decide) (by decide) fun hday => h (hwhole.1 hday.2),
      shiftDuration_eq_ok_iff hd hweeks, shiftDuration_eq_ok_iff hd hn']

/-- What is left aside: leap seconds that are left, and days that lead before the range. -/
structure Regular (d : Date) (amount : Decimal) (unit : CalendarUnit) (n : Int) : Prop where
  leap : ¬ByDays amount unit → d.instant.nanos < nanosPerSecond
  start : ByDays amount unit → rangeStart * 1000 ≤ d.instant.seconds * 1000 + n

/-- A date moved is just so far from the date, and the amount leads back. -/
structure Returns (d : Date) (amount : Decimal) (unit : CalendarUnit) (n : Int) (o : Nat)
    (d' : Date) : Prop where
  since : d'.instant.nanosSince d.instant = n * 1000000
  bounds : n.natAbs < Decimal.capacity
  back : ∀ d'', d'.shift amount.neg unit o = .ok d'' → d''.instant = d.instant

/-- Outside of leap seconds a duration adds to the nanoseconds, and so does the same duration
back. -/
theorem returns_of_shiftDuration (hd : d.instant.InRange)
    (hn : amount.toRat * unitSeconds unit * 1000 = n) (hmonth : unit ≠ .month)
    (hyear : unit ≠ .year) (hduration : ¬ByDays amount unit)
    (hleap : d.instant.nanos < nanosPerSecond) (h : d.shift amount unit o = .ok d') :
    d.Returns amount unit n o d' := by
  have hback : amount.neg.toRat * unitSeconds unit * 1000 = ((-n : Int) : ℚ) := by
    rw [Decimal.toRat_neg, Int.cast_neg, ← hn]
    ring
  rw [shift_of_not_byDays hmonth hyear hduration] at h
  obtain ⟨i, hi, rfl⟩ := (shiftDuration_eq_ok_iff hd hn).1 h
  have hbounds := Instant.bounds_of_addMillis? hd hi
  obtain ⟨hrange, hnanos, hall⟩ := (Instant.addMillis?_eq_some_iff hleap).1 hi
  refine ⟨?_, ?_, fun d'' hd'' => ?_⟩
  · rw [Instant.nanosSince_of_lt hnanos hleap, hall]
    omega
  · have hroom : n.natAbs < 100000000000000000 := by omega
    exact hroom.trans (by decide)
  · have hduration' : ¬ByDays amount.neg unit := hduration
    rw [shift_of_not_byDays hmonth hyear hduration'] at hd''
    obtain ⟨j, hj, rfl⟩ := (shiftDuration_eq_ok_iff hrange hback).1 hd''
    obtain ⟨-, hnanos', hall'⟩ := (Instant.addMillis?_eq_some_iff hnanos).1 hj
    dsimp only
    exact Instant.eq_of_nanosInAll hnanos' hleap (by omega)

/-- Days and weeks keep the time of day, that of a leap second too. -/
theorem returns_of_shift_days (hzone : d.zone = .fixed seconds)
    (hoffset : Timetable.IsOffset seconds) (hd : d.instant.InRange)
    (hn : amount.toRat * unitSeconds unit * 1000 = n) (hdays : ByDays amount unit)
    (hstart : rangeStart * 1000 ≤ d.instant.seconds * 1000 + n)
    (h : d.shift amount unit o = .ok d') : d.Returns amount unit n o d' := by
  obtain ⟨hunit, hwhole⟩ := hdays
  have hvalue := Decimal.toRat_of_isWhole hwhole
  obtain ⟨later, hlater⟩ : ∃ later, later = amount.toInt * (unitSeconds unit : Int) := ⟨_, rfl⟩
  have hn' : n = later * 1000 := by
    have hcast : (n : ℚ) = ((later * 1000 : Int) : ℚ) := by
      rw [← hn, hvalue, hlater]
      push_cast
      rfl
    exact_mod_cast hcast
  have hdvd : 86400 ∣ later := by
    rw [hlater]
    rcases hunit with rfl | rfl <;> simp only [unitSeconds] <;> omega
  obtain ⟨hrange, hd'⟩ := instant_of_shift_days hzone hoffset hd hunit hvalue h (by omega)
  rw [← hlater] at hd'
  have hinstant : d'.instant = { d.instant with seconds := d.instant.seconds + later } := by
    rw [hd']
  have hzone' : d'.zone = .fixed seconds := by
    rw [hd']
    exact hzone
  refine ⟨?_, ?_, fun d'' hd'' => ?_⟩
  · rw [hinstant, Instant.nanosSince_of_dvd _ hdvd]
    omega
  · simp only [hinstant, Instant.InRange, rangeStart_eq, rangeStop_eq] at hd hrange
    have hroom : n.natAbs < 100000000000000000 := by omega
    exact hroom.trans (by decide)
  · have hback : amount.neg.toRat = ((-amount.toInt : Int) : ℚ) := by
      rw [Decimal.toRat_neg, hvalue, Int.cast_neg]
    have hreturn : d'.instant.seconds + -amount.toInt * (unitSeconds unit : Int) =
        d.instant.seconds := by
      rw [hinstant, Int.neg_mul, ← hlater]
      exact Int.add_neg_cancel_right _ _
    obtain ⟨-, rfl⟩ := instant_of_shift_days hzone' hoffset hrange hunit hback hd''
      (by rw [hreturn]; exact hd.1)
    dsimp only
    rw [hreturn, hinstant]

end Date

/-! ## Sums and differences -/

namespace Eval

variable {ctx : Context} {op : BinaryOp} {d d' : Date} {n : Decimal} {u : String}
  {c : CalendarUnit} {o : Nat} {v : Value} {s t : Session}

theorem binary_date_quantity_eq_ok_iff (hop : op = .add ∨ op = .sub)
    (hu : MeasureUnit.calendarUnitOf? u = some c) :
    binary ctx op (.date d) (.quantity (timeOf n u)) o s = .ok v t ↔
      (∃ d', d.shift (signed op n) c o = .ok d' ∧ v = .date d') ∧ t = s := by
  rw [binary_date_quantity hop hu, lift_run_eq_ok_iff]
  refine and_congr ?_ Iff.rfl
  cases d.shift (signed op n) c o with
  | error e => simp [Functor.map, Except.map]
  | ok d' => simp [Functor.map, Except.map, eq_comm]

theorem binary_dates :
    binary ctx .sub (.date d') (.date d) o s =
      .ok (.quantity (timeOf (d'.secondsSince d) "s")) s := by
  have hu : MeasureUnit.calendarUnitOf? "s" = some .second := by decide
  simp only [binary, sub, ofTerms_calendar hu]
  rfl

/-- On clocks whose offset never changes sums and differences of dates and times are inverse.  Let a
date be moved by an amount of seconds, minutes, hours, days or weeks that is a whole number of
milliseconds.  Then the difference of the sum and the date is that amount in seconds, and the sum
less the amount is the same instant as the date.  Left aside are leap seconds that are moved by a
duration, and days that lead before the range.  Weeks are seven days in any case. -/
theorem sums_return {d : Date} {seconds : Int} (hzone : d.zone = .fixed seconds)
    (hoffset : Timetable.IsOffset seconds) (hd : d.instant.InRange) (ctx : Context) (o : Nat)
    (s : Session) :
    (∀ u c (n : Decimal) (millis : Int) v t, MeasureUnit.calendarUnitOf? u = some c → c ≠ .month →
      c ≠ .year → n.toRat * Date.unitSeconds c * 1000 = millis → d.Regular n c millis →
      binary ctx .add (.date d) (.quantity (timeOf n u)) o s = .ok v t →
        ∃ d', v = .date d' ∧
          (∃ x, binary ctx .sub (.date d') (.date d) o s = .ok (.quantity (timeOf x "s")) s ∧
            x.toRat = n.toRat * Date.unitSeconds c) ∧
          ∀ w t', binary ctx .sub (.date d') (.quantity (timeOf n u)) o s = .ok w t' →
            ∃ d'', w = .date d'' ∧ d''.instant = d.instant) ∧
    ∀ week day (weeks days : Decimal) (millis : Int),
      MeasureUnit.calendarUnitOf? week = some .week →
      MeasureUnit.calendarUnitOf? day = some .day → weeks.toRat * 604800 * 1000 = millis →
      days.toRat = 7 * weeks.toRat → ∀ v t,
        (binary ctx .add (.date d) (.quantity (timeOf weeks week)) o s = .ok v t ↔
          binary ctx .add (.date d) (.quantity (timeOf days day)) o s = .ok v t) := by
  have hnear : d.wall.Near := (show d.zone.Lawful from hzone ▸ hoffset).near hd
  constructor
  · intro u c n millis v t hu hmonth hyear hn hregular hsum
    obtain ⟨⟨d', hd', rfl⟩, rfl⟩ := (binary_date_quantity_eq_ok_iff (.inl rfl) hu).1 hsum
    have hreturns : d.Returns n c millis o d' := by
      by_cases hdays : Date.ByDays n c
      · exact Date.returns_of_shift_days hzone hoffset hd hn hdays (hregular.start hdays) hd'
      · exact Date.returns_of_shiftDuration hd hn hmonth hyear hdays (hregular.leap hdays) hd'
    refine ⟨d', rfl, ⟨_, binary_dates, ?_⟩, fun w t' hback => ?_⟩
    · rw [Date.toRat_secondsSince hreturns.since hreturns.bounds, ← hn,
        mul_div_cancel_right₀ _ (by norm_num)]
    · obtain ⟨⟨d'', hd'', rfl⟩, -⟩ := (binary_date_quantity_eq_ok_iff (.inr rfl) hu).1 hback
      exact ⟨d'', rfl, hreturns.back d'' hd''⟩
  · intro week day weeks days millis hweek hday hn hdays v t
    rw [binary_date_quantity_eq_ok_iff (.inl rfl) hweek,
      binary_date_quantity_eq_ok_iff (.inl rfl) hday]
    refine and_congr (exists_congr fun d' => and_congr ?_ Iff.rfl) Iff.rfl
    exact Date.shift_week_eq_ok_iff hd hnear hn hdays

/-- One half. -/
def half : Decimal := { negative := false, mantissa := 5, scale := 1 }

/-- Noon of the first of January 1970. -/
def newYearNoon : Date := { newYear with instant := ⟨43200, 0⟩, form := .dayTime }

/-- Half a day is 43200 seconds. -/
theorem sums_return_halfDay :
    MeasureUnit.calendarUnitOf? "day" = some .day ∧ newYear.instant.InRange ∧
      half.toRat * Date.unitSeconds .day * 1000 = ((43200000 : Int) : ℚ) ∧
      newYear.Regular half .day 43200000 ∧
      binary (.ofClock ⟨0, 0⟩ .utc) .add (.date newYear) (.quantity (timeOf half "day")) 0 .empty =
        .ok (.date newYearNoon) .empty ∧
      ∃ x, binary (.ofClock ⟨0, 0⟩ .utc) .sub (.date newYearNoon) (.date newYear) 0 .empty =
        .ok (.quantity (timeOf x "s")) .empty ∧ x.toRat = half.toRat * Date.unitSeconds .day := by
  have hday : MeasureUnit.calendarUnitOf? "day" = some .day := by decide +kernel
  have hrange : newYear.instant.InRange := by
    rw [Instant.InRange, rangeStart_eq, rangeStop_eq]
    decide
  have hamount : half.toRat * Date.unitSeconds .day * 1000 = ((43200000 : Int) : ℚ) := by
    decide +kernel
  have hregular : newYear.Regular half .day 43200000 := by
    refine ⟨fun _ => by decide, fun _ => ?_⟩
    rw [rangeStart_eq]
    decide
  have hshift : newYear.shift half .day 0 = .ok newYearNoon := by rfl
  have hsum : binary (.ofClock ⟨0, 0⟩ .utc) .add (.date newYear) (.quantity (timeOf half "day")) 0
      .empty = .ok (.date newYearNoon) .empty :=
    (binary_date_quantity_eq_ok_iff (.inl rfl) hday).2 ⟨⟨_, hshift, rfl⟩, rfl⟩
  obtain ⟨d', hd', hdifference, -⟩ := (sums_return rfl (by decide) hrange (.ofClock ⟨0, 0⟩ .utc) 0
    .empty).1 "day" .day half 43200000 _ _ hday (by decide) (by decide) hamount hregular hsum
  cases hd'
  exact ⟨hday, hrange, hamount, hregular, hsum, hdifference⟩

/-- The leap second at the end of 2016. -/
def leapSecond : Date :=
  { instant := ⟨1483228799, 1000000000⟩, zone := .fixed 0, label := none, form := .dayTime }

/-- Midnight on the second day of the range, on clocks an hour ahead. -/
def secondDay : Date :=
  { instant := ⟨rangeStart + 82800, 0⟩, zone := .fixed 3600, label := none, form := .dayTime }

/-- A second behind a leap second is no later than it and does not lead back, and the day before the
second day of the range is an hour short. -/
theorem sums_not_returning :
    MeasureUnit.calendarUnitOf? "s" = some .second ∧ MeasureUnit.calendarUnitOf? "day" = some .day ∧
      (∃ d', binary (.ofClock ⟨0, 0⟩ .utc) .add (.date leapSecond) (.quantity (timeOf .one "s")) 0
          .empty = .ok (.date d') .empty ∧
        (∃ x, binary (.ofClock ⟨0, 0⟩ .utc) .sub (.date d') (.date leapSecond) 0 .empty =
          .ok (.quantity (timeOf x "s")) .empty ∧ x.toRat ≠ Decimal.one.toRat * 1) ∧
        ∃ d'', binary (.ofClock ⟨0, 0⟩ .utc) .sub (.date d') (.quantity (timeOf .one "s")) 0
          .empty = .ok (.date d'') .empty ∧ d''.instant ≠ leapSecond.instant) ∧
      ∃ d', binary (.ofClock ⟨0, 0⟩ .utc) .sub (.date secondDay) (.quantity (timeOf .one "day")) 0
          .empty = .ok (.date d') .empty ∧
        ∃ x, binary (.ofClock ⟨0, 0⟩ .utc) .sub (.date d') (.date secondDay) 0 .empty =
          .ok (.quantity (timeOf x "s")) .empty ∧ x.toRat ≠ Decimal.one.neg.toRat * 86400 := by
  have hs : MeasureUnit.calendarUnitOf? "s" = some .second := by decide +kernel
  have hday : MeasureUnit.calendarUnitOf? "day" = some .day := by decide +kernel
  have hsum : leapSecond.shift .one .second 0 =
      .ok { leapSecond with instant := ⟨1483228800, 0⟩ } := by rfl
  have hback : Date.shift { leapSecond with instant := ⟨1483228800, 0⟩ } Decimal.one.neg .second 0 =
      .ok { leapSecond with instant := ⟨1483228799, 0⟩ } := by rfl
  have hbefore : secondDay.shift Decimal.one.neg .day 0 =
      .ok { secondDay with instant := ⟨rangeStart, 0⟩ } := by rfl
  refine ⟨hs, hday, ⟨_, (binary_date_quantity_eq_ok_iff (.inl rfl) hs).2 ⟨⟨_, hsum, rfl⟩, rfl⟩,
    ⟨_, binary_dates, ?_⟩,
    _, (binary_date_quantity_eq_ok_iff (.inr rfl) hs).2 ⟨⟨_, hback, rfl⟩, rfl⟩, by decide⟩,
    _, (binary_date_quantity_eq_ok_iff (.inr rfl) hday).2 ⟨⟨_, hbefore, rfl⟩, rfl⟩,
    _, binary_dates, ?_⟩
  · decide +kernel
  · decide +kernel

end Eval

end Reckoner
