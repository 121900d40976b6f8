import Reckoner.Eval.Builtin.Call
import Reckoner.Proofs.Calendar.Moves
import Reckoner.Proofs.Discipline.Basic

/-!
# Dates and seconds since 1970

A date as a number is its time in seconds, in whole milliseconds rounded down, and a number as a
date is the instant so many seconds after the start of 1970.  Milliseconds are counted on whole
numbers in between (`Instant.millis_ofMillis`, `Instant.ofMillis_millis`), and no decimal with at
most three places is rounded on the way (`Date.toRat_timestamp`, `Date.ofSeconds_eq_ok_iff`).

A leap second has the number of the second after it, so it does not come back.
-/

namespace Reckoner

/-! ## Milliseconds -/

namespace Instant

variable {i : Instant}

/-- The instant rounded down to a whole millisecond. -/
def floorMillis (i : Instant) : Instant := ⟨i.seconds, i.nanos / 1000000 * 1000000⟩

theorem floorMillis_of_dvd (h : 1000000 ∣ i.nanos) : i.floorMillis = i := by
  rw [floorMillis, Nat.div_mul_cancel h]

@[simp]
theorem millis_ofMillis (n : Int) : (ofMillis n).millis = n := by
  simp only [ofMillis, millis]
  omega

/-- Outside of leap seconds an instant is found again by its milliseconds, before 1970 as well. -/
theorem ofMillis_millis (h : i.nanos < nanosPerSecond) : ofMillis i.millis = i.floorMillis := by
  simp only [nanosPerSecond] at h
  simp only [ofMillis, millis, floorMillis, Instant.mk.injEq]
  omega

theorem nanos_ofMillis_lt (n : Int) : (ofMillis n).nanos < nanosPerSecond := by
  simp only [ofMillis, nanosPerSecond]
  omega

/-- In the range there are not many milliseconds, those of leap seconds included. -/
theorem InRange.millis_bounds (hi : i.InRange) (h : i.nanos < 2 * nanosPerSecond) :
    -10000000000000000 < i.millis ∧ i.millis < 10000000000000000 := by
  simp only [InRange, rangeStart_eq, rangeStop_eq] at hi
  simp only [nanosPerSecond] at h
  simp only [millis]
  omega

end Instant

/-! ## Decimals -/

namespace Decimal

/-- A whole number that has room is not rounded, and one that has none has no decimal. -/
theorem eq_of_rounded?_intCast {n : Int} {z : ℚ} (h : rounded? (n : ℚ) = some z) : z = n := by
  by_cases hn : n.natAbs < capacity
  · rw [rounded?_intCast hn] at h
    exact (Option.some.inj h).symm
  · have hnearest : capacity ≤ nearest (n : ℚ) := by
      have habs : |(n : ℚ)| = |((n.natAbs : Nat) : ℚ)| := by
        rw [abs_intCast, Nat.abs_cast]
      rw [nearest_congr habs, nearest_natCast]
      omega
    rw [rounded?_eq_none hnearest] at h
    cases h

end Decimal

namespace Date

variable {d : Date} {x : Decimal} {n : Int} {zone : Zone} {failure : Cause} {o : Nat}

/-- A day with its time, in a zone that is not named. -/
def moment (instant : Instant) (zone : Zone) : Date :=
  { instant, zone, label := none, form := .dayTime }

/-- The number of a date is not rounded further. -/
theorem toRat_timestamp (hd : d.instant.InRange) (h : d.instant.nanos < 2 * nanosPerSecond) :
    d.timestamp.toRat = d.instant.millis / 1000 := by
  have hbounds := hd.millis_bounds h
  have hroom : d.instant.millis.natAbs < Decimal.capacity := by
    simp only [Decimal.capacity]
    omega
  rw [timestamp, Decimal.toRat_normalize, Decimal.toRat_ofThousandths hroom]

theorem ofSeconds_eq_ok_iff : ofSeconds x zone failure o = .ok d ↔
    ∃ y n i, x.mul? (.ofNat 1000) = some y ∧ (y.roundPlaces 0 .toEven).toInteger o = .ok n ∧
      (Instant.ofMillis n).check? = some i ∧
      d = moment i zone := by
  rw [ofSeconds]
  cases hy : x.mul? (.ofNat 1000) with
  | none => simp [orFail, failAt, bind, Except.bind]
  | some y =>
    cases hn : (y.roundPlaces 0 .toEven).toInteger o with
    | error e => simp [orFail, bind, Except.bind, hn]
    | ok n =>
      cases hi : (Instant.ofMillis n).check? with
      | none => simp [orFail, failAt, bind, Except.bind, hn, hi]
      | some i => simp [orFail, bind, Except.bind, hn, hi, pure, Except.pure, moment, eq_comm]

/-- With at most three places a number of seconds leads to the instant of its milliseconds, as long
as that is in the range of dates. -/
theorem ofSeconds_of_millis (hx : x.toRat * 1000 = n) : ofSeconds x zone failure o = .ok d ↔
    (Instant.ofMillis n).InRange ∧ d = moment (.ofMillis n) zone := by
  have hproduct := Decimal.value_mul? x (.ofNat 1000)
  have hthousand : (Decimal.ofNat 1000).toRat = 1000 := Decimal.toRat_ofNat (by decide)
  rw [hthousand, hx] at hproduct
  rw [ofSeconds_eq_ok_iff]
  constructor
  · rintro ⟨y, m, i, hy, hm, hi, rfl⟩
    rw [hy, Option.map_some] at hproduct
    have hvalue := Decimal.eq_of_rounded?_intCast hproduct.symm
    have hmillis := Decimal.toRat_of_toInteger hm
    rw [Decimal.toRat_roundPlaces_zero hvalue] at hmillis
    obtain rfl : n = m := by exact_mod_cast hmillis
    obtain ⟨hrange, rfl⟩ := Instant.check?_eq_some_iff.1 hi
    exact ⟨hrange, rfl⟩
  · rintro ⟨hrange, rfl⟩
    have hnanos := Instant.nanos_ofMillis_lt n
    have hbounds := hrange.millis_bounds (by omega)
    rw [Instant.millis_ofMillis] at hbounds
    have hroom : n.natAbs < Decimal.capacity := by
      simp only [Decimal.capacity]
      omega
    have hfits : FitsInt64 n := by
      simp only [FitsInt64, Decimal.int64Min, Decimal.int64Max]
      omega
    rw [Decimal.rounded?_intCast hroom] at hproduct
    obtain ⟨y, hy, hvalue⟩ := Option.map_eq_some_iff.1 hproduct
    exact ⟨y, n, .ofMillis n, hy,
      Decimal.toInteger_of_toRat (Decimal.toRat_roundPlaces_zero hvalue) hfits,
      Instant.check?_of_inRange hrange, rfl⟩

end Date

/-! ## Casts -/

namespace Eval

open Date (moment)

variable {ctx : Context} {s t : Session} {d : Date} {x : Decimal} {v : Value} {o o' : Nat}

theorem toDate_number_eq_ok_iff : toDate ctx (.number x) o = .ok v ↔
    ∃ d, Date.ofSeconds x ctx.zone (.typing (.cast .number .date)) o = .ok d ∧ v = .date d := by
  show ((Date.ofSeconds x ctx.zone (.typing (.cast .number .date)) o) >>= fun d =>
    (pure (Value.date d) : Checked Value)) = .ok v ↔ _
  cases Date.ofSeconds x ctx.zone (.typing (.cast .number .date)) o with
  | error e => simp [bind, Except.bind]
  | ok d => simp [bind, Except.bind, pure, Except.pure, eq_comm]

/-- A number of whole milliseconds leads to their instant. -/
theorem cast_number_date {n : Int} (hx : x.toRat * 1000 = n)
    (hrange : (Instant.ofMillis n).InRange) :
    cast ctx (.number x) .date o s = .ok (.date (moment (.ofMillis n) ctx.zone)) s := by
  have hdate : Date.ofSeconds x ctx.zone (.typing (.cast .number .date)) o =
      .ok (moment (.ofMillis n) ctx.zone) := (Date.ofSeconds_of_millis hx).2 ⟨hrange, rfl⟩
  exact lift_run_eq_ok_iff.2 ⟨toDate_number_eq_ok_iff.2 ⟨_, hdate, rfl⟩, rfl⟩

/-- The number of a date leads to the instant of its milliseconds. -/
theorem cast_timestamp_date (hrange : d.instant.InRange)
    (hnanos : d.instant.nanos < 2 * nanosPerSecond)
    (hmillis : (Instant.ofMillis d.instant.millis).InRange) :
    cast ctx (.number d.timestamp) .date o s =
      .ok (.date (moment (.ofMillis d.instant.millis) ctx.zone)) s := by
  refine cast_number_date ?_ hmillis
  rw [Date.toRat_timestamp hrange hnanos, div_mul_cancel₀ _ (by norm_num)]

/-- Dates and seconds lead back to each other.  From a date, leap seconds left aside, the number of
seconds leads to its instant in whole milliseconds, rounded down.  From a number with at most three
places that leads to a date, that date leads to an equal number.  And the functions named for it do
what the casts do. -/
theorem seconds_return (ctx : Context) (s : Session) (o o' : Nat) :
    (∀ d : Date, d.instant.InRange → d.instant.nanos < nanosPerSecond → ∃ x,
      cast ctx (.date d) .number o s = .ok (.number x) s ∧
      cast ctx (.number x) .date o' s = .ok (.date (moment d.instant.floorMillis ctx.zone)) s ∧
      (1000000 ∣ d.instant.nanos → d.instant.floorMillis = d.instant)) ∧
    (∀ (x : Decimal) (n : Int) (v : Value) (t : Session), x.toRat * 1000 = n →
      cast ctx (.number x) .date o s = .ok v t → ∃ y,
        cast ctx v .number o' t = .ok (.number y) t ∧ y.toRat = x.toRat) ∧
    ∀ (call : Caller) (d : Date) (v : Value),
      callBuiltin ctx call .timestamp [.date d] o s = cast ctx (.date d) .number o s ∧
      callBuiltin ctx call .dateOf [v] o s = cast ctx v .date o s := by
  refine ⟨?_, ?_, ?_⟩
  · intro d hrange hnanos
    have hinstant := Instant.ofMillis_millis hnanos
    have hcast : cast ctx (.number d.timestamp) .date o' s =
        .ok (.date (moment (.ofMillis d.instant.millis) ctx.zone)) s := by
      apply cast_timestamp_date hrange
      · omega
      · rw [hinstant]
        exact hrange
    rw [hinstant] at hcast
    exact ⟨d.timestamp, rfl, hcast, Instant.floorMillis_of_dvd⟩
  · intro x n v t hx hcast
    obtain ⟨hdate, rfl⟩ := lift_run_eq_ok_iff.1 hcast
    obtain ⟨d, hd, rfl⟩ := toDate_number_eq_ok_iff.1 hdate
    obtain ⟨hrange, rfl⟩ := (Date.ofSeconds_of_millis hx).1 hd
    have hmillis : (moment (.ofMillis n) ctx.zone).instant.millis = n := Instant.millis_ofMillis n
    refine ⟨_, rfl, ?_⟩
    have hnanos := Instant.nanos_ofMillis_lt n
    rw [Date.toRat_timestamp hrange (by simp only [moment]; omega), hmillis, ← hx,
      mul_div_cancel_right₀ _ (by norm_num)]
  · intro call d v
    exact ⟨rfl, rfl⟩

/-- A millisecond and a half before 1970. -/
theorem seconds_return_before :
    let ctx := Context.ofClock ⟨0, 0⟩ (.host ⟨0, []⟩)
    let d := moment ⟨-1, 998500000⟩ (.fixed 3600)
    let x := Decimal.ofThousandths (-2)
    let e := Value.date (moment ⟨-1, 998000000⟩ (.host ⟨0, []⟩))
    d.instant.InRange ∧ d.instant.nanos < nanosPerSecond ∧
      (∃ x, cast ctx (.date d) .number 0 .empty = .ok (.number x) .empty ∧
        cast ctx (.number x) .date 1 .empty = .ok e .empty) ∧
      x.toRat * 1000 = (-2 : Int) ∧ cast ctx (.number x) .date 0 .empty = .ok e .empty ∧
      ∃ y, cast ctx e .number 1 .empty = .ok (.number y) .empty ∧ y.toRat = x.toRat := by
  intro ctx d x e
  have hrange {i : Instant} (h : i.seconds = -1) : i.InRange := by
    rw [Instant.InRange, rangeStart_eq, rangeStop_eq, h]
    decide
  have hx : x.toRat * 1000 = (-2 : Int) := by
    rw [Decimal.toRat_ofThousandths (by decide)]
    norm_num
  have hcast : cast ctx (.number x) .date 0 .empty = .ok e .empty :=
    cast_number_date hx (hrange rfl)
  obtain ⟨hdates, hnumbers, -⟩ := seconds_return ctx .empty 0 1
  obtain ⟨y, hnumber, hdate, -⟩ := hdates d (hrange rfl) (by decide)
  have hfloor : d.instant.floorMillis = ⟨-1, 998000000⟩ := by decide
  rw [hfloor] at hdate
  exact ⟨hrange rfl, by decide, ⟨y, hnumber, hdate⟩, hx, hcast,
    hnumbers x (-2) e .empty hx hcast⟩

/-- The leap second at the end of 2016 comes back as the second after it. -/
theorem leapSecond_not_returned :
    let ctx := Context.ofClock ⟨0, 0⟩ (.fixed 0)
    let d := moment ⟨1483228799, 1000000000⟩ (.fixed 0)
    let later := moment ⟨1483228800, 0⟩ (.fixed 0)
    d.instant.InRange ∧ 1000000 ∣ d.instant.nanos ∧
      (∃ x, cast ctx (.date d) .number 0 .empty = .ok (.number x) .empty ∧
        cast ctx (.number x) .date 1 .empty = .ok (.date later) .empty) ∧
      later.instant ≠ d.instant := by
  intro ctx d later
  have hrange {i : Instant} (h : 0 ≤ i.seconds ∧ i.seconds < 8000000000000) : i.InRange := by
    rw [Instant.InRange, rangeStart_eq, rangeStop_eq]
    omega
  have hmillis : Instant.ofMillis d.instant.millis = ⟨1483228800, 0⟩ := by decide
  have hcast : cast ctx (.number d.timestamp) .date 1 .empty =
      .ok (.date (moment (.ofMillis d.instant.millis) ctx.zone)) .empty :=
    cast_timestamp_date (hrange (by decide)) (by decide) (hrange (by decide))
  rw [hmillis] at hcast
  exact ⟨hrange (by decide), by decide, ⟨d.timestamp, rfl, hcast⟩, by decide⟩

end Eval

end Reckoner
