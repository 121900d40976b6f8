import Mathlib.Tactic.IntervalCases
import Reckoner.Calendar.Clock

/-!
# Days and their numbers

`Day.number` counts the days of the calendar and `Day.ofNumber` is its inverse.

* `number_add_day`, `number_succ_month` and `number_succ_year` say what day comes
  next, with the lengths of months and the leap years.
* `valid_ofNumber`, `number_ofNumber` and `ofNumber_number`: the numbers and the days
  of the calendar correspond.
* `inRange_iff` is the range of dates in seconds.

Inside, years begin in March (`marchYear`), so that `yearStart` and `monthStart` are
plain formulas: the leap day is the last of its year.
-/

namespace Reckoner

namespace Day

/-! ## Years that begin in March -/

/-- The days before a year, counted from the first of March of year zero. -/
def yearStart (y : Int) : Int := 365 * y + y / 4 - y / 100 + y / 400

/-- The days of a year before a month, March being month zero. -/
def monthStart (m : Int) : Int := (153 * m + 2) / 5

/-- The year of a day, if years began in March. -/
def marchYear (d : Day) : Int := if d.month ≤ 2 then d.year - 1 else d.year

/-- The month of a day, March being month zero. -/
def marchMonth (d : Day) : Int := (d.month + 9) % 12

/-- A year in four hundred, from the days since they began. -/
def yearOfEra (n : Int) : Int := (n - n / 1460 + n / 36524 - n / 146096) / 365

theorem number_eq (d : Day) :
    d.number = yearStart d.marchYear + monthStart d.marchMonth + d.day - 1 - 719468 := by
  simp only [number, yearStart, monthStart, marchYear, marchMonth]
  omega

theorem yearStart_add_era (era y : Int) :
    yearStart (400 * era + y) = 146097 * era + yearStart y := by
  simp only [yearStart]
  omega

theorem yearStart_mono {y z : Int} (h : y ≤ z) : yearStart y ≤ yearStart z := by
  simp only [yearStart]
  omega

/-- A leap day is the last day of the year before. -/
theorem yearStart_succ (y : Int) :
    yearStart (y + 1) = yearStart y + 365 + if isLeap (y + 1) then 1 else 0 := by
  simp only [yearStart, isLeap, Bool.or_eq_true, Bool.and_eq_true, beq_iff_eq, bne_iff_ne]
  split <;> omega

/-! ## The year of a day number -/

theorem yearStart_parts {c q a : Int} (hc : 0 ≤ c ∧ c < 4) (hq : 0 ≤ q ∧ q < 25)
    (ha : 0 ≤ a ∧ a < 4) : yearStart (100 * c + 4 * q + a) = 36524 * c + 1461 * q + 365 * a := by
  have hleap : (100 * c + 4 * q + a) / 4 = 25 * c + q := by omega
  have hcentury : (100 * c + 4 * q + a) / 100 = c := by omega
  have hera : (100 * c + 4 * q + a) / 400 = 0 := by omega
  rw [yearStart, hleap, hcentury, hera]
  omega

theorem yearOfEra_parts {c q s : Int} (hc : 0 ≤ c ∧ c < 4) (hq : 0 ≤ q ∧ q < 25)
    (hs : 0 ≤ s ∧ s ≤ 1460) (hlast : 1461 * q + s < 36524) :
    yearOfEra (36524 * c + 1461 * q + s) = 100 * c + 4 * q + min (s / 365) 3 := by
  have hcentury : (36524 * c + 1461 * q + s) / 36524 = c := by omega
  have hera : (36524 * c + 1461 * q + s) / 146096 = 0 := by omega
  have hleap : (36524 * c + 1461 * q + s) / 1460 = 25 * c + q + (24 * c + q + s) / 1460 := by omega
  rw [yearOfEra, hcentury, hera, hleap]
  omega

/-- The days are those of the year that `yearOfEra` gives. -/
theorem yearOfEra_spec {n : Int} (h0 : 0 ≤ n) (h1 : n < 146097) :
    0 ≤ yearOfEra n ∧ yearOfEra n < 400 ∧ yearStart (yearOfEra n) ≤ n ∧
      n < yearStart (yearOfEra n + 1) := by
  rcases eq_or_ne n 146096 with rfl | hlast
  · decide
  · -- centuries, then groups of four years, then the years of a group
    obtain ⟨c, q, s, hc, hq, hs, hn, rfl⟩ : ∃ c q s, (0 ≤ c ∧ c < 4) ∧ (0 ≤ q ∧ q < 25) ∧
        (0 ≤ s ∧ s ≤ 1460) ∧ 1461 * q + s < 36524 ∧ n = 36524 * c + 1461 * q + s :=
      ⟨n / 36524, n % 36524 / 1461, n % 36524 % 1461, by omega, by omega, by omega, by omega,
        by omega⟩
    rw [yearOfEra_parts hc hq hs hn]
    obtain ⟨a, ha, hsmall⟩ : ∃ a, a = min (s / 365) 3 ∧ 0 ≤ a ∧ a < 4 :=
      ⟨_, rfl, by omega, by omega⟩
    rw [← ha, yearStart_parts hc hq hsmall]
    refine ⟨by omega, by omega, by omega, ?_⟩
    rcases Int.lt_or_le a 3 with hwithin | hthird
    · have hnext : 100 * c + 4 * q + a + 1 = 100 * c + 4 * q + (a + 1) := by omega
      rw [hnext, yearStart_parts hc hq (by omega)]
      omega
    · rcases Int.lt_or_le q 24 with hgroup | hgroup
      · have hnext : 100 * c + 4 * q + a + 1 = 100 * c + 4 * (q + 1) + 0 := by omega
        rw [hnext, yearStart_parts hc (by omega) (by omega)]
        omega
      · have hnext : 100 * c + 4 * q + a + 1 = 100 * (c + 1) := by omega
        rw [hnext, yearStart]
        omega

/-! ## The day with a number -/

/-- Whether the calendar has the day. -/
structure Valid (d : Day) : Prop where
  one_le_month : 1 ≤ d.month
  month_le : d.month ≤ 12
  one_le_day : 1 ≤ d.day
  day_le : d.day ≤ daysInMonth d.year d.month

/-- The days of a year that begins in March. -/
def yearLength (y : Int) : Int := if isLeap (y + 1) then 366 else 365

/-- The day `i` days after the first of March. -/
def ofMarch (y i : Int) : Day :=
  let m := (5 * i + 2) / 153
  { year := if m < 10 then y else y + 1
    month := (if m < 10 then m + 3 else m - 9).toNat
    day := (i - monthStart m + 1).toNat }

theorem yearStart_succ_eq (y : Int) : yearStart (y + 1) = yearStart y + yearLength y := by
  rw [yearStart_succ, yearLength]
  split <;> omega

theorem yearLength_bounds (y : Int) : 365 ≤ yearLength y ∧ yearLength y ≤ 366 := by
  rw [yearLength]
  split <;> omega

/-- A day number is a year and a day of it, and `ofNumber` finds both. -/
theorem exists_ofNumber_eq (n : Int) : ∃ y i, n = yearStart y + i - 719468 ∧ 0 ≤ i ∧
    i < yearLength y ∧ ofNumber n = ofMarch y i := by
  obtain ⟨e, r, he, hr⟩ : ∃ e r, e = (n + 719468) / 146097 ∧ r = (n + 719468) % 146097 :=
    ⟨_, _, rfl, rfl⟩
  obtain ⟨hlow, hhigh, hstart, hstop⟩ := yearOfEra_spec (n := r) (by omega) (by omega)
  obtain ⟨i, hi⟩ : ∃ i, i = r - yearStart (yearOfEra r) := ⟨_, rfl⟩
  have hwhole : n + 719468 = 146097 * e + r := by omega
  have hnumber := yearStart_add_era e (yearOfEra r)
  have hlength : yearStart (400 * e + yearOfEra r + 1) =
      146097 * e + yearStart (yearOfEra r + 1) := by
    rw [Int.add_assoc, yearStart_add_era]
  rw [yearStart_succ_eq, hnumber] at hlength
  have hbounds := yearLength_bounds (400 * e + yearOfEra r)
  refine ⟨400 * e + yearOfEra r, i, by omega, by omega, by omega, ?_⟩
  have hday : i = r - (365 * yearOfEra r + yearOfEra r / 4 - yearOfEra r / 100) := by
    have hsmall : yearOfEra r / 400 = 0 := by omega
    rw [hi, yearStart, hsmall]
    omega
  simp only [ofNumber, ofMarch]
  rw [← he, ← hr, ← yearOfEra, ← hday, ← monthStart]
  obtain ⟨m, hm⟩ : ∃ m, m = (5 * i + 2) / 153 := ⟨_, rfl⟩
  rw [← hm]
  by_cases h : m < 10
  · simp only [if_pos h, if_neg (show ¬m + 3 ≤ 2 by omega)]
    congr 1
    omega
  · simp only [if_neg h, if_pos (show m - 9 ≤ 2 by omega)]
    congr 1
    omega

/-- The month with the given place in a year that begins in March. -/
def monthOf (m : Int) : Nat := (if m < 10 then m + 3 else m - 9).toNat

theorem monthStart_succ {m : Int} (h0 : 0 ≤ m) (h1 : m < 11) (year : Int) :
    monthStart (m + 1) = monthStart m + daysInMonth year (monthOf m) := by
  interval_cases m <;> rfl

theorem marchMonth_monthOf {m : Int} (h0 : 0 ≤ m) (h1 : m ≤ 11) :
    ((monthOf m : Int) + 9) % 12 = m ∧ 1 ≤ monthOf m ∧ monthOf m ≤ 12 ∧
      (monthOf m ≤ 2 ↔ 10 ≤ m) := by
  rw [monthOf]
  split <;> omega

theorem ofMarch_spec {y i : Int} (h0 : 0 ≤ i) (h1 : i < yearLength y) :
    (ofMarch y i).Valid ∧ (ofMarch y i).number = yearStart y + i - 719468 := by
  obtain ⟨m, hm⟩ : ∃ m, m = (5 * i + 2) / 153 := ⟨_, rfl⟩
  have hbounds := yearLength_bounds y
  have hm0 : 0 ≤ m := by omega
  have hm1 : m ≤ 11 := by omega
  have hstart : monthStart m ≤ i := by
    rw [monthStart]
    omega
  have hstop : i < monthStart (m + 1) := by
    rw [monthStart]
    omega
  obtain ⟨hmarch, hone, htwelve, hearly⟩ := marchMonth_monthOf hm0 hm1
  have hparts : ofMarch y i =
      { year := if m < 10 then y else y + 1
        month := monthOf m
        day := (i - monthStart m + 1).toNat } := by
    rw [ofMarch, ← hm]
    rfl
  rw [hparts]
  refine ⟨⟨hone, htwelve, ?_, ?_⟩, ?_⟩
  · dsimp only
    omega
  · dsimp only
    rcases Int.lt_or_le m 11 with hwithin | hlast
    · have := monthStart_succ hm0 hwithin (if m < 10 then y else y + 1)
      omega
    · -- the last month of the year is the February of the next
      obtain rfl : m = 11 := by omega
      rw [yearLength] at h1
      have hfebruary : monthStart 11 = 337 := rfl
      show _ ≤ if isLeap (y + 1) then 29 else 28
      split at h1 <;> rename_i hleap
      · rw [if_pos hleap]
        omega
      · rw [if_neg hleap]
        omega
  · have hyear : (if monthOf m ≤ 2 then (if m < 10 then y else y + 1) - 1
        else if m < 10 then y else y + 1) = y := by
      split <;> split <;> omega
    rw [number_eq, marchYear, marchMonth, hmarch, hyear]
    dsimp only
    omega

theorem valid_ofNumber (n : Int) : (ofNumber n).Valid := by
  obtain ⟨y, i, -, h0, h1, h⟩ := exists_ofNumber_eq n
  rw [h]
  exact (ofMarch_spec h0 h1).1

@[simp]
theorem number_ofNumber (n : Int) : (ofNumber n).number = n := by
  obtain ⟨y, i, hn, h0, h1, h⟩ := exists_ofNumber_eq n
  rw [h, (ofMarch_spec h0 h1).2, hn]

/-! ## What day comes next -/

variable {year : Int} {month : Nat}

/-- Within a month the days are numbered one by one. -/
theorem number_add_day (year : Int) (month day : Nat) :
    number ⟨year, month, day⟩ = number ⟨year, month, 1⟩ + (day - 1) := by
  simp only [number_eq, marchYear, marchMonth]
  omega

/-- Behind a month comes the next one. -/
theorem number_succ_month (h0 : 1 ≤ month) (h1 : month < 12) :
    number ⟨year, month + 1, 1⟩ = number ⟨year, month, 1⟩ + daysInMonth year month := by
  rcases eq_or_ne month 2 with rfl | hne
  · have hleap := yearStart_succ (year - 1)
    have hyear : year - 1 + 1 = year := by omega
    rw [hyear] at hleap
    show number ⟨year, 3, 1⟩ = number ⟨year, 2, 1⟩ + ((if isLeap year then 29 else 28 : Nat) : Int)
    rw [number_eq, number_eq, show marchYear ⟨year, 3, 1⟩ = year from rfl,
      show marchYear ⟨year, 2, 1⟩ = year - 1 from rfl, hleap]
    split <;> simp [monthStart, marchMonth] <;> omega
  · have hsame : marchYear ⟨year, month + 1, 1⟩ = marchYear ⟨year, month, 1⟩ := by
      simp only [marchYear]
      split <;> split <;> omega
    rw [number_eq, number_eq, hsame]
    interval_cases month
    all_goals simp [monthStart, marchMonth, daysInMonth] at hne ⊢
    all_goals omega

/-- Behind December comes the next year. -/
theorem number_succ_year (year : Int) :
    number ⟨year + 1, 1, 1⟩ = number ⟨year, 12, 1⟩ + 31 := by
  rw [number_eq, number_eq, show marchYear ⟨year + 1, 1, 1⟩ = year + 1 - 1 from rfl,
    show marchYear ⟨year, 12, 1⟩ = year from rfl, Int.add_sub_cancel]
  simp [monthStart, marchMonth]
  omega

/-! ## The order of days -/

theorem daysInMonth_bounds (year : Int) (month : Nat) :
    28 ≤ daysInMonth year month ∧ daysInMonth year month ≤ 31 := by
  unfold daysInMonth
  split
  · split <;> omega
  all_goals omega

/-- A later month begins after an earlier one has ended. -/
theorem number_month_le (year : Int) {month' : Nat} (h0 : 1 ≤ month) (h : month < month')
    (h1 : month' ≤ 12) :
    number ⟨year, month, 1⟩ + daysInMonth year month ≤ number ⟨year, month', 1⟩ := by
  induction month', h using Nat.le_induction with
  | base => rw [number_succ_month h0 (by omega)]
  | succ m hm ih =>
    have hlength := daysInMonth_bounds year m
    rw [number_succ_month (by omega) (by omega)]
    have := ih (by omega)
    omega

theorem number_year (year : Int) : number ⟨year, 1, 1⟩ = yearStart (year - 1) - 719162 := by
  rw [number_eq, show marchYear ⟨year, 1, 1⟩ = year - 1 from rfl,
    show marchMonth ⟨year, 1, 1⟩ = 10 from rfl, show monthStart 10 = 306 from rfl]
  dsimp only
  omega

theorem number_year_mono {y z : Int} (h : y ≤ z) : number ⟨y, 1, 1⟩ ≤ number ⟨z, 1, 1⟩ := by
  have := yearStart_mono (show y - 1 ≤ z - 1 by omega)
  rw [number_year, number_year]
  omega

/-- A month lies in its year. -/
theorem number_month_bounds (year : Int) (h0 : 1 ≤ month) (h1 : month ≤ 12) :
    number ⟨year, 1, 1⟩ ≤ number ⟨year, month, 1⟩ ∧
      number ⟨year, month, 1⟩ + daysInMonth year month ≤ number ⟨year + 1, 1, 1⟩ := by
  have hdecember := number_succ_year year
  constructor
  · rcases eq_or_ne month 1 with rfl | hne
    · exact Int.le_refl _
    · have := number_month_le year (Nat.le_refl 1) (by omega) h1
      omega
  · rcases eq_or_ne month 12 with rfl | hne
    · rw [hdecember]
      exact Int.le_refl _
    · have := number_month_le year h0 (by omega) (Nat.le_refl 12)
      omega

variable {d e : Day}

/-- A day lies in its month. -/
theorem Valid.month_bounds (h : d.Valid) : number ⟨d.year, d.month, 1⟩ ≤ d.number ∧
    d.number < number ⟨d.year, d.month, 1⟩ + daysInMonth d.year d.month := by
  have hday : d.number = number ⟨d.year, d.month, 1⟩ + (d.day - 1) := number_add_day _ _ _
  have := h.one_le_day
  have := h.day_le
  omega

/-- A day lies in its year. -/
theorem Valid.year_bounds (h : d.Valid) :
    number ⟨d.year, 1, 1⟩ ≤ d.number ∧ d.number < number ⟨d.year + 1, 1, 1⟩ := by
  have hmonth := h.month_bounds
  have hyear := number_month_bounds d.year h.one_le_month h.month_le
  omega

theorem Valid.le_year_iff (h : d.Valid) (y : Int) : y ≤ d.year ↔ number ⟨y, 1, 1⟩ ≤ d.number := by
  obtain ⟨hlow, hhigh⟩ := h.year_bounds
  constructor
  · intro hy
    have := number_year_mono hy
    omega
  · intro hn
    rcases Int.lt_or_le d.year y with hlt | hle
    · have := number_year_mono (show d.year + 1 ≤ y by omega)
      omega
    · exact hle

/-- Different days have different numbers. -/
theorem Valid.eq_of_number_eq (hd : d.Valid) (he : e.Valid) (h : d.number = e.number) : d = e := by
  have hyear : d.year = e.year := by
    have hde := (he.le_year_iff d.year).2 (h ▸ hd.year_bounds.1)
    have hed := (hd.le_year_iff e.year).2 (h ▸ he.year_bounds.1)
    omega
  have hmd := hd.month_bounds
  have hme := he.month_bounds
  rw [hyear] at hmd
  have hmonth : d.month = e.month := by
    rcases Nat.lt_trichotomy d.month e.month with hlt | heq | hgt
    · have := number_month_le e.year hd.one_le_month hlt he.month_le
      omega
    · exact heq
    · have := number_month_le e.year he.one_le_month hgt hd.month_le
      omega
  have hday : d.day = e.day := by
    have hnd : d.number = number ⟨d.year, d.month, 1⟩ + (d.day - 1) := number_add_day _ _ _
    have hne : e.number = number ⟨e.year, e.month, 1⟩ + (e.day - 1) := number_add_day _ _ _
    rw [hyear, hmonth] at hnd
    omega
  cases d
  cases e
  cases hyear
  cases hmonth
  cases hday
  rfl

theorem ofNumber_number (h : d.Valid) : ofNumber d.number = d :=
  (valid_ofNumber _).eq_of_number_eq h (number_ofNumber _)

theorem yearInRange_iff {year : Int} :
    yearInRange year = true ↔ minYear ≤ year ∧ year < maxYear + 1 := by
  rw [yearInRange, Bool.and_eq_true, decide_eq_true_iff, decide_eq_true_iff, Int.lt_add_one_iff]

end Day

/-! ## The range of dates -/

/-- The first second of the range of dates. -/
def rangeStart : Int := Day.number ⟨Day.minYear, 1, 1⟩ * secondsPerDay

/-- The first second behind the range of dates. -/
def rangeStop : Int := Day.number ⟨Day.maxYear + 1, 1, 1⟩ * secondsPerDay

theorem rangeStart_eq : rangeStart = -8334601228800 := by decide

theorem rangeStop_eq : rangeStop = 8210266876800 := by decide

namespace Wall

theorem inRange_iff (w : Wall) :
    w.inRange = true ↔ rangeStart ≤ w.seconds ∧ w.seconds < rangeStop := by
  have hvalid := Day.valid_ofNumber w.dayNumber
  have hlow := hvalid.le_year_iff Day.minYear
  have hhigh := hvalid.le_year_iff (Day.maxYear + 1)
  rw [Day.number_ofNumber] at hlow hhigh
  have hday : w.dayNumber = w.seconds / 86400 := rfl
  have hstart : rangeStart = Day.number ⟨Day.minYear, 1, 1⟩ * 86400 := rfl
  have hstop : rangeStop = Day.number ⟨Day.maxYear + 1, 1, 1⟩ * 86400 := rfl
  rw [inRange, Day.yearInRange_iff, day, hlow, hstart, hstop]
  omega

/-- In the range of dates or less than a day off. -/
def Near (w : Wall) : Prop := rangeStart - 86400 ≤ w.seconds ∧ w.seconds < rangeStop + 86400

theorem check?_eq_some_iff {w v : Wall} : w.check? = some v ↔ w.inRange = true ∧ w = v := by
  rw [check?]
  split <;> simp [*]

end Wall

namespace Instant

/-- Whether an instant is in the range of dates, in universal time. -/
def InRange (i : Instant) : Prop := rangeStart ≤ i.seconds ∧ i.seconds < rangeStop

theorem check?_of_inRange {i : Instant} (h : i.InRange) : i.check? = some i :=
  if_pos ((Wall.inRange_iff ⟨i.seconds, i.nanos⟩).2 h)

theorem check?_eq_some_iff {i j : Instant} : i.check? = some j ↔ i.InRange ∧ i = j := by
  have hrange : Wall.inRange ⟨i.seconds, i.nanos⟩ = true ↔ i.InRange := Wall.inRange_iff _
  rw [check?]
  split <;> simp [← hrange, *]

end Instant

end Reckoner
