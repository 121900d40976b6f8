import Mathlib.Order.Bounds.Basic
import Reckoner.Proofs.Calendar.Days
import Reckoner.Zone.Basic

/-!
# Timetables

A timetable is lawful (`Timetable.Lawful`) if its changes ascend, its offsets are shorter
than a day and all its changes are well within the range of dates.

* `isFirst_earliest?`: of all seconds at which the clocks show a reading, `earliest?`
  gives the first.  Where the clocks go back a reading is shown twice or more, where they go
  forward some are skipped.
* `exists_change_of_offset_ne`: between two different offsets there is a change.

A rule for summer time moves the clocks twice a year, on some weekday of two months.  If both
are between February and November and at least a month lies between them (`Recurrence.Sound`),
its changes come in order and every one in its own year (`Recurrence.changes_spec`), however the
weekdays fall.
-/

namespace Reckoner

/-- The first of a set of seconds; none if it is empty. -/
def IsFirst (seconds : Set Int) : Option Int → Prop
  | some t => IsLeast seconds t
  | none => seconds = ∅

namespace Timetable

/-- The changes of a timetable come in order. -/
def Ascends (changes : List (Int × Int)) : Prop := changes.Pairwise (·.1 < ·.1)

/-- Offsets are shorter than a day, in both directions. -/
def IsOffset (offset : Int) : Prop := -secondsPerDay < offset ∧ offset < secondsPerDay

/-- What is asked of a timetable: changes in ascending order, offsets shorter than a day, and no
change in the first or the last two days of the range of dates. -/
structure Lawful (table : Timetable) : Prop where
  ascends : Ascends table.changes
  initial : IsOffset table.initial
  offset : ∀ c ∈ table.changes, IsOffset c.2
  since : ∀ c ∈ table.changes,
    rangeStart + 2 * secondsPerDay ≤ c.1 ∧ c.1 + 2 * secondsPerDay ≤ rangeStop

variable {w t t' current next offset : Int} {since : Option Int} {changes rest : List (Int × Int)}

theorem offsetFrom_of_lt (h : t < next) :
    offsetFrom current t ((next, offset) :: rest) = current := by
  rw [offsetFrom, if_neg (Int.not_le.2 h)]

theorem offsetFrom_of_le (h : next ≤ t) :
    offsetFrom current t ((next, offset) :: rest) = offsetFrom offset t rest := by
  rw [offsetFrom, if_pos h]

/-- The seconds from `since` on at which the clocks show `w`. -/
def showing (w : Int) (since : Option Int) (current : Int) (changes : List (Int × Int)) : Set Int :=
  { t | (∀ s ∈ since, s ≤ t) ∧ t + offsetFrom current t changes = w }

theorem all_le_iff (t : Int) : since.all (· ≤ t) = true ↔ ∀ s ∈ since, s ≤ t := by
  cases since <;> simp

/-- Either the offset in force up to the next change shows the reading, or the search goes on
behind that change. -/
theorem isFirst_firstShowing? (hascends : Ascends changes)
    (hsince : ∀ s ∈ since, ∀ c ∈ changes, s < c.1) :
    IsFirst (showing w since current changes) (firstShowing? w since current changes) := by
  induction changes generalizing since current with
  | nil =>
    rw [firstShowing?]
    split
    · rename_i hfollows
      refine ⟨⟨(all_le_iff _).1 hfollows, by simp only [offsetFrom]; omega⟩, ?_⟩
      rintro t ⟨-, ht⟩
      simp only [offsetFrom] at ht
      omega
    · rename_i hfollows
      refine Set.eq_empty_of_forall_notMem ?_
      rintro t ⟨ht, hshown⟩
      obtain rfl : w - current = t := by
        simp only [offsetFrom] at hshown
        omega
      exact hfollows ((all_le_iff _).2 ht)
  | cons c rest ih =>
    obtain ⟨next, offset⟩ := c
    obtain ⟨hnext, hrest⟩ := List.pairwise_cons.1 hascends
    rw [firstShowing?]
    simp only [Bool.and_eq_true, decide_eq_true_eq, all_le_iff]
    split
    · rename_i hhere
      obtain ⟨hfollows, hbefore⟩ := hhere
      refine ⟨⟨hfollows, by rw [offsetFrom_of_lt hbefore]; omega⟩, ?_⟩
      rintro t ⟨-, hshown⟩
      rcases Int.lt_or_le t next with hlt | hle
      · rw [offsetFrom_of_lt hlt] at hshown
        omega
      · omega
    · rename_i hlater
      have hsame : showing w since current ((next, offset) :: rest) =
          showing w (some next) offset rest := by
        ext t
        constructor
        · rintro ⟨hfollows, hshown⟩
          rcases Int.lt_or_le t next with hlt | hle
          · rw [offsetFrom_of_lt hlt] at hshown
            obtain rfl : t = w - current := by omega
            exact absurd ⟨hfollows, hlt⟩ hlater
          · rw [offsetFrom_of_le hle] at hshown
            exact ⟨by simpa using hle, hshown⟩
        · rintro ⟨hfollows, hshown⟩
          have hle : next ≤ t := by simpa using hfollows
          refine ⟨fun s hs => ?_, by rw [offsetFrom_of_le hle, hshown]⟩
          have := hsince s hs _ List.mem_cons_self
          exact (Int.le_of_lt this).trans hle
      rw [hsame]
      refine ih hrest (fun s hs c hc => ?_)
      obtain rfl : next = s := by simpa using hs
      exact hnext c hc

theorem isFirst_earliest? {table : Timetable} (h : table.Lawful) (w : Int) :
    IsFirst { t | t + table.offsetAt t = w } (table.earliest? w) := by
  have hnone : ∀ s ∈ (none : Option Int), ∀ c ∈ table.changes, s < c.1 := fun s hs => by cases hs
  have hfirst : IsFirst (showing w none table.initial table.changes) (table.earliest? w) :=
    isFirst_firstShowing? h.ascends hnone
  have hset : showing w none table.initial table.changes = { t | t + table.offsetAt t = w } := by
    ext t
    exact and_iff_right (fun s hs => by cases hs)
  rwa [hset] at hfirst

/-- The offset in force is the first one or that of a change. -/
theorem offsetFrom_mem (current t : Int) (changes : List (Int × Int)) :
    offsetFrom current t changes = current ∨
      ∃ c ∈ changes, offsetFrom current t changes = c.2 := by
  induction changes generalizing current with
  | nil => exact .inl rfl
  | cons c rest ih =>
    obtain ⟨next, offset⟩ := c
    rcases Int.lt_or_le t next with hlt | hle
    · exact .inl (offsetFrom_of_lt hlt)
    · rw [offsetFrom_of_le hle]
      rcases @ih offset with heq | ⟨c, hc, heq⟩
      · exact .inr ⟨_, List.mem_cons_self, heq⟩
      · exact .inr ⟨c, List.mem_cons_of_mem _ hc, heq⟩

theorem Lawful.isOffset {table : Timetable} (h : table.Lawful) (t : Int) :
    IsOffset (table.offsetAt t) := by
  rcases offsetFrom_mem table.initial t table.changes with heq | ⟨c, hc, heq⟩
  · rw [offsetAt, heq]
    exact h.initial
  · rw [offsetAt, heq]
    exact h.offset c hc

theorem exists_change_of_offset_ne (ht : t ≤ t')
    (h : offsetFrom current t changes ≠ offsetFrom current t' changes) :
    ∃ c ∈ changes, t < c.1 ∧ c.1 ≤ t' := by
  induction changes generalizing current with
  | nil => exact absurd rfl h
  | cons c rest ih =>
    obtain ⟨next, offset⟩ := c
    rcases Int.lt_or_le t next with hlt | hle
    · rcases Int.lt_or_le t' next with hlt' | hle'
      · rw [offsetFrom_of_lt hlt, offsetFrom_of_lt hlt'] at h
        exact absurd rfl h
      · exact ⟨_, List.mem_cons_self, hlt, hle'⟩
    · rw [offsetFrom_of_le hle, offsetFrom_of_le (hle.trans ht)] at h
      obtain ⟨c, hc, hbetween⟩ := ih h
      exact ⟨c, List.mem_cons_of_mem _ hc, hbetween⟩

/-- A change between two offsets is not near the ends of the range. -/
theorem Lawful.exists_change {table : Timetable} (h : table.Lawful) (ht : t ≤ t')
    (hne : table.offsetAt t ≠ table.offsetAt t') :
    ∃ s, t < s ∧ s ≤ t' ∧
      rangeStart + 2 * secondsPerDay ≤ s ∧ s + 2 * secondsPerDay ≤ rangeStop := by
  obtain ⟨c, hc, hlow, hhigh⟩ := exists_change_of_offset_ne ht hne
  exact ⟨c.1, hlow, hhigh, h.since c hc⟩

end Timetable

/-! ## Summer time by a rule -/

open Timetable

/-- The first second of a year. -/
def newYear (year : Int) : Int := Day.number ⟨year, 1, 1⟩ * 86400

theorem newYear_mono {y z : Int} (h : y ≤ z) : newYear y ≤ newYear z := by
  have := Day.number_year_mono h
  simp only [newYear]
  omega

namespace YearlyMoment

variable {m n : YearlyMoment}

/-- What is asked of a yearly moment. -/
structure Sound (m : YearlyMoment) : Prop where
  month : 2 ≤ m.month ∧ m.month ≤ 11
  week : m.week ≤ 5
  seconds : -3 * secondsPerDay ≤ m.seconds ∧ m.seconds ≤ 3 * secondsPerDay

instance (m : YearlyMoment) : Decidable m.Sound :=
  decidable_of_iff ((2 ≤ m.month ∧ m.month ≤ 11) ∧ m.week ≤ 5 ∧
      -3 * secondsPerDay ≤ m.seconds ∧ m.seconds ≤ 3 * secondsPerDay)
    ⟨fun h => ⟨h.1, h.2.1, h.2.2⟩, fun h => ⟨h.month, h.week, h.seconds⟩⟩

/-- The first second of the month of a moment. -/
def monthBegin (m : YearlyMoment) (year : Int) : Int :=
  Day.number ⟨year, m.month, 1⟩ * 86400

/-- Whatever day of the week the month begins with, the moment is in the month but for the
seconds it is off midnight. -/
theorem inYear_bounds (h : m.Sound) (year : Int) :
    m.monthBegin year + m.seconds ≤ m.inYear year ∧
      m.inYear year < m.monthBegin year + Day.daysInMonth year m.month * 86400 + m.seconds := by
  have hlength := Day.daysInMonth_bounds year m.month
  have hweek := h.week
  simp only [inYear, monthBegin]
  split <;> omega

/-- The month of a moment is neither the first nor the last of the year. -/
theorem monthBegin_bounds (h : m.Sound) (year : Int) :
    newYear year + 31 * 86400 ≤ m.monthBegin year ∧
      m.monthBegin year + Day.daysInMonth year m.month * 86400 + 31 * 86400 ≤
        newYear (year + 1) := by
  obtain ⟨hlow, hhigh⟩ := h.month
  have hjanuary := Day.number_month_le year (Nat.le_refl 1) hlow (hhigh.trans (by decide))
  have hdecember := Day.number_month_le year (by omega : 1 ≤ m.month)
    (by omega : m.month < 12) (Nat.le_refl 12)
  have hnext := Day.number_succ_year year
  have hlength : Day.daysInMonth year 1 = 31 := rfl
  simp only [newYear, monthBegin]
  omega

/-- A whole month lies between two moments. -/
theorem monthBegin_add_le (hm : m.Sound) (hn : n.Sound) (h : m.month + 2 ≤ n.month) (year : Int) :
    m.monthBegin year + Day.daysInMonth year m.month * 86400 + 28 * 86400 ≤ n.monthBegin year := by
  have hfirst := Day.number_month_le year (by have := hm.month; omega : 1 ≤ m.month)
    (by omega : m.month < m.month + 1) (by have := hn.month; omega)
  have hsecond := Day.number_month_le year (Nat.le_add_left 1 m.month)
    (by omega : m.month + 1 < n.month) (by have := hn.month; omega)
  have := Day.daysInMonth_bounds year (m.month + 1)
  simp only [monthBegin]
  omega

end YearlyMoment

namespace Recurrence

variable {r : Recurrence} {c : Int × Int}

/-- What is asked of a rule. -/
structure Sound (r : Recurrence) : Prop where
  begins : r.firstYear ≤ lastYear
  toSummer : r.toSummer.Sound
  toWinter : r.toWinter.Sound
  apart : r.toSummer.month + 2 ≤ r.toWinter.month ∨ r.toWinter.month + 2 ≤ r.toSummer.month
  winter : IsOffset r.winter
  summer : IsOffset r.summer

instance (offset : Int) : Decidable (IsOffset offset) :=
  inferInstanceAs (Decidable (-secondsPerDay < offset ∧ offset < secondsPerDay))

instance (r : Recurrence) : Decidable r.Sound :=
  decidable_of_iff (r.firstYear ≤ lastYear ∧ r.toSummer.Sound ∧ r.toWinter.Sound ∧
      (r.toSummer.month + 2 ≤ r.toWinter.month ∨ r.toWinter.month + 2 ≤ r.toSummer.month) ∧
      IsOffset r.winter ∧ IsOffset r.summer)
    ⟨fun ⟨hbegins, hsummer, hwinter, hapart, hw, hs⟩ =>
        ⟨hbegins, hsummer, hwinter, hapart, hw, hs⟩,
      fun h => ⟨h.begins, h.toSummer, h.toWinter, h.apart, h.winter, h.summer⟩⟩

/-- The two changes of a year are in it, and in order. -/
theorem changesIn_spec (h : r.Sound) (year : Nat) :
    Ascends (r.changesIn year) ∧
      ∀ c ∈ r.changesIn year, newYear year ≤ c.1 ∧ c.1 < newYear (year + 1) ∧ IsOffset c.2 := by
  obtain ⟨-, hsummer, hwinter, hapart, ⟨hw, hw'⟩, hs, hs'⟩ := h
  have hbegin := YearlyMoment.inYear_bounds hsummer year
  have hfinish := YearlyMoment.inYear_bounds hwinter year
  have hsecondsS := hsummer.seconds
  have hsecondsW := hwinter.seconds
  have hboundsS := YearlyMoment.monthBegin_bounds hsummer year
  have hboundsW := YearlyMoment.monthBegin_bounds hwinter year
  simp only [secondsPerDay] at hw hw' hs hs' hsecondsS hsecondsW
  have hne : r.toSummer.inYear year - r.winter ≠ r.toWinter.inYear year - r.summer := by
    rcases hapart with hlt | hgt
    · have := YearlyMoment.monthBegin_add_le hsummer hwinter hlt year
      omega
    · have := YearlyMoment.monthBegin_add_le hwinter hsummer hgt year
      omega
  have hin : (newYear year ≤ r.toSummer.inYear year - r.winter ∧
      r.toSummer.inYear year - r.winter < newYear (year + 1) ∧ IsOffset r.summer) ∧
      (newYear year ≤ r.toWinter.inYear year - r.summer ∧
        r.toWinter.inYear year - r.summer < newYear (year + 1) ∧ IsOffset r.winter) :=
    ⟨⟨by omega, by omega, hs, hs'⟩, by omega, by omega, hw, hw'⟩
  simp only [changesIn]
  split
  · rename_i horder
    exact ⟨List.pairwise_pair.2 horder, by simpa using hin⟩
  · rename_i horder
    exact ⟨List.pairwise_pair.2 (by dsimp only at horder ⊢; omega), by simpa using hin.symm⟩

/-- All changes by a rule are in order, from the first year of the rule to the last. -/
theorem changes_spec (h : r.Sound) : Ascends r.changes ∧
    ∀ c ∈ r.changes, newYear r.firstYear ≤ c.1 ∧ c.1 < newYear (lastYear + 1) ∧ IsOffset c.2 := by
  constructor
  · refine List.pairwise_flatMap.2 ⟨fun n _ => (changesIn_spec h _).1, ?_⟩
    refine List.Pairwise.imp ?_ List.pairwise_lt_range
    intro m n hlt x hx y hy
    have hbefore := ((changesIn_spec h _).2 x hx).2.1
    have hafter := ((changesIn_spec h _).2 y hy).1
    have := newYear_mono
      (show ((r.firstYear + m : Nat) : Int) + 1 ≤ (r.firstYear + n : Nat) by omega)
    omega
  · intro c hc
    obtain ⟨n, hn, hc⟩ := List.mem_flatMap.1 hc
    obtain ⟨hlow, hhigh, hoffset⟩ := (changesIn_spec h _).2 c hc
    have hlast := List.mem_range.1 hn
    have := newYear_mono (show (r.firstYear : Int) ≤ (r.firstYear + n : Nat) by omega)
    have := newYear_mono (show ((r.firstYear + n : Nat) : Int) + 1 ≤ (lastYear : Nat) + 1 by omega)
    exact ⟨by omega, by omega, hoffset⟩

end Recurrence

end Reckoner
