import Reckoner.Eval.Convert
import Reckoner.Proofs.Calendar.Moves
import Reckoner.Proofs.Zone.Readings

/-!
# Readings that are skipped

Where the clocks go forward some readings are skipped.  `Zone.instantOf?` takes such a
reading an hour later, which is enough unless the clocks went forward by more than an hour.
Then the reading may be lost (`Zone.Loses`): the one an hour later is skipped too.

* `Zone.readings_denote`: away from the ends of the range a reading denotes an instant
  unless it is lost, and a skipped reading one with a later reading.  Date literals and
  moves by days, weeks, months and years have a value accordingly.
* `Timetable.Gentle`: a timetable that never goes forward by more than an hour loses no
  reading.
-/

namespace Reckoner

namespace Wall

/-- Two days or more from both ends of the range. -/
def Inner (w : Wall) : Prop :=
  rangeStart + 2 * 86400 ≤ w.seconds ∧ w.seconds + 2 * 86400 ≤ rangeStop

variable {w : Wall}

theorem Inner.inRange (h : w.Inner) : w.inRange = true := by
  obtain ⟨hlow, hhigh⟩ := h
  rw [inRange_iff]
  omega

theorem Inner.hourLater_inRange (h : w.Inner) : w.hourLater.inRange = true := by
  obtain ⟨hlow, hhigh⟩ := h
  rw [inRange_iff, hourLater]
  dsimp only
  omega

theorem Inner.hourLater? (h : w.Inner) : w.hourLater? = some w.hourLater := by
  rw [hourLater?_eq]
  exact if_pos h.hourLater_inRange

end Wall

/-! ## Clocks that never go forward by more than an hour -/

namespace Timetable

/-- No change is forward by more than an hour, nor comes within an hour of another. -/
def GentleFrom (current : Int) : List (Int × Int) → Prop
  | [] => True
  | (next, offset) :: rest =>
    offset ≤ current + 3600 ∧ (∀ c ∈ rest, next + 3600 ≤ c.1) ∧ GentleFrom offset rest

/-- A timetable is gentle if its clocks never go forward by more than an hour at a time. -/
def Gentle (table : Timetable) : Prop := GentleFrom table.initial table.changes

variable {w t current : Int} {since : Option Int} {changes : List (Int × Int)}

/-- The offset before all changes is in force up to the first of them. -/
theorem offsetFrom_of_forall_lt (h : ∀ c ∈ changes, t < c.1) :
    offsetFrom current t changes = current := by
  cases changes with
  | nil => rfl
  | cons c rest => exact offsetFrom_of_lt (h c List.mem_cons_self)

/-- The reading is shown, or the one an hour later.  Going through the changes, the offset in force
shows the reading at `w - current`, not before the change that brought it about: either that is
before the next change, or the next offset shows the reading too, or the change has skipped it. -/
theorem GentleFrom.exists_shown (h : GentleFrom current changes)
    (hsince : ∀ s ∈ since, s ≤ w - current ∧ ∀ c ∈ changes, s ≤ c.1) : ∃ t, (∀ s ∈ since, s ≤ t) ∧
    (t + offsetFrom current t changes = w ∨ t + offsetFrom current t changes = w + 3600) := by
  induction changes generalizing since current with
  | nil => exact ⟨w - current, fun s hs => (hsince s hs).1, .inl (Int.sub_add_cancel w current)⟩
  | cons c rest ih =>
    obtain ⟨next, offset⟩ := c
    obtain ⟨hstep, hapart, hrest⟩ := h
    rcases Int.lt_or_le (w - current) next with hbefore | hbehind
    · refine ⟨w - current, fun s hs => (hsince s hs).1, .inl ?_⟩
      rw [offsetFrom_of_lt hbefore, Int.sub_add_cancel]
    · rcases Int.lt_or_le (w - offset) next with hskipped | hshown
      · refine ⟨w + 3600 - offset, fun s hs => ?_, .inr ?_⟩
        · have := (hsince s hs).1
          omega
        · have hearly : ∀ c ∈ rest, w + 3600 - offset < c.1 := fun c hc => by
            have := hapart c hc
            omega
          rw [offsetFrom_of_le (by omega), offsetFrom_of_forall_lt hearly, Int.sub_add_cancel]
      · have hbehind : ∀ s ∈ some next, s ≤ w - offset ∧ ∀ c ∈ rest, s ≤ c.1 := fun s hs => by
          obtain rfl : next = s := by simpa using hs
          refine ⟨hshown, fun c hc => ?_⟩
          have := hapart c hc
          omega
        obtain ⟨t, ht, hfound⟩ := ih hrest hbehind
        have hle : next ≤ t := ht next rfl
        refine ⟨t, fun s hs => ((hsince s hs).2 _ List.mem_cons_self).trans hle, ?_⟩
        rwa [offsetFrom_of_le hle]

end Timetable

/-! ## Readings that are lost -/

namespace Zone

open Timetable

variable {z : Zone} {w : Wall} {i : Instant}

/-- No instant shows the reading. -/
def Skips (z : Zone) (w : Wall) : Prop := ∀ i, z.wallClock i ≠ w

/-- Neither the reading nor the one an hour later is shown. -/
def Loses (z : Zone) (w : Wall) : Prop := z.Skips w ∧ z.Skips w.hourLater

theorem earliest?_eq_none_iff (hz : z.Lawful) (hlow : rangeStart + 86400 ≤ w.seconds)
    (hhigh : w.seconds + 86400 ≤ rangeStop) : z.earliest? w = none ↔ z.Skips w := by
  constructor
  · rintro hnone i rfl
    obtain ⟨hone, htwo⟩ := hz.seconds_bounds i
    obtain ⟨j, hj⟩ := exists_earliest?_of_shown hz (i := i) ⟨by omega, by omega⟩
    rw [hnone] at hj
    cases hj
  · intro hskips
    cases hj : z.earliest? w with
    | none => rfl
    | some j => exact absurd (spec_of_earliest? hz hj).2.1 (hskips j)

theorem instantOf?_eq (hw : w.Inner) :
    z.instantOf? w = (z.earliest? w).or (z.earliest? w.hourLater) := by
  rw [instantOf?, hw.hourLater?]
  cases z.earliest? w <;> rfl

theorem instantOf?_eq_none_iff (hz : z.Lawful) (hw : w.Inner) :
    z.instantOf? w = none ↔ z.Loses w := by
  obtain ⟨hlow, hhigh⟩ := hw
  have hlater : w.hourLater.seconds = w.seconds + 3600 := rfl
  rw [instantOf?_eq ⟨hlow, hhigh⟩, Option.or_eq_none_iff,
    earliest?_eq_none_iff hz (by omega) (by omega),
    earliest?_eq_none_iff hz (by omega) (by omega), Loses]

/-- A reading that is shown denotes an instant that shows it, one that is skipped an instant that
shows a later one. -/
theorem wallClock_of_instantOf? (hz : z.Lawful) (hw : w.Inner) (hi : z.instantOf? w = some i) :
    z.wallClock i = w ∨ z.Skips w ∧ w.seconds < (z.wallClock i).seconds := by
  have hskips := earliest?_eq_none_iff (w := w) hz (by have := hw.1; omega) (by have := hw.2; omega)
  rw [instantOf?_eq hw] at hi
  cases hfirst : z.earliest? w with
  | some j =>
    rw [hfirst] at hi
    cases hi
    exact .inl (spec_of_earliest? hz hfirst).2.1
  | none =>
    rw [hfirst] at hi
    refine .inr ⟨hskips.1 hfirst, ?_⟩
    rw [(spec_of_earliest? hz hi).2.1]
    show w.seconds < w.seconds + 3600
    omega

theorem not_loses_of_gentle {name : String} {table : Timetable} (h : table.Gentle) (w : Wall) :
    ¬(Zone.region name table).Loses w := by
  rintro ⟨hskips, hlater⟩
  have hnone : ∀ s ∈ (none : Option Int), s ≤ w.seconds - table.initial ∧
      ∀ c ∈ table.changes, s ≤ c.1 := fun s hs => by cases hs
  obtain ⟨t, -, ht | ht⟩ := GentleFrom.exists_shown h hnone
  · exact hskips ⟨t, w.nanos⟩ (congrArg (Wall.mk · w.nanos) ht)
  · exact hlater ⟨t, w.nanos % 1000000000⟩ (congrArg (Wall.mk · (w.nanos % 1000000000)) ht)

theorem not_loses_fixed (seconds : Int) (w : Wall) : ¬(Zone.fixed seconds).Loses w := fun h =>
  h.1 ⟨w.seconds - seconds, w.nanos⟩ (congrArg (Wall.mk · w.nanos) (Int.sub_add_cancel _ _))

/-! ## Dates -/

/-- A result that depends on a reading: out of range if the reading is lost, else made of the
instant that the reading denotes. -/
structure Denotes {α : Type} (z : Zone) (w : Wall) (o : Nat) (value : Instant → α)
    (result : Checked α) : Prop where
  lost : z.Loses w → result = failAt o (.domain .dateRange)
  found : ¬z.Loses w → ∃ i, z.instantOf? w = some i ∧ result = .ok (value i)

theorem denotes_of_instantOf? {α : Type} {o : Nat} {value : Instant → α} {result : Checked α}
    (hz : z.Lawful) (hw : w.Inner)
    (h : result = ((z.instantOf? w).map value).elim (failAt o (.domain .dateRange)) .ok) :
    z.Denotes w o value result := by
  subst h
  have hlost := instantOf?_eq_none_iff hz hw
  cases hi : z.instantOf? w with
  | none => exact ⟨fun _ => rfl, fun h => absurd (hlost.1 hi) h⟩
  | some i =>
    refine ⟨fun h => ?_, fun _ => ⟨i, hi, rfl⟩⟩
    rw [hlost.2 h] at hi
    cases hi

/-- The reading that a day stands for. -/
def dayReading (z : Zone) (now : Instant) : DaySpec → Wall
  | .calendar day => .midnight day
  | .today => .midnight (z.wallClock now).day
  | .tomorrow => ⟨(Wall.midnight (z.wallClock now).day).seconds + 86400, 0⟩
  | .yesterday => ⟨(Wall.midnight (z.wallClock now).day).seconds - 86400, 0⟩

/-- The literals of days, times and days with times, with the readings that they write. -/
inductive Literal (ctx : Context) (z : Zone) (name : Option String) (o : Nat) :
    Wall → DateForm → Checked Value → Prop where
  | day (spec : DaySpec) :
    Literal ctx z name o (z.dayReading ctx.now spec) .day (Eval.dayValue ctx spec name o)
  | time (hour minute : Nat) :
    Literal ctx z name o (.onDay (z.wallClock ctx.now).day hour minute 0 0) .time
      (Eval.timeValue ctx hour minute name o)
  | moment (w : Wall) :
    Literal ctx z name o w .dayTime (Eval.momentValue ctx (.reading w) name o)

theorem dateAt_some {label : Option String} {form : DateForm} {o : Nat} :
    Eval.dateAt (some w) z label form o =
      ((z.instantOf? w).map fun i => Value.date ⟨i, z, label, form⟩).elim
        (failAt o (.domain .dateRange)) .ok := by
  rw [Eval.dateAt, Option.bind_some]
  cases z.instantOf? w <;> rfl

theorem midnightNear_eq {ctx : Context} {days : Int} {v : Wall} (hv : v.Inner)
    (h : v = ⟨(Wall.midnight (z.wallClock ctx.now).day).seconds + days * 86400, 0⟩) :
    Eval.midnightNear ctx z days = some v := by
  rw [Eval.midnightNear, Wall.addDays?_eq_some_iff]
  exact ⟨hv.inRange, h⟩

theorem Literal.eq_dateAt {ctx : Context} {name label : Option String} {o : Nat} {form : DateForm}
    {result : Checked Value} (h : Literal ctx z name o w form result)
    (hzone : Eval.zoneOf ctx name o = .ok (z, label)) (hw : w.Inner) :
    result = Eval.dateAt (some w) z label form o := by
  cases h with
  | day spec =>
    rw [Eval.dayValue, hzone]
    cases spec with
    | calendar day => rfl
    | today =>
      show Eval.dateAt (Eval.midnightNear ctx z 0) z label .day o = _
      rw [midnightNear_eq hw (by simp [dayReading, Wall.midnight])]
    | tomorrow =>
      show Eval.dateAt (Eval.midnightNear ctx z 1) z label .day o = _
      rw [midnightNear_eq hw rfl]
    | yesterday =>
      show Eval.dateAt (Eval.midnightNear ctx z (-1)) z label .day o = _
      rw [midnightNear_eq hw rfl]
  | time hour minute =>
    rw [Eval.timeValue, hzone]
    rfl
  | moment w =>
    rw [Eval.momentValue, hzone]
    rfl

theorem atWall_some {d : Date} {o : Nat} (hd : d.zone = z) :
    d.atWall (some w) o =
      ((z.instantOf? w).map fun i => { d with instant := i }).elim
        (failAt o (.domain .dateRange)) .ok := by
  rw [Date.atWall, Option.bind_some, hd]
  cases z.instantOf? w <;> rfl

/-- Away from the ends of the range a reading denotes an instant in a zone of any name, unless it
is skipped together with the reading an hour later; the instant shows the reading, or a later one if
the reading is skipped.  So a literal is a date unless its reading is lost, and so is a date moved
by a whole number of days, weeks, months or years; else it is out of range.  A zone whose clocks
never go forward by more than an hour loses no reading. -/
theorem readings_denote {name : String} {z : Zone} (hz : parse? name = some z) :
    (∀ w : Wall, w.Inner → (z.instantOf? w = none ↔ z.Loses w) ∧ ∀ i, z.instantOf? w = some i →
      z.wallClock i = w ∨ z.Skips w ∧ w.seconds < (z.wallClock i).seconds) ∧
    (∀ ctx name label o w form result, Eval.zoneOf ctx name o = .ok (z, label) →
      Literal ctx z name o w form result → w.Inner →
      z.Denotes w o (fun i => .date ⟨i, z, label, form⟩) result) ∧
    (∀ (d : Date) (amount : Decimal) (n : Int) unit o w, d.zone = z → d.instant.InRange →
      amount.toRat = n → d.wall.moved? n unit = some w → w.Inner →
      z.Denotes w o (fun i => { d with instant := i }) (d.shift amount unit o)) ∧
    ((∀ name table, z = .region name table → table.Gentle) → ∀ w, ¬z.Loses w) := by
  have hlawful := (known_of_parse? hz).lawful
  refine ⟨fun w hw => ⟨instantOf?_eq_none_iff hlawful hw,
    fun i hi => wallClock_of_instantOf? hlawful hw hi⟩, ?_, ?_, fun hgentle w => ?_⟩
  · intro ctx name label o w form result hzone hliteral hw
    exact denotes_of_instantOf? hlawful hw ((hliteral.eq_dateAt hzone hw).trans dateAt_some)
  · intro d amount n unit o w hd hrange hn hw hinner
    have hnear : d.wall.Near := (show d.zone.Lawful from hd ▸ hlawful).near hrange
    have hshift : d.shift amount unit o = d.atWall (some w) o := by
      rw [Date.shift_eq (Wall.dated_of_moved? hw) hn (hnear.fits hw), hw]
    exact denotes_of_instantOf? hlawful hinner (hshift.trans (atWall_some hd))
  · cases z with
    | fixed seconds => exact not_loses_fixed seconds w
    | region name table => exact not_loses_of_gentle (hgentle name table rfl) w
    | host table => exact absurd hz (parse?_ne_host name table)

/-- The clocks of Fakaofo went forward by a day at the end of 2011. -/
def fakaofo : Zone :=
  .region "Pacific/Fakaofo" ⟨-41096, [(-2177411704, -39600), (1325242800, 46800)]⟩

theorem parse?_fakaofo : parse? "Pacific/Fakaofo" = some fakaofo := by decide +kernel

/-- Half an hour before midnight the clocks are near enough to the end of the day skipped. -/
theorem readings_denote_fakaofo :
    let late : Wall := .onDay ⟨2011, 12, 30⟩ 23 30 0 0
    parse? "Pacific/Fakaofo" = some fakaofo ∧ late.Inner ∧ ∃ i, fakaofo.instantOf? late = some i ∧
      fakaofo.Skips late ∧ late.seconds < (fakaofo.wallClock i).seconds := by
  intro late
  have hinner : late.Inner := by
    rw [Wall.Inner, rangeStart_eq, rangeStop_eq]
    decide
  obtain ⟨-, hshown⟩ := (readings_denote parse?_fakaofo).1 late hinner
  have hfound : fakaofo.instantOf? late = some ⟨1325244600, 0⟩ := by decide
  have hother : fakaofo.wallClock ⟨1325244600, 0⟩ ≠ .onDay ⟨2011, 12, 30⟩ 23 30 0 0 := by decide
  refine ⟨parse?_fakaofo, hinner, _, hfound, ?_⟩
  exact (hshown _ hfound).resolve_left hother

theorem zoneOf_of_parse? {name : String} {z : Zone} (h : parse? name = some z) (ctx : Context)
    (o : Nat) : Eval.zoneOf ctx (some name) o = .ok (z, some name) := by
  unfold Eval.zoneOf
  simp only [h]

/-- The day skipped is no date. -/
theorem day_lost_fakaofo :
    parse? "Pacific/Fakaofo" = some fakaofo ∧ (Wall.midnight ⟨2011, 12, 30⟩).Inner ∧
      fakaofo.instantOf? (.midnight ⟨2011, 12, 30⟩) = none ∧
      Eval.dayValue (.ofClock ⟨0, 0⟩ utc) (.calendar ⟨2011, 12, 30⟩) (some "Pacific/Fakaofo") 0 =
        failAt 0 (.domain .dateRange) := by
  have hlost : fakaofo.instantOf? (.midnight ⟨2011, 12, 30⟩) = none := by decide
  have hzone : Eval.zoneOf (.ofClock ⟨0, 0⟩ utc) (some "Pacific/Fakaofo") 0 =
      .ok (fakaofo, some "Pacific/Fakaofo") := zoneOf_of_parse? parse?_fakaofo _ _
  refine ⟨parse?_fakaofo, ?_, hlost, ?_⟩
  · rw [Wall.Inner, rangeStart_eq, rangeStop_eq]
    decide
  · rw [Eval.dayValue, hzone]
    show Eval.dateAt (some (.midnight ⟨2011, 12, 30⟩)) fakaofo (some "Pacific/Fakaofo") .day 0 = _
    rw [Eval.dateAt, Option.bind_some, hlost]

end Zone

end Reckoner
