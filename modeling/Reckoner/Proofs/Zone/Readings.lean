import Reckoner.Proofs.Zone.Regions
import Reckoner.Zone.Name

/-!
# Readings and instants

A zone leads from an instant to the reading of its clocks (`Zone.wallClock`) and back
(`Zone.instantOf?`).  The way back is to the first instant that shows the reading
(`Zone.readings_return`): where the clocks went back, the earlier of the instants with
one reading.

The zones there are (`Zone.Known`) have offsets shorter than a day and no change in the first
or the last two days of the range of dates (`Zone.Lawful`), so a reading that some instant in
the range shows is shown first by an instant in the range.
-/

namespace Reckoner

open Timetable

theorem Instant.compare_isLE_iff {i j : Instant} : (i.compare j).isLE = true ↔
    i.seconds < j.seconds ∨ i.seconds = j.seconds ∧ i.nanos ≤ j.nanos := by
  rw [Instant.compare, Ordering.isLE_then_iff_or, Int.compare_eq_lt, Int.compare_eq_eq,
    Nat.isLE_compare]

namespace Zone

variable {z : Zone} {w : Wall} {i j : Instant} {t t' : Int}

/-- What is asked of a zone. -/
def Lawful : Zone → Prop
  | .fixed seconds => IsOffset seconds
  | .region _ table => table.Lawful
  | .host table => table.Lawful

/-- The zones there are: every offset shorter than a day, the regions of the table by every
name, and the zone of a host.  What timetable a host keeps is its own affair; of that only the
laws are asked. -/
inductive Known : Zone → Prop where
  | fixed {seconds : Int} (h : IsOffset seconds) : Known (.fixed seconds)
  | region {name : String} {table : Timetable} (h : timetable? name = some table) :
    Known (.region name table)
  | host {table : Timetable} (h : table.Lawful) : Known (.host table)

theorem Known.lawful (h : z.Known) : z.Lawful := by
  cases h with
  | fixed h => exact h
  | region h => exact lawful_of_timetable? h
  | host h => exact h

theorem isOffset_of_checkOffset? {seconds offset : Int} (h : checkOffset? seconds = some offset) :
    IsOffset offset := by
  unfold checkOffset? at h
  split at h <;> cases h
  assumption

/-- Whatever is computed on the way, the result has been checked. -/
theorem isOffset_of_readHours {sign offset : Int} {cs : List Char}
    (h : readHours sign cs = .ok (some offset)) : IsOffset offset := by
  unfold readHours at h
  dsimp only [bind, Except.bind, pure, Except.pure] at h
  split at h
  · split at h
    · cases h
    · repeat' split at h
      all_goals first | exact isOffset_of_checkOffset? (Except.ok.inj h) | cases h
  · cases h

theorem isOffset_of_readOffset {cs : List Char} {offset : Int}
    (h : readOffset cs = .ok (some offset)) : IsOffset offset := by
  unfold readOffset at h
  split at h
  · cases h
    decide
  · repeat' split at h
    all_goals first | exact isOffset_of_readHours h | cases h

theorem isOffset_of_parseOffset {name : String} {offset : Int}
    (h : parseOffset name = .ok (some offset)) : IsOffset offset := by
  unfold parseOffset at h
  split at h
  · exact isOffset_of_readOffset h
  · exact isOffset_of_readOffset h
  · cases h

theorem known_of_ofRegion? {name : String} (h : ofRegion? name = some z) : z.Known := by
  obtain ⟨table, htable, rfl⟩ := Option.map_eq_some_iff.1 h
  exact .region htable

/-- The names of zones: an offset, or what stands for a region. -/
theorem parse?_eq_some {name : String} (h : parse? name = some z) :
    (∃ seconds, parseOffset (Text.trim name) = .ok (some seconds) ∧ z = .fixed seconds) ∨
      ofName? (Text.trim name) = some z := by
  unfold parse? parse at h
  dsimp only [bind, Except.bind, pure, Except.pure] at h
  cases hoffset : parseOffset (Text.trim name) with
  | error e =>
    rw [hoffset] at h
    cases h
  | ok seconds? =>
    rw [hoffset] at h
    cases seconds? with
    | none => exact .inr h
    | some seconds =>
      cases h
      exact .inl ⟨seconds, rfl, rfl⟩

theorem exists_region_of_ofName? {name : String} (h : ofName? name = some z) :
    ∃ region, ofRegion? region = some z := by
  unfold ofName? at h
  split at h
  · exact ⟨_, h⟩
  · split at h
    · exact ⟨_, h⟩
    · cases h

theorem known_of_parse? {name : String} (h : parse? name = some z) : z.Known := by
  rcases parse?_eq_some h with ⟨seconds, hoffset, rfl⟩ | hname
  · exact .fixed (isOffset_of_parseOffset hoffset)
  · obtain ⟨region, hregion⟩ := exists_region_of_ofName? hname
    exact known_of_ofRegion? hregion

/-- No name stands for the zone of the host. -/
theorem parse?_ne_host (name : String) (table : Timetable) : parse? name ≠ some (.host table) := by
  intro h
  rcases parse?_eq_some h with ⟨seconds, -, hfixed⟩ | hname
  · cases hfixed
  · obtain ⟨region, hregion⟩ := exists_region_of_ofName? hname
    obtain ⟨table', -, heq⟩ := Option.map_eq_some_iff.1 hregion
    cases heq

/-! ## The first second with a reading -/

theorem isFirst_firstSecond? (hz : z.Lawful) (w : Int) :
    IsFirst { t | t + z.offsetAt t = w } (z.firstSecond? w) := by
  cases z with
  | fixed seconds =>
    refine ⟨Int.sub_add_cancel w seconds, ?_⟩
    rintro t rfl
    exact Int.le_of_eq (Int.add_sub_cancel t seconds)
  | region name table => exact isFirst_earliest? hz w
  | host table => exact isFirst_earliest? hz w

theorem Lawful.isOffset (hz : z.Lawful) (t : Int) : IsOffset (z.offsetAt t) := by
  cases z with
  | fixed seconds => exact hz
  | region name table => exact Timetable.Lawful.isOffset hz t
  | host table => exact Timetable.Lawful.isOffset hz t

/-- An instant is less than a day off its reading, on both sides. -/
theorem Lawful.seconds_bounds (hz : z.Lawful) (i : Instant) :
    i.seconds - 86400 < (z.wallClock i).seconds ∧ (z.wallClock i).seconds < i.seconds + 86400 := by
  obtain ⟨hlow, hhigh⟩ := hz.isOffset i.seconds
  simp only [secondsPerDay] at hlow hhigh
  simp only [wallClock]
  omega

/-- In the range the clocks show a reading in the range, or less than a day off. -/
theorem Lawful.near (hz : z.Lawful) (hi : i.InRange) : (z.wallClock i).Near := by
  obtain ⟨hlow, hhigh⟩ := hz.seconds_bounds i
  obtain ⟨hstart, hstop⟩ := hi
  constructor <;> omega

/-- Between two offsets is a change, and it is not near the ends of the range. -/
theorem exists_change_of_offset_ne (hz : z.Lawful) (ht : t ≤ t')
    (h : z.offsetAt t ≠ z.offsetAt t') :
    ∃ s, t < s ∧ s ≤ t' ∧
      rangeStart + 2 * secondsPerDay ≤ s ∧ s + 2 * secondsPerDay ≤ rangeStop := by
  cases z with
  | fixed seconds => exact absurd rfl h
  | region name table => exact Timetable.Lawful.exists_change hz ht h
  | host table => exact Timetable.Lawful.exists_change hz ht h

/-- No second before the range shows the reading of one in it. -/
theorem rangeStart_le_of_shown (hz : z.Lawful) (hshown : t + z.offsetAt t = t' + z.offsetAt t')
    (hrange : rangeStart ≤ t') : rangeStart ≤ t := by
  rcases Int.lt_or_le t' t with hlt | hle
  · omega
  · by_cases hsame : z.offsetAt t = z.offsetAt t'
    · omega
    · -- the two are less than two days apart, and a change is between them
      obtain ⟨s, hlow, hhigh, hstart, -⟩ := exists_change_of_offset_ne hz hle hsame
      obtain ⟨hone, htwo⟩ := hz.isOffset t
      obtain ⟨hthree, hfour⟩ := hz.isOffset t'
      simp only [secondsPerDay] at hone htwo hthree hfour hstart
      omega

/-! ## The first instant with a reading -/

/-- What `earliest?` gives is in the range and the first instant of all with the reading. -/
theorem spec_of_earliest? (hz : z.Lawful) (h : z.earliest? w = some j) :
    j.InRange ∧ z.wallClock j = w ∧ ∀ k, z.wallClock k = w → (j.compare k).isLE = true := by
  unfold earliest? at h
  split at h
  · rename_i t ht
    obtain ⟨hrange, rfl⟩ := Instant.check?_eq_some_iff.1 h
    have hfirst := isFirst_firstSecond? hz w.seconds
    rw [ht] at hfirst
    obtain ⟨hshown, hleast⟩ := hfirst
    refine ⟨hrange, congrArg (Wall.mk · w.nanos) hshown, ?_⟩
    rintro k rfl
    have hle : t ≤ k.seconds := hleast rfl
    refine Instant.compare_isLE_iff.2 ?_
    rcases Int.lt_or_eq_of_le hle with hlt | heq
    · exact .inl hlt
    · exact .inr ⟨heq, Nat.le_refl _⟩
  · cases h

theorem exists_earliest?_of_shown (hz : z.Lawful) (hi : i.InRange) :
    ∃ j, z.earliest? (z.wallClock i) = some j := by
  have hfirst := isFirst_firstSecond? hz (z.wallClock i).seconds
  unfold earliest?
  cases ht : z.firstSecond? (z.wallClock i).seconds with
  | none =>
    rw [ht] at hfirst
    exact absurd (show i.seconds ∈ _ from rfl) (Set.eq_empty_iff_forall_notMem.1 hfirst i.seconds)
  | some t =>
    rw [ht] at hfirst
    obtain ⟨hshown, hleast⟩ := hfirst
    have hle : t ≤ i.seconds := hleast rfl
    exact ⟨_, Instant.check?_of_inRange
      ⟨rangeStart_le_of_shown hz hshown hi.1, Int.lt_of_le_of_lt hle hi.2⟩⟩

theorem instantOf?_of_earliest? (h : z.earliest? w = some j) : z.instantOf? w = some j := by
  rw [instantOf?, h]

/-- Where the offset never changes, a reading is shown once. -/
theorem instantOf?_wallClock_fixed (seconds : Int) (hi : i.InRange) :
    (Zone.fixed seconds).instantOf? ((Zone.fixed seconds).wallClock i) = some i := by
  refine instantOf?_of_earliest? ?_
  have hsame : i.seconds + seconds - seconds = i.seconds := Int.add_sub_cancel _ _
  show Instant.check? ⟨i.seconds + seconds - seconds, i.nanos⟩ = some i
  rw [hsame]
  exact Instant.check?_of_inRange hi

end Zone

end Reckoner
