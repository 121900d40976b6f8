import Mathlib.Data.Nat.Digits.Defs
import Reckoner.Proofs.Discipline.Basic
import Reckoner.Proofs.Quantity.Text
import Reckoner.Proofs.Token.Zones
import Reckoner.Proofs.Zone.Readings

/-!
# Reading back the text of a date

A date is written day first, with the hours and minutes behind a `T`, and with the seconds
unless they are zero (`Date.render`).  `Date.ofText?` tries a timestamp and then one layout
after the other.

* `Writes` is what a field of a text is: so many digits that write a number.  A field is
  taken as a whole if no digit stands behind it or if it may have no more digits
  (`Writes.takeDigits?`).
* Every layout that is tried too early misses the text at the mark behind its first field
  (`timestamp?_renderDay`, `readLayout?_year_first`, `readLayout?_slashes`).
* `Date.ofText?_render` puts both together: the text of a date leads back to its second, but
  no layout with the day first has a place for seconds that are not zero.
-/

namespace Reckoner

namespace Calendar

/-! ## Fields -/

/-- A text of `width` digits that writes a number. -/
structure Writes (cs : List Char) (width n : Nat) : Prop where
  length_eq : cs.length = width
  isDigit : ∀ c ∈ cs, c.isDigit = true
  value_eq : Text.digitsValue cs = n

theorem writes_padded {width n : Nat} (h0 : 0 < width) (h : n < 10 ^ width) :
    Writes (Wall.padded width n).toList width n where
  length_eq := by
    have hle : (toString n).toList.length ≤ width := by
      rw [String.length_toList]
      exact Nat.repr_length n width h0 h
    simp only [Wall.padded, Decimal.padZeros, String.toList_append, String.toList_ofList,
      List.length_append, List.length_replicate, String.length_toList] at hle ⊢
    omega
  isDigit := fun c hc => Decimal.isDigit_of_mem_padZeros width n hc
  value_eq := by
    rw [Text.digitsValue_eq_ofDigitChars]
    exact Decimal.ofDigitChars_padZeros width n

theorem isBlank_of_isDigit {c : Char} (h : c.isDigit = true) : Text.isBlank c = false :=
  Text.isBlank_eq_false_of_isWordPart (Factor.isWordPart_of_isDigit h)

namespace Writes

variable {cs rest : List Char} {width n least most : Nat}

theorem exists_cons (h : Writes cs width n) (h0 : 0 < width) :
    ∃ c ds, cs = c :: ds ∧ c.isDigit = true := by
  cases cs with
  | nil =>
    have := h.length_eq
    simp at this
    omega
  | cons c ds => exact ⟨c, ds, rfl, h.isDigit c List.mem_cons_self⟩

/-- A field is taken as a whole, unless digits stand behind it that may belong to it. -/
theorem takeDigits? (h : Writes cs width n) (hmost : width ≤ most)
    (hrest : (rest.take (most - width)).takeWhile Char.isDigit = []) :
    Calendar.takeDigits? least most (cs ++ rest) =
      if width < least then none else some (n, rest) := by
  have hdigits : ((cs ++ rest).take most).takeWhile Char.isDigit = cs := by
    have htake : (cs ++ rest).take most = cs ++ rest.take (most - width) := by
      rw [List.take_append, h.length_eq, List.take_of_length_le (by rw [h.length_eq]; exact hmost)]
    rw [htake, List.takeWhile_append_of_pos h.isDigit, hrest, List.append_nil]
  simp only [Calendar.takeDigits?, hdigits, h.length_eq, h.value_eq]
  have hdrop : (cs ++ rest).drop width = rest := by
    rw [← h.length_eq]
    exact List.drop_left
  rw [hdrop]

theorem dropWhile_isBlank (h : Writes cs width n) (h0 : 0 < width) (rest : List Char) :
    (cs ++ rest).dropWhile Text.isBlank = cs ++ rest := by
  obtain ⟨c, ds, rfl, hc⟩ := h.exists_cons h0
  apply Text.dropWhile_of_head?
  intro d hd
  cases hd
  exact isBlank_of_isDigit hc

theorem takeTwo? {low high : Nat} (h : Writes cs 2 n) (hn : low ≤ n ∧ n ≤ high) :
    Calendar.takeTwo? low high (cs ++ rest) = some (n, rest) := by
  have hrest : (rest.take (2 - 2)).takeWhile Char.isDigit = [] := rfl
  rw [Calendar.takeTwo?, h.takeDigits? (Nat.le_refl 2) hrest, if_neg (by decide)]
  exact if_pos hn

/-- Digits in front of a year are read as one, and so are those of a day. -/
theorem takeYear? (h : Writes cs width n) (h0 : 0 < width) (hmost : width ≤ 4)
    (hrest : (rest.take (4 - width)).takeWhile Char.isDigit = []) :
    Calendar.takeYear? (cs ++ rest) = some ((n : Int), rest) := by
  have hread : Calendar.takeDigits? 1 4 (cs ++ rest) =
      if width < 1 then none else some (n, rest) := h.takeDigits? hmost hrest
  rw [if_neg (by omega)] at hread
  obtain ⟨c, ds, rfl, hc⟩ := h.exists_cons h0
  unfold Calendar.takeYear?
  split
  · rename_i heq
    cases heq
    cases hc
  · rename_i heq
    cases heq
    cases hc
  · rw [hread]
    rfl

end Writes

/-! ## The text of a day -/

section

variable {w : Wall} {rest : List Char} {r : Reading} {pieces : List Piece}

/-- A year of four digits without a sign. -/
def FourDigits (year : Int) : Prop := 0 ≤ year ∧ year ≤ 9999

theorem toList_renderDay (w : Wall) : w.renderDay.toList =
    (Wall.padded 2 w.day.day).toList ++ '.' :: ((Wall.padded 2 w.day.month).toList ++
      '.' :: (Wall.renderYear w.day.year).toList) := by
  simp [Wall.renderDay, String.toList_append]

theorem valid_day (w : Wall) : w.day.Valid := Day.valid_ofNumber w.dayNumber

theorem day_bounds (w : Wall) : 1 ≤ w.day.day ∧ w.day.day ≤ 31 := by
  have hvalid := valid_day w
  have hle := hvalid.day_le
  have hmonth := Day.daysInMonth_bounds w.day.year w.day.month
  exact ⟨hvalid.one_le_day, by omega⟩

theorem writes_day (w : Wall) : Writes (Wall.padded 2 w.day.day).toList 2 w.day.day := by
  have hday := day_bounds w
  apply writes_padded <;> omega

theorem writes_month (w : Wall) : Writes (Wall.padded 2 w.day.month).toList 2 w.day.month := by
  have hle := (valid_day w).month_le
  apply writes_padded <;> omega

theorem writes_year {year : Int} (h : FourDigits year) :
    Writes (Wall.renderYear year).toList 4 year.toNat := by
  obtain ⟨hlow, hhigh⟩ := h
  have hnat : year.natAbs = year.toNat := by omega
  rw [Wall.renderYear, if_pos ⟨hlow, hhigh⟩, hnat]
  apply writes_padded <;> omega

/-- The parts of a day as they are read, at its midnight. -/
def dayReading (d : Day) : Reading :=
  { Reading.start with year := d.year, month := d.month, day := d.day }

/-- The layout that dates are written in. -/
theorem readLayout?_renderDay (hyear : FourDigits w.day.year) :
    readLayout? (.field .day :: .mark '.' :: .field .month :: .mark '.' :: .field .year :: pieces)
      .start (w.renderDay.toList ++ rest) = readLayout? pieces (dayReading w.day) rest := by
  have hday := writes_day w
  have hmonth := writes_month w
  have hyears := writes_year hyear
  have hyearValue : ((w.day.year.toNat : Nat) : Int) = w.day.year := Int.toNat_of_nonneg hyear.1
  have hmonthBounds := (valid_day w).one_le_month
  have hrest : (rest.take (4 - 4)).takeWhile Char.isDigit = [] := rfl
  simp only [toList_renderDay, List.append_assoc, List.cons_append, readLayout?, readField?,
    hday.dropWhile_isBlank (by decide), hday.takeTwo? (day_bounds w), Option.map_some, if_true,
    hmonth.dropWhile_isBlank (by decide),
    hmonth.takeTwo? ⟨hmonthBounds, (valid_day w).month_le⟩,
    hyears.dropWhile_isBlank (by decide),
    hyears.takeYear? (by decide) (Nat.le_refl 4) hrest, hyearValue]
  rfl

/-! ## What is tried before -/

/-- A timestamp has four digits in front. -/
theorem timestamp?_renderDay (w : Wall) (rest : List Char) :
    timestamp? (w.renderDay.toList ++ rest) = none := by
  have hday := writes_day w
  simp only [toList_renderDay, List.append_assoc, List.cons_append, timestamp?]
  rw [hday.takeDigits? (by decide) rfl, if_pos (by decide)]
  rfl

/-- A layout with the year first takes the day for it and misses the dash. -/
theorem readLayout?_year_first (w : Wall) (rest : List Char) (r : Reading) :
    readLayout? (.field .year :: .mark '-' :: pieces) r (w.renderDay.toList ++ rest) = none := by
  have hday := writes_day w
  simp only [toList_renderDay, List.append_assoc, List.cons_append, readLayout?, readField?,
    hday.dropWhile_isBlank (by decide)]
  rw [hday.takeYear? (by decide) (by decide) rfl]
  rfl

theorem readLayout?_slashes (w : Wall) (rest : List Char) (r : Reading) :
    readLayout? (.field .day :: .mark '/' :: pieces) r (w.renderDay.toList ++ rest) = none := by
  have hday := writes_day w
  simp only [toList_renderDay, List.append_assoc, List.cons_append, readLayout?, readField?,
    hday.dropWhile_isBlank (by decide), hday.takeTwo? (day_bounds w), Option.map_some]
  rfl

/-! ## Days and times -/

theorem hour_lt (w : Wall) : w.hour < 24 := by
  simp only [Wall.hour, Wall.secondOfDay, secondsPerDay]
  omega

theorem minute_lt (w : Wall) : w.minute < 60 := Nat.mod_lt _ (by decide)

/-- The parts of the second of a day. -/
theorem secondOfDay_eq (w : Wall) : w.hour * 3600 + w.minute * 60 + w.second = w.secondOfDay := by
  simp only [Wall.hour, Wall.minute, Wall.second]
  omega

/-- The hours and minutes, as they are written. -/
def clockText (w : Wall) : List Char :=
  'T' :: ((Wall.padded 2 w.hour).toList ++ ':' :: (Wall.padded 2 w.minute).toList)

/-- Hours and minutes are read; what stands behind them is left. -/
theorem readLayout?_clock (w : Wall) (rest : List Char) (r : Reading) :
    readLayout? [.mark 'T', .field .hour, .mark ':', .field .minute] r (clockText w ++ rest) =
      readLayout? [] { r with hour := w.hour, minute := w.minute } rest := by
  have hlt := hour_lt w
  have hlt' := minute_lt w
  have hhour : Writes (Wall.padded 2 w.hour).toList 2 w.hour := by apply writes_padded <;> omega
  have hminute : Writes (Wall.padded 2 w.minute).toList 2 w.minute := by
    apply writes_padded <;> omega
  have hhour? (cs : List Char) : takeTwo? 0 23 ((Wall.padded 2 w.hour).toList ++ cs) =
      some (w.hour, cs) := hhour.takeTwo? ⟨Nat.zero_le _, by omega⟩
  have hminute? (cs : List Char) : takeTwo? 0 59 ((Wall.padded 2 w.minute).toList ++ cs) =
      some (w.minute, cs) := hminute.takeTwo? ⟨Nat.zero_le _, by omega⟩
  simp only [clockText, List.append_assoc, List.cons_append, readLayout?, readField?, if_true,
    hhour.dropWhile_isBlank (by decide), hhour?, Option.map_some,
    hminute.dropWhile_isBlank (by decide), hminute?]

theorem wall?_dayReading {d : Day} (hd : d.Valid) (hyear : FourDigits d.year)
    (hour minute : Nat) :
    Reading.wall? { dayReading d with hour, minute } = some (Wall.onDay d hour minute 0 0) := by
  obtain ⟨hlow, hhigh⟩ := hyear
  have hrange : Day.yearInRange d.year = true := by
    rw [Day.yearInRange_iff, Day.minYear, Day.maxYear]
    omega
  have hparts : Day.ofParts? d.year d.month d.day = some d := by
    simp [Day.ofParts?, hrange, hd.one_le_month, hd.month_le, hd.one_le_day, hd.day_le]
  show (Day.ofParts? d.year d.month d.day).map _ = _
  rw [hparts]
  rfl

/-- With the day first, a time is read if it ends behind the minutes. -/
theorem readFirst?_timeLayouts (hyear : FourDigits w.day.year) (rest : List Char) :
    readFirst? timeLayouts (w.renderDay.toList ++ rest) =
      (readLayout? [.mark 'T', .field .hour, .mark ':', .field .minute] (dayReading w.day)
        rest).bind (·.wall?) := by
  simp only [readFirst?, timeLayouts, List.findSome?_cons, List.findSome?_nil,
    readLayout?_renderDay hyear, readLayout?_year_first, Option.bind_none]
  generalize Option.bind (readLayout? _ _ rest) _ = found
  cases found <;> rfl

theorem readFirst?_dayLayouts (hyear : FourDigits w.day.year) (rest : List Char) :
    readFirst? dayLayouts (w.renderDay.toList ++ rest) =
      (readLayout? [] (dayReading w.day) rest).bind (·.wall?) := by
  simp only [readFirst?, dayLayouts, List.findSome?_cons, List.findSome?_nil,
    readLayout?_renderDay hyear, readLayout?_year_first, readLayout?_slashes, Option.bind_none]
  generalize Option.bind (readLayout? _ _ rest) _ = found
  cases found <;> rfl

/-! ## Blanks at the ends -/

theorem isDigit_of_mem_getLast? {before : List Char} {width n : Nat} (h0 : 0 < width) {c : Char}
    (hc : c ∈ (before ++ (Wall.padded width n).toList).getLast?) : c.isDigit = true := by
  have hlength := Decimal.le_length_padZeros width n
  have hne : (Wall.padded width n).toList ≠ [] := by
    intro hnil
    rw [Wall.padded] at hnil
    rw [hnil] at hlength
    simp at hlength
    omega
  rw [List.getLast?_append_of_ne_nil _ hne] at hc
  exact Decimal.isDigit_of_mem_padZeros width n (List.mem_of_getLast? hc)

/-- A text that starts with a day and ends with a digit has no blanks at its ends. -/
theorem trimChars_renderDay (w : Wall) (rest : List Char)
    (hlast : ∀ c ∈ (w.renderDay.toList ++ rest).getLast?, c.isDigit = true) :
    Text.trimChars (w.renderDay.toList ++ rest) = w.renderDay.toList ++ rest := by
  apply Text.trimChars_of_ends
  · intro c hc
    obtain ⟨d, ds, hcons, hd⟩ := (writes_day w).exists_cons (by decide)
    rw [toList_renderDay, hcons] at hc
    cases hc
    exact isBlank_of_isDigit hd
  · intro c hc
    exact isBlank_of_isDigit (hlast c hc)

end

end Calendar

/-! ## Dates -/

namespace Date

open Calendar

variable {d : Date} {seconds : Int}

/-- A date that is written with a day of four digits and without the name of a zone. -/
structure Plain (d : Date) : Prop where
  label : d.label = none
  form : d.form = .dayTime ∨ d.form = .day ∧ d.wall = Wall.midnight d.wall.day
  year : 1 ≤ d.wall.day.year ∧ d.wall.day.year ≤ 9999

theorem Plain.fourDigits (h : d.Plain) : FourDigits d.wall.day.year := by
  obtain ⟨hlow, hhigh⟩ := h.year
  constructor <;> omega

/-- A year of four digits is far from the ends of the range. -/
theorem Plain.inRange (h : d.Plain) (hzone : d.zone = .fixed seconds)
    (hoffset : Timetable.IsOffset seconds) : d.instant.InRange := by
  obtain ⟨hlow, hhigh⟩ := (valid_day d.wall).year_bounds
  obtain ⟨hfirst, hlast⟩ := h.year
  have hyear := Day.number_year_mono hfirst
  have hyear' := Day.number_year_mono (show d.wall.day.year + 1 ≤ 10000 by omega)
  have hone : Day.number ⟨1, 1, 1⟩ = -719162 := by decide
  have hlimit : Day.number ⟨10000, 1, 1⟩ = 2932897 := by decide
  have hnumber : d.wall.day.number = d.wall.seconds / 86400 := Day.number_ofNumber _
  have hwall : d.wall.seconds = d.instant.seconds + seconds := by
    rw [wall, hzone]
    rfl
  obtain ⟨hbehind, hahead⟩ := hoffset
  simp only [secondsPerDay] at hbehind hahead
  rw [Instant.InRange, rangeStart_eq, rangeStop_eq]
  omega

/-- The instant at the start of the second. -/
def secondStart (i : Instant) : Instant := ⟨i.seconds, 0⟩

theorem ofWall?_of_seconds {w : Wall} {form : DateForm} (hzone : d.zone = .fixed seconds)
    (hrange : d.instant.InRange) (hw : w = ⟨d.wall.seconds, 0⟩) :
    ofWall? w (.fixed seconds) form =
      some { instant := secondStart d.instant, zone := .fixed seconds, label := none, form } := by
  have hshown : w = (Zone.fixed seconds).wallClock (secondStart d.instant) := by
    rw [hw, wall, hzone]
    rfl
  rw [ofWall?, hshown, Zone.instantOf?_wallClock_fixed seconds (i := secondStart d.instant) hrange]
  rfl

/-- The time of day in whole minutes. -/
theorem onDay_of_second_eq_zero {w : Wall} (h : w.second = 0) :
    Wall.onDay w.day w.hour w.minute 0 0 = ⟨w.seconds, 0⟩ := by
  have hparts := secondOfDay_eq w
  have hnumber : w.day.number = w.seconds / 86400 := Day.number_ofNumber _
  simp only [Wall.secondOfDay, secondsPerDay] at hparts
  simp only [Wall.onDay, Wall.mk.injEq, secondsPerDay, if_pos (Nat.zero_le 59), and_true]
  omega

/-- The seconds behind hours and minutes, as they are written. -/
def secondsText (w : Wall) : List Char :=
  if w.second = 0 then []
  else ':' :: (Wall.padded 2 (w.second + w.nanos / nanosPerSecond)).toList

theorem toList_renderTime (w : Wall) :
    'T' :: w.renderTime.toList = clockText w ++ secondsText w := by
  rw [Wall.renderTime, secondsText]
  by_cases h : w.second = 0 <;> simp [h, clockText, Wall.renderClock, String.toList_append]

theorem isDigit_of_mem_getLast?_time (w : Wall) (before : List Char) :
    ∀ c ∈ (before ++ (clockText w ++ secondsText w)).getLast?, c.isDigit = true := by
  intro c hc
  rw [secondsText] at hc
  split at hc
  · have htext : before ++ (clockText w ++ []) =
        (before ++ 'T' :: ((Wall.padded 2 w.hour).toList ++ [':'])) ++
          (Wall.padded 2 w.minute).toList := by
      simp [clockText]
    rw [htext] at hc
    exact isDigit_of_mem_getLast? (by decide) hc
  · have htext (ds : List Char) : before ++ (clockText w ++ ':' :: ds) =
        (before ++ (clockText w ++ [':'])) ++ ds := by
      simp
    rw [htext] at hc
    exact isDigit_of_mem_getLast? (by decide) hc

theorem isDigit_of_mem_getLast?_day {w : Wall} (hyear : FourDigits w.day.year) :
    ∀ c ∈ w.renderDay.toList.getLast?, c.isDigit = true := by
  intro c hc
  have hyears : Wall.renderYear w.day.year = Wall.padded 4 w.day.year.natAbs := if_pos hyear
  have htext (ys : List Char) : (Wall.padded 2 w.day.day).toList ++ '.' ::
      ((Wall.padded 2 w.day.month).toList ++ '.' :: ys) =
        ((Wall.padded 2 w.day.day).toList ++ '.' ::
          ((Wall.padded 2 w.day.month).toList ++ ['.'])) ++ ys := by
    simp
  rw [toList_renderDay, hyears, htext] at hc
  exact isDigit_of_mem_getLast? (by decide) hc

/-- With hours and minutes behind the day, a text is read if nothing follows. -/
theorem ofText?_time {w : Wall} (hyear : FourDigits w.day.year) (zone : Zone) (rest : List Char) :
    ofText? (w.renderDay.toList ++ (clockText w ++ rest)) zone =
      if rest = [] then ofWall? (Wall.onDay w.day w.hour w.minute 0 0) zone .dayTime
      else none := by
  have htime := readFirst?_timeLayouts hyear (clockText w ++ rest)
  have hday := readFirst?_dayLayouts hyear (clockText w ++ rest)
  have hmiss : readLayout? [] (dayReading w.day) (clockText w ++ rest) = none := rfl
  rw [readLayout?_clock] at htime
  rw [hmiss] at hday
  rw [ofText?, timestamp?_renderDay, htime, hday]
  cases rest with
  | nil =>
    have hwall := wall?_dayReading (valid_day w) hyear w.hour w.minute
    simp only [readLayout?, Option.bind_some, if_true, hwall]
  | cons c rest => simp [readLayout?]

theorem ofText?_day {w : Wall} (hyear : FourDigits w.day.year) (zone : Zone) :
    ofText? w.renderDay.toList zone = ofWall? (Wall.onDay w.day 0 0 0 0) zone .day := by
  have htime := readFirst?_timeLayouts hyear []
  have hday := readFirst?_dayLayouts hyear []
  have hstamp := timestamp?_renderDay w []
  have hwall : (dayReading w.day).wall? = some (Wall.onDay w.day 0 0 0 0) :=
    wall?_dayReading (valid_day w) hyear 0 0
  rw [List.append_nil] at htime hday hstamp
  rw [ofText?, hstamp, htime, hday]
  simp only [readLayout?, Option.bind_none, Option.bind_some, hwall]

/-- The text of a date leads back to the start of its second, unless it shows seconds: no layout
with the day first has a place for them. -/
theorem ofText?_render (h : d.Plain) (hzone : d.zone = .fixed seconds)
    (hrange : d.instant.InRange) :
    ofText? (Text.trimChars d.render.toList) (.fixed seconds) =
      if d.form = .day ∨ d.wall.second = 0 then
        some { instant := secondStart d.instant, zone := .fixed seconds, label := none,
               form := d.form }
      else none := by
  have hyear := h.fourDigits
  rcases h.form with hform | ⟨hform, hmidnight⟩
  · have htext : d.render.toList =
        d.wall.renderDay.toList ++ (clockText d.wall ++ secondsText d.wall) := by
      rw [← toList_renderTime]
      simp [render, h.label, hform, String.toList_append]
    rw [htext, trimChars_renderDay _ _ (isDigit_of_mem_getLast?_time _ _), ofText?_time hyear]
    by_cases hsecond : d.wall.second = 0
    · have hnone : secondsText d.wall = [] := if_pos hsecond
      rw [if_pos hnone, if_pos (.inr hsecond), hform]
      exact ofWall?_of_seconds hzone hrange (onDay_of_second_eq_zero hsecond)
    · have hsome : secondsText d.wall ≠ [] := by
        rw [secondsText, if_neg hsecond]
        exact List.cons_ne_nil _ _
      rw [if_neg hsome, if_neg (by simp [hform, hsecond])]
  · have htext : d.render.toList = d.wall.renderDay.toList := by
      simp [render, h.label, hform]
    have htrim := trimChars_renderDay d.wall [] (by
      rw [List.append_nil]
      exact isDigit_of_mem_getLast?_day hyear)
    rw [List.append_nil] at htrim
    have hseconds : d.wall.seconds = d.wall.day.number * secondsPerDay :=
      congrArg Wall.seconds hmidnight
    have hwall : Wall.onDay d.wall.day 0 0 0 0 = ⟨d.wall.seconds, 0⟩ := by
      rw [hseconds]
      exact congrArg (Wall.mk · 0) (Int.add_zero _)
    rw [htext, htrim, ofText?_day hyear, if_pos (.inl hform), hform]
    exact ofWall?_of_seconds hzone hrange hwall

/-- At midnight there is no part of a second. -/
theorem Plain.nanos_of_day (h : d.Plain) (hform : d.form = .day) : d.instant.nanos = 0 := by
  rcases h.form with htimed | ⟨-, hmidnight⟩
  · rw [hform] at htimed
    cases htimed
  · exact congrArg Wall.nanos hmidnight

end Date

/-! ## Casts -/

namespace Eval

open Date

variable {ctx : Context} {call : Caller} {scope : Nat} {e : Expr} {s t : Session} {d : Date}
  {seconds : Int} {o o' : Nat}

/-- A date as text, and that text as a date. -/
def textAndBack (e : Expr) (o o' : Nat) : Expr := .cast (.cast e .string o) .date o'

theorem render_date (s : Session) (d : Date) : s.render (.date d) = d.render := by
  unfold Session.render
  cases s.nesting <;> rfl

theorem evalExpr_textAndBack (he : evalExpr ctx call scope e s = .ok (.date d) t) :
    evalExpr ctx call scope (textAndBack e o o') s =
      (liftM (toDate ctx (.string d.render) o') : EvalM Value) t := by
  have htext : evalExpr ctx call scope (.cast e .string o) s = .ok (.string d.render) t := by
    rw [evalExpr, bind_of_ok he]
    show EStateM.Result.ok (Value.string (t.render (.date d))) t = _
    rw [render_date]
  rw [textAndBack, evalExpr, bind_of_ok htext]
  rfl

theorem toDate_render (h : d.Plain) (hzone : d.zone = .fixed seconds)
    (hoffset : Timetable.IsOffset seconds) (hctx : ctx.zone = d.zone) (o : Nat) :
    toDate ctx (.string d.render) o =
      if d.form = .day ∨ d.wall.second = 0 then
        .ok (.date { instant := secondStart d.instant, zone := .fixed seconds, label := none,
                     form := d.form })
      else failAt o (.typing (.cast .string .date)) := by
  rw [toDate, hctx, hzone, ofText?_render h hzone (h.inRange hzone hoffset)]
  by_cases hshown : d.form = .day ∨ d.wall.second = 0
  · rw [if_pos hshown, if_pos hshown]
  · rw [if_neg hshown, if_neg hshown]
    rfl

/-- A date that is written in the zone of the context comes back from its text exactly if it is a
day, or if its clocks show whole minutes: seconds are written, but behind a day none are read. -/
theorem returns_from_text_iff (he : evalExpr ctx call scope e s = .ok (.date d) t) (h : d.Plain)
    (hzone : d.zone = .fixed seconds) (hoffset : Timetable.IsOffset seconds)
    (hctx : ctx.zone = d.zone) (o o' : Nat) :
    ((∃ d', evalExpr ctx call scope (textAndBack e o o') s = .ok (.date d') t ∧
        d'.instant = d.instant ∧ d'.form = d.form) ↔
      d.form = .day ∨ d.wall.second = 0 ∧ d.instant.nanos = 0) ∧
    (d.form = .dayTime → d.wall.second ≠ 0 →
      evalExpr ctx call scope (textAndBack e o o') s =
        .error (.fault { cause := .typing (.cast .string .date), offset := o' }) t) := by
  rw [evalExpr_textAndBack he, toDate_render h hzone hoffset hctx]
  constructor
  · constructor
    · rintro ⟨d', hd', hinstant, -⟩
      obtain ⟨hread, -⟩ := lift_run_eq_ok_iff.1 hd'
      split at hread
      · rename_i hshown
        cases hread
        have hnanos : d.instant.nanos = 0 := congrArg Instant.nanos hinstant.symm
        exact hshown.imp id fun hsecond => ⟨hsecond, hnanos⟩
      · cases hread
    · intro hwhole
      have hnanos : d.instant.nanos = 0 := hwhole.elim h.nanos_of_day And.right
      have hinstant : secondStart d.instant = d.instant := by
        rw [secondStart, ← hnanos]
      rw [if_pos (hwhole.imp id And.left)]
      exact ⟨_, rfl, hinstant, rfl⟩
  · intro htimed hsecond
    rw [if_neg (by simp [htimed, hsecond])]
    rfl

/-- The last day of the year 9999, at noon, in a zone that is ahead. -/
theorem returns_from_text_iff_noon :
    let zone : Zone := .fixed 19800
    let d : Date := { instant := ⟨253402237800, 0⟩, zone, label := none, form := .dayTime }
    let e : Expr := .name "x" 0
    let s := Session.empty.bind 0 "x" (.date d)
    let ctx := Context.ofClock ⟨0, 0⟩ zone
    evalExpr ctx (callValue ctx 1) 0 e s = .ok (.date d) s ∧ d.Plain ∧
      ∃ d', evalExpr ctx (callValue ctx 1) 0 (textAndBack e 2 14) s = .ok (.date d') s ∧
        d'.instant = d.instant ∧ d'.form = d.form := by
  intro zone d e s ctx
  have hplain : d.Plain := ⟨rfl, .inl rfl, by decide⟩
  have hvalue : evalExpr ctx (callValue ctx 1) 0 e s = .ok (.date d) s := rfl
  have hreturn := returns_from_text_iff hvalue hplain rfl (by decide) rfl 2 14
  exact ⟨hvalue, hplain, hreturn.1.2 (.inr (by decide))⟩

/-- Seven seconds past ten, on the fifteenth of January 2024. -/
theorem not_returned_from_text :
    let zone : Zone := .fixed 0
    let d : Date := { instant := ⟨1705312807, 0⟩, zone, label := none, form := .dayTime }
    let e : Expr := .name "x" 0
    let s := Session.empty.bind 0 "x" (.date d)
    let ctx := Context.ofClock ⟨0, 0⟩ zone
    evalExpr ctx (callValue ctx 1) 0 e s = .ok (.date d) s ∧ d.Plain ∧ d.instant.nanos = 0 ∧
      evalExpr ctx (callValue ctx 1) 0 (textAndBack e 2 14) s =
        .error (.fault { cause := .typing (.cast .string .date), offset := 14 }) s := by
  intro zone d e s ctx
  have hplain : d.Plain := ⟨rfl, .inl rfl, by decide⟩
  have hvalue : evalExpr ctx (callValue ctx 1) 0 e s = .ok (.date d) s := rfl
  refine ⟨hvalue, hplain, rfl, ?_⟩
  rw [evalExpr_textAndBack hvalue, toDate_render hplain rfl (by decide) rfl, if_neg (by decide)]
  rfl

end Eval

end Reckoner
