import Reckoner.Proofs.Text.Integers
import Reckoner.Proofs.Zone.Readings

/-!
# Written offsets

Behind `UTC` and `GMT` may stand a sign with hours, or with hours and minutes that a colon
divides.  `Writes` is that grammar, for any notion of what hours and minutes look like:

* with `Text.Integer` it is what is read (`readOffset_eq_some_iff`), so hours and minutes may have
  a sign of their own;
* with `Digits` it is the offsets without a second sign.

The two agree on texts with no sign behind the first character (`writes_digits_iff`), where an
offset is at most 14 hours and 59 minutes long.  Reading panics in two cases: a number on the way to
the offset has no room in a word (`Overflows`), which takes a second sign, or what stands in the
place of the sign is longer than a byte.  `parse_eq_fixed_iff` puts these together.
-/

namespace Reckoner.Zone

open Text Timetable

/-- Decimal digits without a sign. -/
def Digits (cs : List Char) (k : Int) : Prop := ∃ n : Nat, Counts cs n ∧ k = n

/-- Hours, or hours and minutes with a colon between them. -/
inductive Spell (Group : List Char → Int → Prop) : List Char → (hours minutes : Int) → Prop where
  | hours {hs : List Char} {h : Int} (hh : Group hs h) : Spell Group hs h 0
  | minutes {hs ms : List Char} {h m : Int} (hh : Group hs h) (hm : Group ms m) :
    Spell Group (hs ++ ':' :: ms) h m

/-- Nothing, or a sign with a number of hours and minutes. -/
inductive Shift (Group : List Char → Int → Prop) :
    List Char → (sign hours minutes : Int) → Prop where
  | none : Shift Group [] 1 0 0
  | signed {c : Char} {cs : List Char} {sign h m : Int} (hc : Signs c sign)
    (hcs : Spell Group cs h m) : Shift Group (c :: cs) sign h m

/-- The most hours and minutes that are read. -/
def InBounds (hours minutes : Int) : Prop := hours ≤ 14 ∧ minutes ≤ 59

/-- The offset that a text writes, in seconds. -/
def Writes (Group : List Char → Int → Prop) (cs : List Char) (seconds : Int) : Prop :=
  ∃ sign h m, Shift Group cs sign h m ∧ InBounds h m ∧ seconds = sign * (3600 * h + 60 * m)

/-- Words have room for hours and minutes in seconds, and for their sum. -/
structure Room (hours minutes : Int) : Prop where
  fromHours : FitsInt32 (hours * 3600)
  fromMinutes : FitsInt32 (minutes * 60)
  sum : FitsInt32 (hours * 3600 + minutes * 60)

/-- A text writes hours and minutes that words have room for, but not in seconds. -/
def Overflows (cs : List Char) : Prop :=
  ∃ sign h m, Shift Integer cs sign h m ∧ FitsInt32 h ∧ FitsInt32 m ∧ InBounds h m ∧ ¬Room h m

/-- A text writes hours and minutes in words, within the bounds. -/
structure Legible (cs : List Char) (hours minutes : Int) : Prop where
  spell : Spell Integer cs hours minutes
  hoursFit : FitsInt32 hours
  minutesFit : FitsInt32 minutes
  inBounds : InBounds hours minutes

/-- What stands first is longer than a byte. -/
def BeginsWide (cs : List Char) : Prop := ∃ c ∈ cs.head?, c.utf8Size ≠ 1

/-- No sign stands in a text. -/
def Unsigned (cs : List Char) : Prop := '+' ∉ cs ∧ '-' ∉ cs

variable {Group : List Char → Int → Prop} {cs hs ms : List Char} {c : Char}
  {k n h m sign seconds : Int}

/-! ## Groups of digits -/

theorem not_mem_of_isDigit (hcs : ∀ d ∈ cs, d.isDigit = true) (hc : c.isDigit = false) :
    c ∉ cs := by
  intro hmem
  rw [hcs c hmem] at hc
  cases hc

theorem Digits.integer (hcs : Digits cs k) : Integer cs k := by
  obtain ⟨n, hn, rfl⟩ := hcs
  exact .plain hn

theorem Digits.nonneg (hcs : Digits cs k) : 0 ≤ k := by
  obtain ⟨n, -, rfl⟩ := hcs
  exact Int.natCast_nonneg n

theorem Digits.unsigned (hcs : Digits cs k) : Unsigned cs := by
  obtain ⟨n, hn, -⟩ := hcs
  exact ⟨not_mem_of_isDigit hn.isDigit rfl, not_mem_of_isDigit hn.isDigit rfl⟩

theorem not_mem_colon (hcs : Integer cs k) : ':' ∉ cs := by
  cases hcs with
  | plain hn => exact not_mem_of_isDigit hn.isDigit rfl
  | signed hc hn =>
    rw [List.mem_cons, not_or]
    exact ⟨by cases hc <;> decide, not_mem_of_isDigit hn.isDigit rfl⟩

theorem digits_of_integer (hcs : Integer cs k) (hun : Unsigned cs) : Digits cs k := by
  cases hcs with
  | plain hn => exact ⟨_, hn, rfl⟩
  | signed hc hn =>
    cases hc with
    | plus => exact absurd List.mem_cons_self hun.1
    | minus => exact absurd List.mem_cons_self hun.2

/-! ## The grammar -/

theorem unsigned_minutes : Unsigned (hs ++ ':' :: ms) ↔ Unsigned hs ∧ Unsigned ms := by
  simp [Unsigned, and_and_and_comm]

theorem Spell.integer (hcs : Spell Digits cs h m) : Spell Integer cs h m := by
  cases hcs with
  | hours hh => exact .hours hh.integer
  | minutes hh hm => exact .minutes hh.integer hm.integer

theorem Spell.unsigned (hcs : Spell Digits cs h m) : Unsigned cs := by
  cases hcs with
  | hours hh => exact hh.unsigned
  | minutes hh hm => exact unsigned_minutes.2 ⟨hh.unsigned, hm.unsigned⟩

theorem Spell.nonneg (hcs : Spell Digits cs h m) : 0 ≤ h ∧ 0 ≤ m := by
  cases hcs with
  | hours hh => exact ⟨hh.nonneg, le_rfl⟩
  | minutes hh hm => exact ⟨hh.nonneg, hm.nonneg⟩

theorem spell_digits_of_integer (hcs : Spell Integer cs h m) (hun : Unsigned cs) :
    Spell Digits cs h m := by
  cases hcs with
  | hours hh => exact .hours (digits_of_integer hh hun)
  | minutes hh hm =>
    obtain ⟨hhun, hmun⟩ := unsigned_minutes.1 hun
    exact .minutes (digits_of_integer hh hhun) (digits_of_integer hm hmun)

/-- A second sign is all that integers allow beyond digits. -/
theorem shift_digits_iff :
    Shift Digits cs sign h m ↔ Shift Integer cs sign h m ∧ Unsigned cs.tail := by
  constructor
  · intro hcs
    cases hcs with
    | none => exact ⟨.none, by simp [Unsigned]⟩
    | signed hc hspell => exact ⟨.signed hc hspell.integer, hspell.unsigned⟩
  · rintro ⟨hcs, hun⟩
    cases hcs with
    | none => exact .none
    | signed hc hspell => exact .signed hc (spell_digits_of_integer hspell hun)

theorem writes_digits_iff : Writes Digits cs n ↔ Writes Integer cs n ∧ Unsigned cs.tail := by
  unfold Writes
  constructor
  · rintro ⟨sign, h, m, hcs, hrest⟩
    obtain ⟨hshift, hun⟩ := shift_digits_iff.1 hcs
    exact ⟨⟨sign, h, m, hshift, hrest⟩, hun⟩
  · rintro ⟨⟨sign, h, m, hcs, hrest⟩, hun⟩
    exact ⟨sign, h, m, shift_digits_iff.2 ⟨hcs, hun⟩, hrest⟩

theorem Shift.nonneg (hcs : Shift Digits cs sign h m) : 0 ≤ h ∧ 0 ≤ m := by
  cases hcs with
  | none => exact ⟨le_rfl, le_rfl⟩
  | signed hc hspell => exact hspell.nonneg

theorem Shift.eq_one_or (hcs : Shift Group cs sign h m) : sign = 1 ∨ sign = -1 := by
  cases hcs with
  | none => exact .inl rfl
  | signed hc _ => exact hc.eq_one_or

/-- Digits write at most 14 hours and 59 minutes, ahead or behind. -/
theorem natAbs_le_of_writes (hcs : Writes Digits cs n) : n.natAbs ≤ 14 * 3600 + 59 * 60 := by
  obtain ⟨sign, h, m, hshift, ⟨hh, hm⟩, rfl⟩ := hcs
  have hnonneg := hshift.nonneg
  rcases hshift.eq_one_or with rfl | rfl <;> omega

theorem isOffset_of_writes (hcs : Writes Digits cs n) : IsOffset n := by
  have hle := natAbs_le_of_writes hcs
  unfold IsOffset secondsPerDay
  omega

/-- Hours and minutes in digits have room in seconds too. -/
theorem Shift.room (hcs : Shift Digits cs sign h m) (hbounds : InBounds h m) : Room h m := by
  obtain ⟨hh, hm⟩ := hbounds
  have hnonneg := hcs.nonneg
  constructor <;> unfold FitsInt32 <;> omega

theorem not_overflows_of_unsigned (hun : Unsigned cs.tail) : ¬Overflows cs := by
  rintro ⟨sign, h, m, hshift, -, -, hbounds, hroom⟩
  exact hroom ((shift_digits_iff.2 ⟨hshift, hun⟩).room hbounds)

/-! ## Reading -/

/-- A colon divides hours and minutes only where neither has one. -/
theorem spell_iff_splitOnce : Spell Integer cs h m ↔
    Integer (splitOnce ':' cs).1 h ∧ ((splitOnce ':' cs).2 = none ∧ m = 0 ∨
      ∃ ms, (splitOnce ':' cs).2 = some ms ∧ Integer ms m) := by
  constructor
  · intro hcs
    cases hcs with
    | hours hh =>
      rw [splitOnce_of_not_mem (not_mem_colon hh)]
      exact ⟨hh, .inl ⟨rfl, rfl⟩⟩
    | minutes hh hm =>
      rw [splitOnce_append (not_mem_colon hh)]
      exact ⟨hh, .inr ⟨_, rfl, hm⟩⟩
  · rintro ⟨hh, hm⟩
    rcases splitOnce_cases ':' cs with ⟨-, hcut⟩ | ⟨hs, ms, rfl, -, hcut⟩
    · rw [hcut] at hh hm
      rcases hm with ⟨-, rfl⟩ | ⟨ms, hnone, -⟩
      · exact .hours hh
      · cases hnone
    · rw [hcut] at hh hm
      rcases hm with ⟨hsome, -⟩ | ⟨ms', heq, hm⟩
      · cases hsome
      · cases heq
        exact .minutes hh hm

theorem elim_word?_eq_some_iff {minutes : Option (List Char)} :
    minutes.elim (some 0) word? = some m ↔
      (minutes = none ∧ m = 0 ∨ ∃ ms, minutes = some ms ∧ Integer ms m) ∧ FitsInt32 m := by
  cases minutes with
  | none =>
    refine ⟨fun heq => ?_, ?_⟩
    · cases heq
      exact ⟨.inl ⟨rfl, rfl⟩, by decide⟩
    · rintro ⟨⟨-, rfl⟩ | ⟨ms, hnone, -⟩, -⟩
      · rfl
      · cases hnone
  | some ms =>
    show word? ms = some m ↔ _
    rw [word?_eq_some_iff]
    refine and_congr_left fun _ => ⟨fun hm => .inr ⟨ms, rfl, hm⟩, ?_⟩
    rintro (⟨hnone, -⟩ | ⟨ms', heq, hm⟩)
    · cases hnone
    · cases heq
      exact hm

theorem spell_iff_word? : Spell Integer cs h m ∧ FitsInt32 h ∧ FitsInt32 m ↔
    word? (splitOnce ':' cs).1 = some h ∧ (splitOnce ':' cs).2.elim (some 0) word? = some m := by
  rw [word?_eq_some_iff, elim_word?_eq_some_iff, spell_iff_splitOnce]
  tauto

/-! ## Steps in words -/

theorem inWord_of_fits (hk : FitsInt32 k) : inWord k = .ok k := if_pos hk

theorem inWord_of_not_fits (hk : ¬FitsInt32 k) : inWord k = .error .overflow := if_neg hk

/-- Seconds come in sixties, so the number whose opposite has no room is none of them. -/
theorem Room.signed (hroom : Room h m) (hsign : sign = 1 ∨ sign = -1) :
    FitsInt32 (sign * (h * 3600 + m * 60)) := by
  obtain ⟨-, -, hsum⟩ := hroom
  unfold FitsInt32 at hsum ⊢
  rcases hsign with rfl | rfl <;> omega

/-- Legible hours and minutes are read if there is room for every step, and else nothing is. -/
theorem readHours_of_legible (hsign : sign = 1 ∨ sign = -1) (hcs : Legible cs h m) :
    (Room h m → readHours sign cs = .ok (checkOffset? (sign * (3600 * h + 60 * m)))) ∧
      (¬Room h m → readHours sign cs = .error .overflow) := by
  obtain ⟨hspell, hh, hm, hbounds⟩ := hcs
  obtain ⟨hhours, hminutes⟩ := spell_iff_word?.1 ⟨hspell, hh, hm⟩
  have hread : readHours sign cs = do
      let fromHours ← inWord (h * 3600)
      let fromMinutes ← inWord (m * 60)
      let seconds ← inWord (fromHours + fromMinutes)
      return checkOffset? (← inWord (sign * seconds)) := by
    unfold readHours
    simp only [hhours, hminutes]
    exact if_neg (by unfold InBounds at hbounds; omega)
  rw [hread]
  dsimp only [bind, Except.bind]
  constructor
  · intro hroom
    rw [inWord_of_fits hroom.fromHours, inWord_of_fits hroom.fromMinutes]
    dsimp only
    rw [inWord_of_fits hroom.sum]
    dsimp only
    rw [inWord_of_fits (hroom.signed hsign), mul_comm h, mul_comm m]
    rfl
  · intro hroom
    by_cases hfirst : FitsInt32 (h * 3600)
    · rw [inWord_of_fits hfirst]
      dsimp only
      by_cases hsecond : FitsInt32 (m * 60)
      · rw [inWord_of_fits hsecond]
        dsimp only
        rw [inWord_of_not_fits fun hsum => hroom ⟨hfirst, hsecond, hsum⟩]
      · rw [inWord_of_not_fits hsecond]
    · rw [inWord_of_not_fits hfirst]

theorem readHours_of_illegible (hcs : ∀ h m, ¬Legible cs h m) :
    readHours sign cs = .ok none := by
  unfold readHours
  dsimp only
  split
  · rename_i h m hhours hminutes
    obtain ⟨hspell, hh, hm⟩ := spell_iff_word?.2 ⟨hhours, hminutes⟩
    refine if_pos ?_
    by_contra hbounds
    exact hcs h m ⟨hspell, hh, hm, by unfold InBounds; omega⟩
  · rfl

/-- The ways in which hours and minutes are read. -/
theorem readHours_cases (hsign : sign = 1 ∨ sign = -1) (cs : List Char) :
    (∃ h m, Legible cs h m ∧
      readHours sign cs = .ok (checkOffset? (sign * (3600 * h + 60 * m)))) ∨
    (∃ h m, Legible cs h m ∧ ¬Room h m ∧ readHours sign cs = .error .overflow) ∨
    readHours sign cs = .ok none := by
  by_cases hcs : ∃ h m, Legible cs h m
  · obtain ⟨h, m, hcs⟩ := hcs
    obtain ⟨hread, hpanic⟩ := readHours_of_legible hsign hcs
    by_cases hroom : Room h m
    · exact .inl ⟨h, m, hcs, hread hroom⟩
    · exact .inr (.inl ⟨h, m, hcs, hroom, hpanic hroom⟩)
  · exact .inr (.inr (readHours_of_illegible fun h m hlegible => hcs ⟨h, m, hlegible⟩))

theorem checkOffset?_eq_some_iff : checkOffset? k = some n ↔ k = n ∧ IsOffset n := by
  unfold checkOffset? IsOffset secondsPerDay
  rw [Option.ite_none_right_eq_some, Option.some.injEq]
  constructor
  · rintro ⟨h, rfl⟩
    exact ⟨rfl, h⟩
  · rintro ⟨rfl, h⟩
    exact ⟨h, rfl⟩

/-- An offset below a day leaves room for hours and minutes, in seconds too. -/
theorem room_of_isOffset (hsign : sign = 1 ∨ sign = -1) (hbounds : InBounds h m)
    (hoffset : IsOffset (sign * (3600 * h + 60 * m))) :
    FitsInt32 h ∧ FitsInt32 m ∧ Room h m := by
  obtain ⟨hh, hm⟩ := hbounds
  unfold IsOffset secondsPerDay at hoffset
  refine ⟨?_, ?_, ?_, ?_, ?_⟩ <;> unfold FitsInt32 <;> rcases hsign with rfl | rfl <;> omega

theorem readHours_eq_some_iff (hsign : sign = 1 ∨ sign = -1) :
    readHours sign cs = .ok (some n) ↔ ∃ h m, Spell Integer cs h m ∧ InBounds h m ∧
      n = sign * (3600 * h + 60 * m) ∧ IsOffset n := by
  constructor
  · intro hread
    rcases readHours_cases hsign cs with ⟨h, m, hcs, heq⟩ | ⟨h, m, -, -, heq⟩ | heq
    · rw [heq, Except.ok.injEq, checkOffset?_eq_some_iff] at hread
      exact ⟨h, m, hcs.spell, hcs.inBounds, hread.1.symm, hread.2⟩
    all_goals
      rw [heq] at hread
      cases hread
  · rintro ⟨h, m, hspell, hbounds, rfl, hoffset⟩
    obtain ⟨hh, hm, hroom⟩ := room_of_isOffset hsign hbounds hoffset
    rw [(readHours_of_legible hsign ⟨hspell, hh, hm, hbounds⟩).1 hroom]
    exact congrArg Except.ok (checkOffset?_eq_some_iff.2 ⟨rfl, hoffset⟩)

/-- Hours and minutes panic in one way only: legible as they are, words have no room for their
seconds. -/
theorem readHours_eq_error_iff (hsign : sign = 1 ∨ sign = -1) {e : Panic} :
    readHours sign cs = .error e ↔ e = .overflow ∧ ∃ h m, Legible cs h m ∧ ¬Room h m := by
  constructor
  · intro hread
    rcases readHours_cases hsign cs with ⟨h, m, -, heq⟩ | ⟨h, m, hcs, hroom, heq⟩ | heq
    · rw [heq] at hread
      cases hread
    · rw [heq] at hread
      cases hread
      exact ⟨rfl, h, m, hcs, hroom⟩
    · rw [heq] at hread
      cases hread
  · rintro ⟨rfl, h, m, hcs, hroom⟩
    exact (readHours_of_legible hsign hcs).2 hroom

/-! ## Behind `UTC` -/

theorem not_beginsWide_of_signs (hc : Signs c sign) : ¬BeginsWide (c :: cs) := by
  rintro ⟨d, hd, hwide⟩
  cases hd
  cases hc <;> exact hwide rfl

theorem Shift.not_beginsWide (hcs : Shift Group cs sign h m) : ¬BeginsWide cs := by
  cases hcs with
  | none => exact fun ⟨_, hc, _⟩ => by cases hc
  | signed hc _ => exact not_beginsWide_of_signs hc

/-- How a text goes on behind `UTC`: with a character longer than a byte, not at all, with a sign,
or with something else. -/
theorem readOffset_cases (cs : List Char) :
    (BeginsWide cs ∧ readOffset cs = .error .boundary) ∨
    (cs = [] ∧ readOffset cs = .ok (some 0)) ∨
    (∃ c rest sign, cs = c :: rest ∧ Signs c sign ∧ readOffset cs = readHours sign rest) ∨
    (¬BeginsWide cs ∧ (∀ sign h m, ¬Shift Integer cs sign h m) ∧ readOffset cs = .ok none) := by
  cases cs with
  | nil => exact .inr (.inl ⟨rfl, rfl⟩)
  | cons c rest =>
    by_cases hwide : c.utf8Size ≠ 1
    · exact .inl ⟨⟨c, rfl, hwide⟩, if_pos hwide⟩
    refine .inr (.inr ?_)
    by_cases hplus : c = '+'
    · subst hplus
      exact .inl ⟨_, _, _, rfl, .plus, rfl⟩
    by_cases hminus : c = '-'
    · subst hminus
      exact .inl ⟨_, _, _, rfl, .minus, rfl⟩
    refine .inr ⟨?_, fun sign h m hshift => ?_, ?_⟩
    · rintro ⟨d, hd, hd'⟩
      cases hd
      exact hwide hd'
    · cases hshift with
      | signed hc _ => cases hc <;> contradiction
    · rw [readOffset, if_neg hwide, if_neg hplus, if_neg hminus]

/-- What is read is what integers write, if it is shorter than a day. -/
theorem readOffset_eq_some_iff :
    readOffset cs = .ok (some n) ↔ Writes Integer cs n ∧ IsOffset n := by
  rcases readOffset_cases cs with ⟨hwide, heq⟩ | ⟨rfl, heq⟩ | ⟨c, rest, sign, rfl, hc, heq⟩ |
    ⟨-, hnone, heq⟩ <;> rw [heq]
  · exact iff_of_false nofun fun ⟨⟨_, _, _, hshift, _⟩, _⟩ => hshift.not_beginsWide hwide
  · rw [Except.ok.injEq, Option.some.injEq]
    constructor
    · rintro rfl
      exact ⟨⟨1, 0, 0, .none, ⟨by decide, by decide⟩, rfl⟩, by decide⟩
    · rintro ⟨⟨sign, h, m, hshift, -, rfl⟩, -⟩
      cases hshift
      rfl
  · rw [readHours_eq_some_iff hc.eq_one_or]
    constructor
    · rintro ⟨h, m, hspell, hbounds, hn, hoffset⟩
      exact ⟨⟨sign, h, m, .signed hc hspell, hbounds, hn⟩, hoffset⟩
    · rintro ⟨⟨sign', h, m, hshift, hbounds, hn⟩, hoffset⟩
      cases hshift with
      | signed hc' hspell =>
        obtain rfl : sign = sign' := by cases hc <;> cases hc' <;> rfl
        exact ⟨h, m, hspell, hbounds, hn, hoffset⟩
  · exact iff_of_false nofun fun ⟨⟨sign, h, m, hshift, _⟩, _⟩ => hnone sign h m hshift

/-- Reading runs out of words where the seconds do. -/
theorem readOffset_eq_overflow_iff : readOffset cs = .error .overflow ↔ Overflows cs := by
  rcases readOffset_cases cs with ⟨hwide, heq⟩ | ⟨rfl, heq⟩ | ⟨c, rest, sign, rfl, hc, heq⟩ |
    ⟨-, hnone, heq⟩ <;> rw [heq]
  · exact iff_of_false nofun fun ⟨_, _, _, hshift, _⟩ => hshift.not_beginsWide hwide
  · exact iff_of_false nofun (not_overflows_of_unsigned ⟨nofun, nofun⟩)
  · rw [readHours_eq_error_iff hc.eq_one_or]
    constructor
    · rintro ⟨-, h, m, hcs, hroom⟩
      exact ⟨sign, h, m, .signed hc hcs.spell, hcs.hoursFit, hcs.minutesFit, hcs.inBounds, hroom⟩
    · rintro ⟨sign', h, m, hshift, hh, hm, hbounds, hroom⟩
      cases hshift with
      | signed _ hspell => exact ⟨rfl, h, m, ⟨hspell, hh, hm, hbounds⟩, hroom⟩
  · exact iff_of_false nofun fun ⟨sign, h, m, hshift, _⟩ => hnone sign h m hshift

/-- Reading cuts a character where the sign should stand. -/
theorem readOffset_eq_boundary_iff : readOffset cs = .error .boundary ↔ BeginsWide cs := by
  rcases readOffset_cases cs with ⟨hwide, heq⟩ | ⟨rfl, heq⟩ | ⟨c, rest, sign, rfl, hc, heq⟩ |
    ⟨hnarrow, -, heq⟩ <;> rw [heq]
  · exact iff_of_true rfl hwide
  · exact iff_of_false nofun fun ⟨_, hc, _⟩ => by cases hc
  · rw [readHours_eq_error_iff hc.eq_one_or]
    exact iff_of_false (fun ⟨heq, _⟩ => nomatch heq) (not_beginsWide_of_signs hc)
  · exact iff_of_false nofun hnarrow

/-! ## Whole names -/

variable {s : String} {head rest : List Char} {e : Panic}

theorem parseOffset_of_head {name : String} (hname : (toUpper name).toList = head ++ rest)
    (hhead : head = ['U', 'T', 'C'] ∨ head = ['G', 'M', 'T']) :
    parseOffset name = readOffset rest := by
  unfold parseOffset
  rw [hname]
  rcases hhead with rfl | rfl <;> rfl

/-- A name panics where its offset does. -/
theorem parse_eq_error_iff : parse s = .error e ↔ parseOffset (trim s) = .error e := by
  unfold parse
  dsimp only [bind, Except.bind]
  cases parseOffset (trim s) with
  | error e' => rw [Except.error.injEq, Except.error.injEq]
  | ok seconds? => cases seconds? <;> exact iff_of_false nofun nofun

/-- No region and no city is a constant offset. -/
theorem ofName?_ne_fixed (name : String) : ofName? name ≠ some (.fixed n) := by
  have hregion (r : String) : ofRegion? r ≠ some (.fixed n) := by
    intro h
    obtain ⟨table, -, heq⟩ := Option.map_eq_some_iff.1 h
    cases heq
  unfold ofName?
  split
  · exact hregion _
  · split
    · exact hregion _
    · nofun

theorem parse_eq_fixed_iff_parseOffset :
    parse s = .ok (some (.fixed n)) ↔ parseOffset (trim s) = .ok (some n) := by
  unfold parse
  dsimp only [bind, Except.bind]
  cases parseOffset (trim s) with
  | error e => exact iff_of_false nofun nofun
  | ok seconds? =>
    cases seconds? with
    | none => exact iff_of_false (fun h => ofName?_ne_fixed _ (Except.ok.inj h)) nofun
    | some seconds =>
      simp only [pure, Except.pure, Except.ok.injEq, Option.some.injEq, fixed.injEq]

/-! ## All together -/

/-- Names that begin with `UTC` or `GMT`, in any case and with blanks around them.  They are read by
the grammar in which hours and minutes may have a sign of their own, so a name is read by the
grammar of digits exactly if it is read at all and no second sign stands in it.  Then the offset is
at most 14 hours and 59 minutes long, and no number on the way to it leaves its word; that takes a
second sign.  The only other panic is a first character longer than a byte. -/
theorem parse_eq_fixed_iff (hs : (toUpper (trim s)).toList = head ++ rest)
    (hhead : head = ['U', 'T', 'C'] ∨ head = ['G', 'M', 'T']) :
    (∀ n, parse s = .ok (some (.fixed n)) ↔ Writes Integer rest n ∧ IsOffset n) ∧
    (∀ n, Writes Digits rest n ↔ parse s = .ok (some (.fixed n)) ∧ Unsigned rest.tail) ∧
    (∀ n, Writes Digits rest n → n.natAbs ≤ 14 * 3600 + 59 * 60) ∧
    (parse s = .error .overflow ↔ Overflows rest) ∧
    (Unsigned rest.tail → parse s ≠ .error .overflow) ∧
    (parse s = .error .boundary ↔ BeginsWide rest) := by
  have hoffset := parseOffset_of_head hs hhead
  have hread (n : Int) : parse s = .ok (some (.fixed n)) ↔ Writes Integer rest n ∧ IsOffset n := by
    rw [parse_eq_fixed_iff_parseOffset, hoffset, readOffset_eq_some_iff]
  have hoverflow : parse s = .error .overflow ↔ Overflows rest := by
    rw [parse_eq_error_iff, hoffset, readOffset_eq_overflow_iff]
  refine ⟨hread, fun n => ?_, fun n => natAbs_le_of_writes, hoverflow,
    fun hun h => not_overflows_of_unsigned hun (hoverflow.1 h), ?_⟩
  · rw [hread]
    constructor
    · intro h
      obtain ⟨hinteger, hun⟩ := writes_digits_iff.1 h
      exact ⟨⟨hinteger, isOffset_of_writes h⟩, hun⟩
    · rintro ⟨⟨hinteger, -⟩, hun⟩
      exact writes_digits_iff.2 ⟨hinteger, hun⟩
  · rw [parse_eq_error_iff, hoffset, readOffset_eq_boundary_iff]

/-- Half past five ahead. -/
theorem parse_eq_fixed_iff_ahead :
    let rest := ['+', '5', ':', '3', '0']
    (toUpper (trim " utc+5:30 ")).toList = ['U', 'T', 'C'] ++ rest ∧ Writes Digits rest 19800 ∧
      parse " utc+5:30 " = .ok (some (.fixed 19800)) ∧ Unsigned rest.tail ∧
      parse " utc+5:30 " ≠ .error .overflow := by
  intro rest
  have hname : (toUpper (trim " utc+5:30 ")).toList = ['U', 'T', 'C'] ++ rest := by decide
  have hh : Digits ['5'] 5 := ⟨5, nat?_eq_some_iff.1 rfl, rfl⟩
  have hm : Digits ['3', '0'] 30 := ⟨30, nat?_eq_some_iff.1 rfl, rfl⟩
  have hwrites : Writes Digits rest 19800 :=
    ⟨1, 5, 30, .signed .plus (.minutes hh hm), ⟨by decide, by decide⟩, rfl⟩
  obtain ⟨-, hdigits, -, -, hroom, -⟩ := parse_eq_fixed_iff hname (.inl rfl)
  obtain ⟨hread, hun⟩ := (hdigits 19800).1 hwrites
  exact ⟨hname, hwrites, hread, hun, hroom hun⟩

/-- Minus five and minus twenty hours ahead are read as five and twenty hours behind, although no
digits write them; and the least number of hours that a word has room for leaves the word in
seconds. -/
theorem second_sign_is_read :
    parse "UTC+-5" = .ok (some (.fixed (-18000))) ∧ (∀ n, ¬Writes Digits ['+', '-', '5'] n) ∧
      parse "UTC+-20" = .ok (some (.fixed (-72000))) ∧
      14 * 3600 + 59 * 60 < (-72000 : Int).natAbs ∧
      parse "UTC+-2147483648" = .error .overflow := by
  refine ⟨by decide, fun n h => ?_, by decide +kernel, by decide, by decide +kernel⟩
  exact (writes_digits_iff.1 h).2.2 List.mem_cons_self

end Reckoner.Zone
