import Reckoner.Proofs.Zone.Timetable
import Reckoner.Zone.Region

/-!
# The timetables of the regions

The one look at the table of regions: all timetables in it are lawful
(`lawful_of_timetable?`).

The changes of a region are written in lines of text.  They are looked at character by
character (`Spells`): a text that stands in the table is by definition that of its characters,
so nothing has to be decoded.  And they are read in one pass (`Reading`), which comes to the
same as cutting lines into words and words into numbers (`scan_eq`).
-/

namespace Reckoner

namespace RegionEntry

open Timetable

/-! ## Changes in order -/

variable {since stop : Int} {changes : List (Int × Int)}

/-- Whether changes come in order between two seconds, and with offsets shorter than a day. -/
def standFrom (since stop : Int) : List (Int × Int) → Bool
  | [] => since < stop
  | (next, offset) :: rest => since < next && decide (IsOffset offset) && standFrom next stop rest

theorem standFrom_spec (h : standFrom since stop changes = true) :
    Ascends changes ∧ since < stop ∧ ∀ c ∈ changes, since < c.1 ∧ c.1 < stop ∧ IsOffset c.2 := by
  induction changes generalizing since with
  | nil => exact ⟨.nil, by simpa [standFrom] using h, fun c hc => absurd hc List.not_mem_nil⟩
  | cons c rest ih =>
    obtain ⟨next, offset⟩ := c
    simp only [standFrom, Bool.and_eq_true, decide_eq_true_eq] at h
    obtain ⟨⟨hsince, hoffset⟩, hrest⟩ := h
    obtain ⟨hascends, hstop, hall⟩ := ih hrest
    refine ⟨.cons (fun c hc => (hall c hc).1) hascends, by omega, fun c hc => ?_⟩
    rcases List.mem_cons.1 hc with rfl | hc
    · exact ⟨hsince, hstop, hoffset⟩
    · obtain ⟨hlow, hhigh⟩ := hall c hc
      exact ⟨by omega, hhigh⟩

/-! ## Lines read in one pass -/

/-- A number with a minus sign or without. -/
def signed (negative : Bool) (n : Nat) : Int := if negative then -(n : Int) else n

/-- How far the reading of a word has come. -/
inductive Reading where
  | start
  | time (negative : Bool) (n : Nat)
  | between (time : Int)
  | offset (time : Int) (negative : Bool) (n : Nat)

namespace Reading

/-- One character more. -/
def next : Reading → Char → Reading
  | start, c =>
    if c = ':' then between 0 else if c = '-' then time true 0 else time false (c.toNat - 48)
  | time negative n, c =>
    if c = ':' then between (signed negative n) else time negative (n * 10 + (c.toNat - 48))
  | between t, c => if c = '-' then offset t true 0 else offset t false (c.toNat - 48)
  | offset t negative n, c => offset t negative (n * 10 + (c.toNat - 48))

/-- What a word that ends here writes. -/
def change? : Reading → List (Int × Int)
  | start => []
  | time negative n => [(signed negative n, 0)]
  | between t => [(t, 0)]
  | offset t negative n => [(t, signed negative n)]

/-- The value of digits behind a number. -/
def carried (n : Nat) (cs : List Char) : Nat := cs.foldl (fun n c => n * 10 + (c.toNat - 48)) n

theorem change?_offset (t : Int) (negative : Bool) (n : Nat) (cs : List Char) :
    (cs.foldl next (offset t negative n)).change? = [(t, signed negative (carried n cs))] := by
  induction cs generalizing n with
  | nil => rfl
  | cons c cs ih => exact ih _

theorem readInt_minus (cs : List Char) : readInt ('-' :: cs) = signed true (carried 0 cs) := rfl

theorem readInt_digits {c : Char} (h : c ≠ '-') (cs : List Char) :
    readInt (c :: cs) = signed false (carried (c.toNat - 48) cs) := by
  rw [readInt]
  · rw [Text.digitsValue, List.foldl_cons, Nat.zero_mul, Nat.zero_add]
    rfl
  · intro rest hrest
    exact h (List.cons.inj hrest).1

theorem change?_between (t : Int) (cs : List Char) :
    (cs.foldl next (between t)).change? = [(t, readInt cs)] := by
  cases cs with
  | nil => rfl
  | cons c cs =>
    rw [List.foldl_cons, next]
    by_cases h : c = '-'
    · rw [if_pos h, change?_offset, h, readInt_minus]
    · rw [if_neg h, change?_offset, readInt_digits h]

theorem takeWhile_ne_colon {c : Char} (h : c ≠ ':') (cs : List Char) :
    (c :: cs).takeWhile (· ≠ ':') = c :: cs.takeWhile (· ≠ ':') :=
  List.takeWhile_cons_of_pos (decide_eq_true h)

theorem dropWhile_ne_colon {c : Char} (h : c ≠ ':') (cs : List Char) :
    (c :: cs).dropWhile (· ≠ ':') = cs.dropWhile (· ≠ ':') :=
  List.dropWhile_cons_of_pos (decide_eq_true h)

theorem change?_time (negative : Bool) (n : Nat) (cs : List Char) :
    (cs.foldl next (time negative n)).change? =
      [(signed negative (carried n (cs.takeWhile (· ≠ ':'))),
        readInt ((cs.dropWhile (· ≠ ':')).drop 1))] := by
  induction cs generalizing n with
  | nil => rfl
  | cons c cs ih =>
    rw [List.foldl_cons, next]
    by_cases h : c = ':'
    · subst h
      rw [if_pos rfl, change?_between]
      rfl
    · rw [if_neg h, ih, takeWhile_ne_colon h, dropWhile_ne_colon h]
      rfl

/-- A word that is read to its end is a change. -/
theorem change?_word {cs : List Char} (hne : cs ≠ []) :
    (cs.foldl next start).change? = [readChange cs] := by
  cases cs with
  | nil => exact absurd rfl hne
  | cons c cs =>
    rw [List.foldl_cons, next]
    by_cases hcolon : c = ':'
    · subst hcolon
      rw [if_pos rfl, change?_between]
      rfl
    · rw [if_neg hcolon, readChange, takeWhile_ne_colon hcolon, dropWhile_ne_colon hcolon]
      by_cases hminus : c = '-'
      · rw [if_pos hminus, change?_time, hminus, readInt_minus]
      · rw [if_neg hminus, change?_time, readInt_digits hminus]

/-- The changes in a line, from a word that has been begun. -/
def scan : Reading → List Char → List (Int × Int)
  | r, [] => r.change?
  | r, c :: cs => if c = ' ' then r.change? ++ scan start cs else scan (r.next c) cs

theorem readWords_blank (word cs : List Char) :
    readWords word (' ' :: cs) = (if word = [] then [] else [word.reverse]) ++ readWords [] cs := by
  cases word <;> simp [readWords]

theorem readWords_of_ne {c : Char} (h : c ≠ ' ') (word cs : List Char) :
    readWords word (c :: cs) = readWords (c :: word) cs := by
  cases word <;> simp [readWords, h]

/-- A word that has been begun is in the state after its characters, which `readWords` holds
backwards. -/
theorem scan_eq_of_word (word cs : List Char) :
    scan (word.reverse.foldl next start) cs = (readWords word cs).map readChange := by
  induction cs generalizing word with
  | nil =>
    cases word with
    | nil => rfl
    | cons c word => exact change?_word (by simp)
  | cons c cs ih =>
    rw [scan]
    by_cases h : c = ' '
    · subst h
      rw [if_pos rfl, readWords_blank, List.map_append, ← ih []]
      cases word with
      | nil => rfl
      | cons d word => exact congrArg (· ++ _) (change?_word (by simp))
    · have hword : (word.reverse.foldl next start).next c =
          (c :: word).reverse.foldl next start := by
        rw [List.reverse_cons, List.foldl_append]
        rfl
      rw [if_neg h, hword, ih, readWords_of_ne h]

theorem scan_eq (cs : List Char) : scan start cs = (readWords [] cs).map readChange :=
  scan_eq_of_word [] cs

end Reading

/-! ## Written changes -/

/-- The lines are the texts of these characters. -/
inductive Spells : List String → List (List Char) → Prop
  | nil : Spells [] []
  | cons {lines : List String} {spelled : List (List Char)} (cs : List Char)
      (h : Spells lines spelled) : Spells (String.ofList cs :: lines) (cs :: spelled)

/-- The changes that lines of characters write. -/
def changesOf (spelled : List (List Char)) : List (Int × Int) :=
  spelled.flatMap fun cs => Reading.scan .start cs

theorem Spells.readChanges {lines : List String} {spelled : List (List Char)}
    (h : Spells lines spelled) : lines.flatMap Timetable.readChanges = changesOf spelled := by
  induction h with
  | nil => rfl
  | cons cs _ ih =>
    rw [List.flatMap_cons, ih, Timetable.readChanges, String.toList_ofList, ← Reading.scan_eq]
    rfl

/-- The second behind which the written changes come. -/
def changesStart : Int := rangeStart + 2 * secondsPerDay

/-- The second before which the written changes come. -/
def changesStop : Option Recurrence → Int
  | some r => newYear r.firstYear
  | none => rangeStop - 2 * secondsPerDay

/-- Whether an entry with these lines has a lawful timetable. -/
def stands (e : RegionEntry) (spelled : List (List Char)) : Bool :=
  decide (IsOffset e.initial) && e.rule.all (fun r => decide r.Sound) &&
    standFrom changesStart (changesStop e.rule) (changesOf spelled)

/-- Behind the written changes come those by the rule, if there is one. -/
theorem lawful_of_stands {e : RegionEntry} {spelled : List (List Char)}
    (hspells : Spells e.changes spelled) (h : stands e spelled = true) : e.timetable.Lawful := by
  simp only [stands, Bool.and_eq_true, decide_eq_true_eq] at h
  obtain ⟨⟨hinitial, hsound⟩, hwritten⟩ := h
  obtain ⟨hascends, hstop, hall⟩ := standFrom_spec hwritten
  cases hrule : e.rule with
  | none =>
    have hchanges : e.timetable.changes = changesOf spelled := by
      simp only [RegionEntry.timetable, hrule, hspells.readChanges, List.append_nil]
    rw [hrule] at hall
    refine ⟨by rwa [hchanges], hinitial, fun c hc => ?_, fun c hc => ?_⟩
    · exact (hall c (hchanges ▸ hc)).2.2
    · obtain ⟨hlow, hhigh, -⟩ := hall c (hchanges ▸ hc)
      exact ⟨Int.le_of_lt hlow, by simp only [changesStop] at hhigh; omega⟩
  | some r =>
    have hchanges : e.timetable.changes = changesOf spelled ++ r.changes := by
      simp only [RegionEntry.timetable, hrule, hspells.readChanges]
    rw [hrule] at hsound hall hstop
    have hsound : r.Sound := by simpa using hsound
    obtain ⟨hrascends, hrall⟩ := Recurrence.changes_spec hsound
    have hlast : newYear (Recurrence.lastYear + 1) ≤ rangeStop - 2 * secondsPerDay := by decide
    have hfirst : changesStart < newYear r.firstYear := hstop
    have hyears : newYear r.firstYear ≤ newYear (Recurrence.lastYear + 1) :=
      newYear_mono (by have := hsound.begins; omega)
    have hbounds : ∀ c ∈ changesOf spelled ++ r.changes,
        changesStart ≤ c.1 ∧ c.1 < newYear (Recurrence.lastYear + 1) ∧ IsOffset c.2 := by
      intro c hc
      rcases List.mem_append.1 hc with hc | hc
      · obtain ⟨hlow, hhigh, hoffset⟩ := hall c hc
        exact ⟨Int.le_of_lt hlow, hhigh.trans_le hyears, hoffset⟩
      · obtain ⟨hlow, hhigh, hoffset⟩ := hrall c hc
        exact ⟨by omega, hhigh, hoffset⟩
    refine ⟨?_, hinitial, fun c hc => ?_, fun c hc => ?_⟩
    · rw [hchanges]
      refine List.pairwise_append.2 ⟨hascends, hrascends, fun x hx y hy => ?_⟩
      exact (hall x hx).2.1.trans_le (hrall y hy).1
    · exact (hbounds c (hchanges ▸ hc)).2.2
    · obtain ⟨hlow, hhigh, -⟩ := hbounds c (hchanges ▸ hc)
      exact ⟨hlow, by omega⟩

/-! ## The table -/

/-- Entries with their lines, character by character. -/
inductive SpellsAll : List RegionEntry → List (List (List Char)) → Prop
  | nil : SpellsAll [] []
  | cons {e : RegionEntry} {es : List RegionEntry} {spelled : List (List Char)}
      {all : List (List (List Char))} (h : Spells e.changes spelled) (hrest : SpellsAll es all) :
      SpellsAll (e :: es) (spelled :: all)

theorem SpellsAll.lawful {es : List RegionEntry} {all : List (List (List Char))}
    (h : SpellsAll es all) (hstands : (es.zip all).all (fun p => stands p.1 p.2) = true) :
    ∀ e ∈ es, e.timetable.Lawful := by
  induction h with
  | nil => exact fun e he => absurd he List.not_mem_nil
  | cons h _ ih =>
    rw [List.zip_cons_cons, List.all_cons, Bool.and_eq_true] at hstands
    exact List.forall_mem_cons.2 ⟨lawful_of_stands h hstands.1, ih hstands.2⟩

end RegionEntry

/-- Every line of the table is taken apart and looked at. -/
theorem lawful_of_mem_regions : ∀ e ∈ Zone.regions, e.timetable.Lawful := by
  simp only [Zone.regions, List.forall_mem_append]
  repeat' apply And.intro
  all_goals
    apply RegionEntry.SpellsAll.lawful
    case h =>
      repeat' first
        | apply RegionEntry.SpellsAll.cons
        | apply RegionEntry.Spells.cons
        | constructor
    case hstands => decide +kernel

theorem lawful_of_timetable? {name : String} {table : Timetable}
    (h : Zone.timetable? name = some table) : table.Lawful := by
  obtain ⟨e, he, rfl⟩ := Option.map_eq_some_iff.1 h
  exact lawful_of_mem_regions e (List.mem_of_find?_eq_some he)

end Reckoner
