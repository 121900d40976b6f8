import Reckoner.Evaluate

/-!
# Outcomes of checked computations

What can be said of a computation that may fail without looking at the
session: `Yields care offset P c` holds if `c` gives a value with the property
`P`, or else an error at `offset`.

`Care` says how closely units are looked at.  With `care.units` quantities are
well formed, with `care.known` besides that no unit is ever unknown.  The
lemmas on each operation are stated for any care, so that a proof which does
not look at units at all uses the same ones.

* `Yields.bind` follows a computation step by step.
* The remaining lemmas are about the operations that everything else is built
  of: failing, the kinds of values, whole numbers, shifts of dates.
-/

namespace Reckoner

/-- Whether a cause is a unit that stands for nothing. -/
def Cause.isUnknownUnit : Cause → Bool
  | .typing (.unknownUnit _) => true
  | _ => false

/-- Whether a cause is that calls nest too deep. -/
def Cause.isCallDepth : Cause → Bool
  | .callDepth _ => true
  | _ => false

/-- Whether a cause is none that an operation on values has of its own. -/
def Cause.isForeign (cause : Cause) : Bool := cause.isUnknownUnit || cause.isCallDepth

theorem Cause.isForeign_eq_false_iff {cause : Cause} :
    cause.isForeign = false ↔ cause.isUnknownUnit = false ∧ cause.isCallDepth = false :=
  Bool.or_eq_false_iff

/-- How closely units are looked at. -/
structure Care where
  /-- Quantities are well formed. -/
  units : Prop
  /-- Units are never unknown. -/
  known : Prop
  units_of_known : known → units

/-- An error that an operation at `offset` may have. -/
structure Raised (care : Care) (offset : Nat) (e : Error) : Prop where
  offset_eq : e.offset = offset
  known : care.known → e.cause.isUnknownUnit = false
  shallow : e.cause.isCallDepth = false

/-- A value with `P`, or an error at `offset`. -/
inductive Yields {α : Type} (care : Care) (offset : Nat) (P : α → Prop) : Checked α → Prop where
  | ok {x : α} (h : P x) : Yields care offset P (.ok x)
  | error {e : Error} (h : Raised care offset e) : Yields care offset P (.error e)

section

variable {α β : Type} {care : Care} {offset : Nat} {P P' : α → Prop} {Q : β → Prop}

theorem yields_ok {x : α} (h : P x) : Yields care offset P (.ok x) := .ok h

theorem yields_pure {x : α} (h : P x) : Yields care offset P (pure x) := .ok h

theorem yields_failAt {cause : Cause} (h : cause.isForeign = false) :
    Yields care offset P (failAt offset cause) := by
  obtain ⟨hunit, hdepth⟩ := Cause.isForeign_eq_false_iff.1 h
  exact .error ⟨rfl, fun _ => hunit, hdepth⟩

theorem yields_orFail {cause : Cause} {x? : Option α} (h : cause.isForeign = false)
    (hP : ∀ x, x? = some x → P x) : Yields care offset P (orFail offset cause x?) := by
  cases x? with
  | none => exact yields_failAt h
  | some x => exact yields_ok (hP x rfl)

theorem yields_orOverflow {x? : Option Decimal} :
    Yields care offset (fun _ => True) (orOverflow offset x?) :=
  yields_orFail rfl fun _ _ => trivial

theorem Yields.bind {c : Checked α} {f : α → Checked β} (hc : Yields care offset P c)
    (hf : ∀ x, P x → Yields care offset Q (f x)) : Yields care offset Q (c >>= f) := by
  cases hc with
  | ok hx => exact hf _ hx
  | error he => exact .error he

theorem Yields.imp {c : Checked α} (hc : Yields care offset P c) (h : ∀ x, P x → P' x) :
    Yields care offset P' c := by
  cases hc with
  | ok hx => exact .ok (h _ hx)
  | error he => exact .error he

theorem Yields.ok_of_eq {c : Checked α} {x : α} (hc : Yields care offset P c) (h : c = .ok x) :
    P x := by
  subst h
  cases hc with
  | ok hx => exact hx

/-- Computations one after the other give a result only if each of them does. -/
theorem ok_bind_eq_ok {c : Checked α} {f : α → Checked β} {y : β} (h : (c >>= f) = .ok y) :
    ∃ x, c = .ok x ∧ f x = .ok y := by
  cases c with
  | error e => cases h
  | ok x => exact ⟨x, rfl, h⟩

/-- The results of a list of computations have what each of them has. -/
theorem yields_mapM {f : α → Checked β} {xs : List α}
    (hf : ∀ x ∈ xs, Yields care offset Q (f x)) :
    Yields care offset (fun ys => ∀ y ∈ ys, Q y) (xs.mapM f) := by
  induction xs with
  | nil => exact yields_pure (by simp)
  | cons x xs ih =>
    rw [List.mapM_cons]
    refine (hf x (by simp)).bind fun y hy => ?_
    refine (ih fun x' hx' => hf x' (by simp [hx'])).bind fun ys hys => yields_pure ?_
    intro z hz
    rcases List.mem_cons.1 hz with rfl | hz
    · exact hy
    · exact hys z hz

/-- A fold keeps what each of its steps keeps. -/
theorem yields_foldlM {f : β → α → Checked β} {xs : List α} {y : β}
    (hf : ∀ y x, x ∈ xs → Q y → Yields care offset Q (f y x)) (hy : Q y) :
    Yields care offset Q (xs.foldlM f y) := by
  induction xs generalizing y with
  | nil => exact yields_pure hy
  | cons x xs ih =>
    rw [List.foldlM_cons]
    refine (hf y x (by simp) hy).bind fun y' hy' => ?_
    exact ih (fun z x' hx' hz => hf z x' (by simp [hx']) hz) hy'

end

/-! ## Kinds of values -/

section

variable {care : Care} {offset : Nat}

theorem yields_wrongKind {α : Type} {P : α → Prop} (v : Value) (wanted : String) :
    Yields care offset P (v.wrongKind wanted offset) := yields_failAt rfl

theorem yields_asNumber (v : Value) :
    Yields care offset (fun x => v = .number x) (v.asNumber offset) := by
  unfold Value.asNumber
  split
  · exact yields_ok rfl
  · exact yields_wrongKind _ _

theorem yields_asMagnitude (v : Value) :
    Yields care offset (fun _ => True) (v.asMagnitude offset) := by
  unfold Value.asMagnitude
  split
  · exact yields_ok trivial
  · exact yields_ok trivial
  · exact yields_wrongKind _ _

theorem yields_asString (v : Value) :
    Yields care offset (fun t => v = .string t) (v.asString offset) := by
  unfold Value.asString
  split
  · exact yields_ok rfl
  · exact yields_wrongKind _ _

theorem yields_asArray (v : Value) :
    Yields care offset (fun c => v = .array c) (v.asArray offset) := by
  unfold Value.asArray
  split
  · exact yields_ok rfl
  · exact yields_wrongKind _ _

theorem yields_asObject (v : Value) :
    Yields care offset (fun c => v = .object c) (v.asObject offset) := by
  unfold Value.asObject
  split
  · exact yields_ok rfl
  · exact yields_wrongKind _ _

theorem yields_asDate (v : Value) :
    Yields care offset (fun d => v = .date d) (v.asDate offset) := by
  unfold Value.asDate
  split
  · exact yields_ok rfl
  · exact yields_wrongKind _ _

theorem yields_asCallable (v : Value) :
    Yields care offset (fun f => f = v) (v.asCallable offset) := by
  rw [Value.asCallable]
  split
  · exact yields_ok rfl
  · exact yields_wrongKind _ _

theorem yields_asKey (v : Value) : Yields care offset (fun _ => True) (v.asKey offset) := by
  unfold Value.asKey
  split
  · exact yields_ok trivial
  · exact yields_ok trivial
  · exact yields_wrongKind _ _

/-! ## Whole numbers -/

theorem yields_toInteger (x : Decimal) :
    Yields care offset (fun _ => True) (x.toInteger offset) := by
  rw [Decimal.toInteger]
  split
  · exact yields_failAt rfl
  · exact yields_orFail rfl fun _ _ => trivial

theorem yields_toCount (x : Decimal) :
    Yields care offset (fun _ => True) (x.toCount offset) := by
  refine (yields_toInteger x).bind fun n _ => ?_
  split
  · exact yields_failAt rfl
  · exact yields_pure trivial

/-! ## Dates -/

theorem yields_inZoneNamed (d : Date) (name : String) :
    Yields care offset (fun _ => True) (d.inZoneNamed name offset) := by
  unfold Date.inZoneNamed
  split
  · exact yields_pure trivial
  · exact yields_failAt rfl

theorem yields_atWall (d : Date) (wall : Option Wall) :
    Yields care offset (fun _ => True) (d.atWall wall offset) := by
  unfold Date.atWall
  split
  · exact yields_pure trivial
  · exact yields_failAt rfl

theorem yields_shiftDuration (d : Date) (amount : Decimal) (unit : CalendarUnit) :
    Yields care offset (fun _ => True) (d.shiftDuration amount unit offset) := by
  have hmillis : Yields care offset (fun _ => True) (Date.durationMillis amount unit offset) := by
    refine (yields_orFail (P := fun _ => True) rfl fun _ _ => trivial).bind fun _ _ => ?_
    refine (yields_orFail (P := fun _ => True) rfl fun _ _ => trivial).bind fun _ _ => ?_
    exact yields_toInteger _
  refine hmillis.bind fun _ _ => ?_
  exact (yields_orFail (P := fun _ => True) rfl fun _ _ => trivial).bind fun _ _ =>
    yields_pure trivial

theorem yields_shift (d : Date) (amount : Decimal) (unit : CalendarUnit) :
    Yields care offset (fun _ => True) (d.shift amount unit offset) := by
  have hdays (size : Int) : Yields care offset (fun _ => True) (d.shiftDays amount size offset) :=
    (yields_toInteger _).bind fun _ _ => yields_atWall _ _
  have hmonths (size : Int) :
      Yields care offset (fun _ => True) (d.shiftMonths amount size offset) :=
    (yields_toInteger _).bind fun _ _ => yields_atWall _ _
  cases unit with
  | second => exact yields_shiftDuration d amount .second
  | minute => exact yields_shiftDuration d amount .minute
  | hour => exact yields_shiftDuration d amount .hour
  | day =>
    simp only [Date.shift]
    split
    · exact hdays 1
    · exact yields_shiftDuration d amount .day
  | week =>
    simp only [Date.shift]
    split
    · exact hdays 7
    · exact yields_shiftDuration d amount .week
  | month =>
    simp only [Date.shift]
    split
    · exact hmonths 1
    · exact yields_failAt rfl
  | year =>
    simp only [Date.shift]
    split
    · exact hmonths 12
    · exact yields_failAt rfl

theorem yields_ofSeconds (seconds : Decimal) (zone : Zone) {failure : Cause}
    (h : failure.isForeign = false) :
    Yields care offset (fun _ => True) (Date.ofSeconds seconds zone failure offset) := by
  refine (yields_orFail (P := fun _ => True) h fun _ _ => trivial).bind fun _ _ => ?_
  refine (yields_toInteger _).bind fun _ _ => ?_
  exact (yields_orFail (P := fun _ => True) h fun _ _ => trivial).bind fun _ _ =>
    yields_pure trivial

end

end Reckoner
