import Reckoner.Evaluate

/-!
# Offsets are only reported

Operators are given an offset for the error that they may have.  At another
offset a sum or a difference comes to the same, up to the offset of that error
(`sameEnd_binary`).  `SameCause` and `SameEnd` say so of a checked computation and
of one on a session.
-/

namespace Reckoner

/-- Two results that differ at most in the offset of an error. -/
inductive SameCause {α : Type} : Checked α → Checked α → Prop where
  | ok (x : α) : SameCause (.ok x) (.ok x)
  | error (cause : Cause) (offset offset' : Nat) :
    SameCause (.error { cause, offset }) (.error { cause, offset := offset' })

/-- What an evaluation stops with, up to an offset. -/
inductive SameStop : Stop → Stop → Prop where
  | fault (cause : Cause) (offset offset' : Nat) :
    SameStop (.fault { cause, offset }) (.fault { cause, offset := offset' })
  | exhausted : SameStop .exhausted .exhausted

/-- Two evaluations that end with the same value in the same session, or stop in the
same session with errors that differ at most in their offset. -/
inductive SameEnd {α : Type} :
    EStateM.Result Stop Session α → EStateM.Result Stop Session α → Prop where
  | ok (x : α) (t : Session) : SameEnd (.ok x t) (.ok x t)
  | error {stop stop' : Stop} (h : SameStop stop stop') (t : Session) :
    SameEnd (.error stop t) (.error stop' t)

section

variable {α β : Type} {c c' : Checked α} {o o' : Nat}

theorem sameStop_refl (stop : Stop) : SameStop stop stop := by
  cases stop with
  | fault e => exact .fault e.cause e.offset e.offset
  | exhausted => exact .exhausted

theorem sameEnd_refl (r : EStateM.Result Stop Session α) : SameEnd r r := by
  cases r with
  | ok x t => exact .ok x t
  | error stop t => exact .error (sameStop_refl stop) t

theorem sameCause_failAt (cause : Cause) :
    SameCause (failAt o cause : Checked α) (failAt o' cause) :=
  .error cause o o'

theorem sameCause_orFail (cause : Cause) (x? : Option α) :
    SameCause (orFail o cause x?) (orFail o' cause x?) := by
  cases x? with
  | some x => exact .ok x
  | none => exact sameCause_failAt cause

theorem SameCause.bind {f f' : α → Checked β} (hc : SameCause c c')
    (hf : ∀ x, SameCause (f x) (f' x)) : SameCause (c >>= f) (c' >>= f') := by
  cases hc with
  | ok x => exact hf x
  | error cause o o' => exact .error cause o o'

theorem sameCause_foldlM {f f' : β → α → Checked β} (hf : ∀ y x, SameCause (f y x) (f' y x))
    (xs : List α) (y : β) : SameCause (xs.foldlM f y) (xs.foldlM f' y) := by
  induction xs generalizing y with
  | nil => exact .ok y
  | cons x xs ih =>
    rw [List.foldlM_cons, List.foldlM_cons]
    exact (hf y x).bind ih

/-- A checked computation on a session. -/
theorem SameCause.lift (hc : SameCause c c') (s : Session) :
    SameEnd ((liftM c : EvalM α) s) ((liftM c' : EvalM α) s) := by
  cases hc with
  | ok x => exact .ok x s
  | error cause o o' => exact .error (.fault cause o o') s

theorem SameEnd.bind {m m' : EvalM α} {s : Session} (h : SameEnd (m s) (m' s))
    (f : α → EvalM β) : SameEnd ((m >>= f) s) ((m' >>= f) s) := by
  show SameEnd (EStateM.bind m f s) (EStateM.bind m' f s)
  unfold EStateM.bind
  generalize m s = r at h
  generalize m' s = r' at h
  cases h with
  | ok x t => exact sameEnd_refl _
  | error h t => exact .error h t

end

/-! ## Units -/

variable {o o' : Nat} {rates : RateTable}

theorem sameCause_ratio (source target : Denomination) :
    SameCause (ratio source target rates o) (ratio source target rates o') := by
  have hrate (code : String) : SameCause (rates.rate code o) (rates.rate code o') :=
    sameCause_orFail _ _
  have hfactor (d : Denomination) : SameCause (baseFactor d rates o) (baseFactor d rates o') := by
    cases d with
    | unit u =>
      simp only [baseFactor]
      split
      · split
        · exact sameCause_orFail _ _
        · exact .ok _
      · exact .ok _
    | currency code =>
      refine (hrate code).bind fun rate => ?_
      split
      · exact sameCause_failAt _
      · exact sameCause_orFail _ _
  unfold ratio
  split
  · exact .ok _
  · split
    · refine (hrate _).bind fun a => (hrate _).bind fun b => ?_
      split
      · exact sameCause_failAt _
      · exact sameCause_orFail _ _
    · exact (hfactor _).bind fun _ => (hfactor _).bind fun _ => sameCause_orFail _ _

namespace Quantity

theorem sameCause_powFactor (x : Decimal) (n : Int) :
    SameCause (powFactor x n o) (powFactor x n o') := by
  unfold powFactor
  split
  · exact .ok _
  · exact sameCause_orFail _ _

theorem sameCause_absorb (q : Quantity) (d : Denomination) (spelling : String) (exponent : Int) :
    SameCause (q.absorb d spelling exponent rates o) (q.absorb d spelling exponent rates o') := by
  unfold absorb
  split
  · refine (sameCause_orFail _ _).bind fun _ => (sameCause_ratio _ _).bind fun _ => ?_
    exact (sameCause_powFactor _ _).bind fun _ => (sameCause_orFail _ _).bind fun _ => .ok _
  · split
    · exact .ok _
    · exact .ok _

theorem sameCause_ofTerms (x : Decimal) (terms : List UnitTerm) :
    SameCause (ofTerms x terms rates o) (ofTerms x terms rates o') := by
  refine sameCause_foldlM (fun q t => ?_) terms _
  exact (sameCause_orFail _ _).bind fun d => sameCause_absorb q d t.unit t.exponent

theorem sameCause_convertLinear (q : Quantity) (target : Dimensions) :
    SameCause (q.convertLinear target rates o) (q.convertLinear target rates o') := by
  have hconvert : SameCause (q.convertMagnitude target rates o)
      (q.convertMagnitude target rates o') := by
    refine sameCause_foldlM (fun x t => ?_) _ _
    split
    · exact .ok _
    · refine (sameCause_orFail _ _).bind fun _ => (sameCause_orFail _ _).bind fun _ => ?_
      refine (sameCause_ratio _ _).bind fun _ => (sameCause_powFactor _ _).bind fun _ => ?_
      exact sameCause_orFail _ _
  unfold convertLinear
  split
  · exact sameCause_failAt _
  · exact hconvert.bind fun _ => .ok _

theorem sameCause_plus (q : Quantity) (delta : Decimal) :
    SameCause (q.plus delta o) (q.plus delta o') :=
  (sameCause_orFail _ _).bind fun _ => .ok _

theorem sameCause_add (p q : Quantity) : SameCause (p.add q rates o) (p.add q rates o') :=
  (sameCause_convertLinear q p.dims).bind fun _ => sameCause_plus _ _

theorem sameCause_sub (p q : Quantity) : SameCause (p.sub q rates o) (p.sub q rates o') :=
  (sameCause_convertLinear q p.dims).bind fun _ => sameCause_plus _ _

end Quantity

/-! ## Dates -/

theorem sameCause_toInteger (x : Decimal) : SameCause (x.toInteger o) (x.toInteger o') := by
  unfold Decimal.toInteger
  split
  · exact sameCause_failAt _
  · exact sameCause_orFail _ _

theorem sameCause_shift (d : Date) (amount : Decimal) (unit : CalendarUnit) :
    SameCause (d.shift amount unit o) (d.shift amount unit o') := by
  have hwall (wall : Option Wall) : SameCause (d.atWall wall o) (d.atWall wall o') := by
    unfold Date.atWall
    split
    · exact .ok _
    · exact sameCause_failAt _
  have hmillis (unit : CalendarUnit) : SameCause (Date.durationMillis amount unit o)
      (Date.durationMillis amount unit o') :=
    (sameCause_orFail _ _).bind fun _ => (sameCause_orFail _ _).bind fun _ => sameCause_toInteger _
  have hduration (unit : CalendarUnit) : SameCause (d.shiftDuration amount unit o)
      (d.shiftDuration amount unit o') :=
    (hmillis unit).bind fun _ => (sameCause_orFail _ _).bind fun _ => .ok _
  have hdays (size : Int) : SameCause (d.shiftDays amount size o) (d.shiftDays amount size o') :=
    (sameCause_toInteger _).bind fun _ => hwall _
  have hmonths (size : Int) :
      SameCause (d.shiftMonths amount size o) (d.shiftMonths amount size o') :=
    (sameCause_toInteger _).bind fun _ => hwall _
  cases unit with
  | second | minute | hour => exact hduration _
  | day =>
    simp only [Date.shift]
    split
    · exact hdays 1
    · exact hduration _
  | week =>
    simp only [Date.shift]
    split
    · exact hdays 7
    · exact hduration _
  | month =>
    simp only [Date.shift]
    split
    · exact hmonths 1
    · exact sameCause_failAt _
  | year =>
    simp only [Date.shift]
    split
    · exact hmonths 12
    · exact sameCause_failAt _

namespace Eval

/-! ## Sums and differences -/

variable {ctx : Context}

theorem sameCause_mismatch {α : Type} (op : BinaryOp) (left right : Value) :
    SameCause (mismatch op left right o : Checked α) (mismatch op left right o') :=
  sameCause_failAt _

theorem sameCause_numberOr (x? : Option Decimal) : SameCause (numberOr o x?) (numberOr o' x?) :=
  (sameCause_orFail _ _).bind fun _ => .ok _

theorem sameCause_shiftDate (d : Date) (q : Quantity) (back : Bool) :
    SameCause (shiftDate d q back o) (shiftDate d q back o') := by
  unfold shiftDate
  split
  · exact sameCause_failAt _
  · exact (sameCause_shift _ _ _).bind fun _ => .ok _

theorem sameCause_sub (left right : Value) :
    SameCause (sub ctx left right o) (sub ctx left right o') := by
  unfold sub
  split
  · exact sameCause_numberOr _
  · exact (Quantity.sameCause_sub _ _).bind fun _ => .ok _
  · exact (Quantity.sameCause_plus _ _).bind fun _ => .ok _
  · exact (Quantity.sameCause_plus _ _).bind fun _ => .ok _
  · exact sameCause_shiftDate _ _ _
  · exact (Quantity.sameCause_ofTerms _ _).bind fun _ => .ok _
  · exact sameCause_mismatch _ _ _

theorem sameEnd_add (left right : Value) (s : Session) :
    SameEnd (add ctx left right o s) (add ctx left right o' s) := by
  unfold add
  split
  · exact (sameCause_numberOr _).lift s
  · exact ((Quantity.sameCause_add _ _).lift s).bind _
  · exact ((Quantity.sameCause_plus _ _).lift s).bind _
  · exact ((Quantity.sameCause_plus _ _).lift s).bind _
  · exact (sameCause_shiftDate _ _ _).lift s
  · exact (sameCause_shiftDate _ _ _).lift s
  · exact sameEnd_refl _
  · exact sameEnd_refl _
  · exact sameEnd_refl _
  · exact (sameCause_mismatch _ _ _).lift s

/-- A sum or a difference at another offset. -/
theorem sameEnd_binary {op : BinaryOp} (hop : op = .add ∨ op = .sub) (left right : Value)
    (s : Session) :
    SameEnd (binary ctx op left right o s) (binary ctx op left right o' s) := by
  rcases hop with rfl | rfl
  · exact sameEnd_add left right s
  · exact (sameCause_sub left right).lift s

end Eval

end Reckoner
