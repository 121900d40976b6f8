import Reckoner.Quantity.Basic

/-!
# What conversions fail by

Units that fit together can still fail to convert, but for few causes: a
spelling that stands for nothing, a rate that is missing or zero, and a result
without room.

* `FailsBy` is about computations whose errors all have a cause of one kind,
  with a rule for each way to put such computations together.
* `Quantity.failsBy_convertTo` and `Quantity.failsBy_targetDims` are the two
  conversions that the rest is made of.
-/

namespace Reckoner

/-- Whether units that fit together can fail to convert for a cause. -/
def Cause.isConversion : Cause → Bool
  | .typing (.unknownUnit _) | .missingRate _ | .domain .overflow | .domain (.zeroRate _) => true
  | _ => false

variable {rates : RateTable} {offset : Nat}

section

variable {α β : Type} {kind : Cause → Bool} {c : Checked α}

/-- Every error of a computation has a cause of some kind. -/
def FailsBy (kind : Cause → Bool) (c : Checked α) : Prop := ∀ e, c = .error e → kind e.cause = true

theorem failsBy_pure (x : α) : FailsBy kind (pure x : Checked α) := fun _ h => nomatch h

theorem failsBy_failAt {cause : Cause} (h : kind cause = true) :
    FailsBy kind (failAt offset cause : Checked α) := by
  intro e he
  cases he
  exact h

theorem failsBy_orFail {cause : Cause} (h : kind cause = true) (x? : Option α) :
    FailsBy kind (orFail offset cause x?) := by
  cases x? with
  | none => exact failsBy_failAt h
  | some x => exact failsBy_pure x

theorem FailsBy.bind {f : α → Checked β} (hc : FailsBy kind c) (hf : ∀ x, FailsBy kind (f x)) :
    FailsBy kind (c >>= f) := by
  intro e he
  cases c with
  | error e' =>
    cases he
    exact hc _ rfl
  | ok x => exact hf x e he

theorem failsBy_foldlM {f : β → α → Checked β} (hf : ∀ y x, FailsBy kind (f y x)) (xs : List α)
    (y : β) : FailsBy kind (xs.foldlM f y) := by
  induction xs generalizing y with
  | nil => exact failsBy_pure y
  | cons x xs ih =>
    rw [List.foldlM_cons]
    exact (hf y x).bind ih

theorem failsBy_mapM {f : α → Checked β} (hf : ∀ x, FailsBy kind (f x)) (xs : List α) :
    FailsBy kind (xs.mapM f) := by
  induction xs with
  | nil => exact failsBy_pure _
  | cons x xs ih =>
    rw [List.mapM_cons]
    exact (hf x).bind fun y => ih.bind fun ys => failsBy_pure _

end

/-! ## Factors -/

theorem failsBy_orOverflow (x? : Option Decimal) :
    FailsBy Cause.isConversion (orOverflow offset x?) := failsBy_orFail rfl x?

theorem failsBy_ofName (name : String) :
    FailsBy Cause.isConversion (Denomination.ofName name offset) := failsBy_orFail rfl _

theorem failsBy_rate (code : String) : FailsBy Cause.isConversion (rates.rate code offset) :=
  failsBy_orFail rfl _

theorem failsBy_baseFactor (d : Denomination) :
    FailsBy Cause.isConversion (baseFactor d rates offset) := by
  cases d with
  | unit u =>
    rw [baseFactor]
    split
    · split
      · exact failsBy_orOverflow _
      · exact failsBy_pure _
    · exact failsBy_pure _
  | currency code =>
    refine (failsBy_rate code).bind fun rate => ?_
    split
    · exact failsBy_failAt rfl
    · exact failsBy_orOverflow _

theorem failsBy_ratio (s t : Denomination) :
    FailsBy Cause.isConversion (ratio s t rates offset) := by
  rw [ratio.eq_def]
  split
  · exact failsBy_pure _
  · split
    · refine (failsBy_rate _).bind fun rateA => ?_
      refine (failsBy_rate _).bind fun rateB => ?_
      split
      · exact failsBy_failAt rfl
      · exact failsBy_orOverflow _
    · refine (failsBy_baseFactor s).bind fun _ => ?_
      exact (failsBy_baseFactor t).bind fun _ => failsBy_orOverflow _

namespace Quantity

variable {q : Quantity} {target : Dimensions}

theorem failsBy_powFactor (x : Decimal) (n : Int) :
    FailsBy Cause.isConversion (powFactor x n offset) := by
  rw [powFactor]
  split
  · exact failsBy_pure _
  · exact failsBy_orOverflow _

/-! ## Conversions -/

theorem failsBy_convertMagnitude (q : Quantity) (target : Dimensions) :
    FailsBy Cause.isConversion (q.convertMagnitude target rates offset) := by
  refine failsBy_foldlM (fun x t => ?_) _ _
  split
  · exact failsBy_pure _
  · refine (failsBy_ofName _).bind fun s => ?_
    refine (failsBy_ofName _).bind fun t' => ?_
    refine (failsBy_ratio s t').bind fun factor => ?_
    exact (failsBy_powFactor factor _).bind fun _ => failsBy_orOverflow _

theorem failsBy_convertTo (h : q.dims.compatible target = true) :
    FailsBy Cause.isConversion (q.convertTo target rates offset) := by
  rw [convertTo, if_neg (by simp [h])]
  split
  · exact (failsBy_orOverflow _).bind fun _ => failsBy_pure _
  · exact (failsBy_convertMagnitude q target).bind fun _ => failsBy_pure _

theorem failsBy_plus (q : Quantity) (delta : Decimal) :
    FailsBy Cause.isConversion (q.plus delta offset) :=
  (failsBy_orOverflow _).bind fun _ => failsBy_pure _

/-- Units of one category are merged by a conversion. -/
theorem failsBy_absorb (q : Quantity) (d : Denomination) (spelling : String) (exponent : Int) :
    FailsBy Cause.isConversion (q.absorb d spelling exponent rates offset) := by
  rw [absorb]
  split
  · refine (failsBy_ofName _).bind fun target => ?_
    refine (failsBy_ratio d target).bind fun factor => ?_
    refine (failsBy_powFactor factor exponent).bind fun factor => ?_
    exact (failsBy_orOverflow _).bind fun _ => failsBy_pure _
  · split <;> exact failsBy_pure _

theorem failsBy_targetDims (terms : List UnitTerm) :
    FailsBy Cause.isConversion (targetDims terms rates offset) := by
  refine FailsBy.bind (failsBy_foldlM (fun q t => ?_) _ _) fun _ => failsBy_pure _
  exact (failsBy_ofName t.unit).bind fun d => failsBy_absorb q d t.unit t.exponent

end Quantity

end Reckoner
