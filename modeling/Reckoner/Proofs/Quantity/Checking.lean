import Reckoner.Eval.Arithmetic
import Reckoner.Eval.Compare
import Reckoner.Proofs.Quantity.Causes
import Reckoner.Proofs.Quantity.Exponents
import Reckoner.Proofs.Quantity.Standing

/-!
# The check of dimensions

Sums, differences, remainders, comparisons and conversions of quantities refuse
units that do not fit together.  They do so exactly if some category has
different powers in the two operands, whatever the spellings, the magnitudes
and the rates are, and before anything else can go wrong.

* `Dimensions.compatible_iff_exponent` is what the check decides.
* `NeverRefuses` is about computations that come after the check: none of their
  errors is about units that do not fit.  `refuses_bind_iff` says that such a
  computation changes nothing.
* `refuses_iff_differ` is the statement for all operations.
-/

namespace Reckoner

variable {rates : RateTable} {offset : Nat}

namespace Dimensions

variable {d e : Dimensions}

/-- Some category has different powers. -/
def Differ (d e : Dimensions) : Prop := ∃ c, d.exponent c ≠ e.exponent c

theorem mem_categories_iff (hd : d.WellFormed) (c : Category) :
    c ∈ d.terms.map Term.category ↔ d.exponent c ≠ 0 := by
  rw [ne_eq, exponent_eq_zero_iff hd, find?, List.find?_eq_none, List.mem_map]
  simp

/-- The check goes through the terms of one side only, but as many terms stand on the other one. -/
theorem compatible_iff_exponent (hd : d.WellFormed) (he : e.WellFormed) :
    d.compatible e = true ↔ ∀ c, d.exponent c = e.exponent c := by
  constructor
  · intro h c
    cases hfind : d.find? c with
    | some t =>
      obtain ⟨ht, hcategory⟩ := mem_find? hfind
      obtain ⟨u, hu, hexponent⟩ := (compatible_iff.1 h).2 t ht
      rw [hcategory] at hu
      rw [exponent, exponent, hfind, hu]
      exact hexponent.symm
    | none =>
      rw [(exponent_eq_zero_iff hd c).2 hfind]
      refine ((exponent_eq_zero_iff he c).2 ?_).symm
      cases hgoal : e.find? c with
      | none => rfl
      | some u =>
        obtain ⟨hu, hcategory⟩ := mem_find? hgoal
        obtain ⟨t, ht, -⟩ := (compatible_iff.1 (hd.compatible_symm h)).2 u hu
        rw [hcategory, hfind] at ht
        cases ht
  · intro h
    have hperm : (d.terms.map Term.category).Perm (e.terms.map Term.category) := by
      refine (List.perm_ext_iff_of_nodup hd.distinct he.distinct).2 fun c => ?_
      rw [mem_categories_iff hd, mem_categories_iff he, h c]
    refine compatible_iff.2 ⟨by simpa using hperm.length_eq, fun t ht => ?_⟩
    obtain ⟨u, hu, hcategory⟩ :=
      List.mem_map.1 (hperm.mem_iff.1 (List.mem_map_of_mem (f := Term.category) ht))
    have hexponent := h t.category
    rw [exponent, hd.find?_of_mem ht, ← hcategory, exponent, he.find?_of_mem hu] at hexponent
    exact ⟨u, hcategory ▸ he.find?_of_mem hu, hexponent.symm⟩

theorem differ_iff (hd : d.WellFormed) (he : e.WellFormed) :
    d.Differ e ↔ d.compatible e = false := by
  rw [Differ, ← not_forall, ← compatible_iff_exponent hd he, Bool.not_eq_true]

theorem Differ.symm (h : d.Differ e) : e.Differ d := by
  obtain ⟨c, hc⟩ := h
  exact ⟨c, hc.symm⟩

end Dimensions

/-! ## Errors about units that do not fit -/

/-- Whether a cause is units that do not fit together. -/
def Cause.isIncompatible : Cause → Bool
  | .incompatibleUnits _ _ => true
  | _ => false

section

variable {α β : Type} {c : Checked α}

/-- A computation fails because units do not fit together. -/
def Refuses (offset : Nat) (c : Checked α) : Prop :=
  ∃ left right, c = .error { cause := .incompatibleUnits left right, offset }

/-- A computation fails for other reasons only. -/
def NeverRefuses (c : Checked α) : Prop := ∀ e, c = .error e → e.cause.isIncompatible = false

theorem NeverRefuses.not_refuses (hc : NeverRefuses c) : ¬Refuses offset c := by
  rintro ⟨left, right, h⟩
  cases hc _ h

theorem neverRefuses_pure (x : α) : NeverRefuses (pure x : Checked α) := fun _ h => nomatch h

theorem neverRefuses_failAt {cause : Cause} (h : cause.isIncompatible = false) :
    NeverRefuses (failAt offset cause : Checked α) := by
  intro e he
  cases he
  exact h

theorem neverRefuses_orFail {cause : Cause} (h : cause.isIncompatible = false) (x? : Option α) :
    NeverRefuses (orFail offset cause x?) := by
  cases x? with
  | none => exact neverRefuses_failAt h
  | some x => exact neverRefuses_pure x

theorem neverRefuses_orOverflow (x? : Option Decimal) : NeverRefuses (orOverflow offset x?) :=
  neverRefuses_orFail rfl x?

theorem NeverRefuses.bind {f : α → Checked β} (hc : NeverRefuses c)
    (hf : ∀ x, NeverRefuses (f x)) : NeverRefuses (c >>= f) := by
  intro e he
  cases c with
  | error e' =>
    cases he
    exact hc _ rfl
  | ok x => exact hf x e he

/-- The units of a conversion fit together already. -/
theorem FailsBy.neverRefuses (hc : FailsBy Cause.isConversion c) : NeverRefuses c := by
  intro e he
  have hcause := hc e he
  revert hcause
  cases e.cause <;> simp [Cause.isConversion, Cause.isIncompatible]

/-- What comes after the check has no part in it. -/
theorem refuses_bind_iff {f : α → Checked β} (hf : ∀ x, NeverRefuses (f x)) :
    Refuses offset (c >>= f) ↔ Refuses offset c := by
  cases c with
  | error e => exact ⟨fun ⟨left, right, h⟩ => ⟨left, right, by cases h; rfl⟩,
      fun ⟨left, right, h⟩ => ⟨left, right, by cases h; rfl⟩⟩
  | ok x => exact iff_of_false (hf x).not_refuses (by rintro ⟨_, _, h⟩; cases h)

end

/-! ## Conversions -/

namespace Quantity

variable {a b q : Quantity} {target : Dimensions}

theorem neverRefuses_convertMagnitude (q : Quantity) (target : Dimensions) :
    NeverRefuses (q.convertMagnitude target rates offset) :=
  (failsBy_convertMagnitude q target).neverRefuses

/-- Both conversions check the dimensions first and nothing after that refuses units. -/
theorem refuses_convertTo_iff (hq : q.dims.WellFormed) (htarget : target.WellFormed) :
    Refuses offset (q.convertTo target rates offset) ↔ q.dims.Differ target := by
  rw [Dimensions.differ_iff hq htarget, convertTo]
  cases hcompatible : q.dims.compatible target with
  | false => exact iff_of_true ⟨_, _, rfl⟩ rfl
  | true =>
    refine iff_of_false (NeverRefuses.not_refuses ?_) (by simp)
    rw [if_neg (by simp)]
    split
    · exact (neverRefuses_orOverflow _).bind fun _ => neverRefuses_pure _
    · exact (neverRefuses_convertMagnitude q target).bind fun _ => neverRefuses_pure _

theorem refuses_convertLinear_iff (hq : q.dims.WellFormed) (htarget : target.WellFormed) :
    Refuses offset (q.convertLinear target rates offset) ↔ q.dims.Differ target := by
  rw [Dimensions.differ_iff hq htarget, convertLinear]
  cases hcompatible : q.dims.compatible target with
  | false => exact iff_of_true ⟨_, _, rfl⟩ rfl
  | true =>
    refine iff_of_false (NeverRefuses.not_refuses ?_) (by simp)
    rw [if_neg (by simp)]
    exact (neverRefuses_convertMagnitude q target).bind fun _ => neverRefuses_pure _

theorem neverRefuses_plus (q : Quantity) (delta : Decimal) :
    NeverRefuses (q.plus delta offset) := (failsBy_plus q delta).neverRefuses

end Quantity

/-! ## Operators -/

namespace Eval

variable {α : Type} {a b : Quantity} {s : Session}

/-- A run ends with the error that units do not fit together, the session being as it was. -/
def RefusesRun (offset : Nat) (s : Session) (run : EvalM Value) : Prop :=
  ∃ left right, run s = .error (.fault { cause := .incompatibleUnits left right, offset }) s

theorem refusesRun_liftM_iff {c : Checked Value} :
    RefusesRun offset s (liftM c) ↔ Refuses offset c := by
  constructor
  · rintro ⟨left, right, h⟩
    cases c with
    | ok x => cases h
    | error e =>
      cases h
      exact ⟨left, right, rfl⟩
  · rintro ⟨left, right, rfl⟩
    exact ⟨left, right, rfl⟩

/-- So does a run which only makes a value of the outcome. -/
theorem refusesRun_bind_iff {c : Checked α} {f : α → Value} :
    RefusesRun offset s (do let x ← c; pure (f x)) ↔ Refuses offset c := by
  have hlift : (do let x ← c; pure (f x) : EvalM Value) = liftM (do let x ← c; pure (f x)) := by
    cases c <;> rfl
  rw [hlift, refusesRun_liftM_iff, refuses_bind_iff fun x => neverRefuses_pure (f x)]

/-- Sums, differences, remainders, comparisons and conversions of well-formed quantities refuse
units exactly if some category has different powers: the operands' magnitudes and spellings and the
rates of the context have no part in it.  Quantities that differ so are unequal, without an
error. -/
theorem refuses_iff_differ (ha : a.WellFormed) (hb : b.WellFormed) (ctx : Context) (s : Session)
    (offset : Nat) :
    (∀ op ∈ [BinaryOp.add, .sub, .mod],
      RefusesRun offset s (binary ctx op (.quantity a) (.quantity b) offset) ↔
        ∃ c, a.dims.exponent c ≠ b.dims.exponent c) ∧
    (∀ op ∈ [CompareOp.less, .lessEqual, .greater, .greaterEqual],
      RefusesRun offset s (comparison ctx op (.quantity a) (.quantity b) offset) ↔
        ∃ c, a.dims.exponent c ≠ b.dims.exponent c) ∧
    (Refuses offset (a.convertTo b.dims ctx.rates offset) ↔
      ∃ c, a.dims.exponent c ≠ b.dims.exponent c) ∧
    ((∃ c, a.dims.exponent c ≠ b.dims.exponent c) →
      comparison ctx .equal (.quantity a) (.quantity b) offset s = .ok (.bool false) s) := by
  have hswap : b.dims.Differ a.dims ↔ a.dims.Differ b.dims := ⟨.symm, .symm⟩
  have hlinear : Refuses offset (b.convertLinear a.dims ctx.rates offset) ↔
      a.dims.Differ b.dims := (Quantity.refuses_convertLinear_iff hb.dims ha.dims).trans hswap
  have hcompare : Refuses offset (compareValues ctx (.quantity a) (.quantity b) offset) ↔
      a.dims.Differ b.dims := by
    rw [← hswap, ← Quantity.refuses_convertTo_iff hb.dims ha.dims]
    exact refuses_bind_iff fun _ => neverRefuses_pure _
  refine ⟨?_, ?_, Quantity.refuses_convertTo_iff ha.dims hb.dims, ?_⟩
  · intro op hop
    have hadd : Refuses offset (a.add b ctx.rates offset) ↔ a.dims.Differ b.dims :=
      (refuses_bind_iff fun _ => Quantity.neverRefuses_plus _ _).trans hlinear
    have hsub : Refuses offset (a.sub b ctx.rates offset) ↔ a.dims.Differ b.dims :=
      (refuses_bind_iff fun _ => Quantity.neverRefuses_plus _ _).trans hlinear
    have hrem : Refuses offset (a.rem b ctx.rates offset) ↔ a.dims.Differ b.dims := by
      refine (refuses_bind_iff fun r => ?_).trans hlinear
      split
      · exact neverRefuses_failAt rfl
      · exact (neverRefuses_orOverflow _).bind fun _ => neverRefuses_pure _
    rcases List.mem_cons.1 hop with rfl | hop
    · exact refusesRun_bind_iff.trans hadd
    rcases List.mem_cons.1 hop with rfl | hop
    · exact refusesRun_liftM_iff.trans ((refuses_bind_iff fun _ => neverRefuses_pure _).trans hsub)
    · obtain rfl := List.mem_singleton.1 hop
      exact refusesRun_liftM_iff.trans ((refuses_bind_iff fun _ => neverRefuses_pure _).trans hrem)
  · intro op hop
    simp only [List.mem_cons, List.not_mem_nil, or_false] at hop
    rcases hop with rfl | rfl | rfl | rfl <;> exact refusesRun_bind_iff.trans hcompare
  · intro hdiffer
    have hcompatible := (Dimensions.differ_iff ha.dims hb.dims).1 hdiffer
    have hdims : a.dims ≠ b.dims := by
      intro heq
      rw [heq, hb.dims.compatible_self] at hcompatible
      cases hcompatible
    have hsame : s.same (.quantity a) (.quantity b) = false := by
      have hvalue : s.same (.quantity a) (.quantity b) = a.sameValue b := by
        rw [Session.same]
        cases s.nesting <;> rfl
      rw [hvalue, Quantity.sameValue, decide_eq_false hdims, Bool.and_false]
    have hequals : equals ctx s (.quantity a) (.quantity b) offset = false := by
      rw [equals, if_neg (by simp [hcompatible]), hsame]
    show EStateM.Result.ok (Value.bool (equals ctx s (.quantity a) (.quantity b) offset)) s = _
    rw [hequals]

theorem refuses_iff_differ_hourly :
    let ctx := Context.ofClock ⟨0, 0⟩ (.fixed 0)
    let a := Quantity.hourly
    let b := Quantity.perLength
    a.WellFormed ∧ b.WellFormed ∧ (∃ c, a.dims.exponent c ≠ b.dims.exponent c) ∧
      RefusesRun 3 .empty (binary ctx .mod (.quantity a) (.quantity b) 3) ∧
      RefusesRun 3 .empty (comparison ctx .less (.quantity b) (.quantity a) 3) ∧
      comparison ctx .equal (.quantity a) (.quantity b) 3 .empty = .ok (.bool false) .empty ∧
      ¬RefusesRun 3 .empty (binary ctx .mod (.quantity a) (.quantity a) 3) := by
  intro ctx a b
  have ha := Quantity.hourly_wellFormed
  have hb := Quantity.perLength_wellFormed
  have hdiffer : ∃ c, a.dims.exponent c ≠ b.dims.exponent c := ⟨.length, by decide⟩
  obtain ⟨hsum, -, -, hequal⟩ := refuses_iff_differ ha hb ctx .empty 3
  obtain ⟨-, horder, -, -⟩ := refuses_iff_differ hb ha ctx .empty 3
  obtain ⟨hself, -, -, -⟩ := refuses_iff_differ ha ha ctx .empty 3
  refine ⟨ha, hb, hdiffer, (hsum .mod (by simp)).2 hdiffer,
    (horder .less (by simp)).2 (Dimensions.Differ.symm hdiffer), hequal hdiffer, ?_⟩
  rw [hself .mod (by simp)]
  rintro ⟨c, hc⟩
  exact hc rfl

end Eval

end Reckoner
