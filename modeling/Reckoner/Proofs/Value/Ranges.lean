import Reckoner.Eval.Builtin.Call
import Reckoner.Proofs.Decimal.Division
import Reckoner.Proofs.Decimal.Order
import Reckoner.Proofs.Decimal.Whole
import Reckoner.Proofs.Outcome
import Reckoner.Proofs.Quantity.Causes
import Reckoner.Proofs.Value.Keys

/-!
# Ranges

`range` computes the number of its terms by a rounded difference and a rounded quotient, and
each term by a rounded product and a rounded sum.  This file says how far that is from the exact
terms `start + i * step` that lie before `stop`:

* `limit_lt_of_rangeLength`: rounding leads no quotient past the limit, so a range fails for its
  length only where more exact terms exist.
* `rangeLength_eq_ceil`: the length is the number of the indices below the rounded
  quotient.
* `lt_iff_of_rounded_quotient`: below the limit, a quotient of integers with a divisor of at most 22
  digits is further away from a whole number than rounding leads, or is one.  This is why numbers
  with few digits have exact ranges.
* `range_terms` puts these together, and `range_rounds` shows what rounding does to other numbers.
-/

namespace Reckoner

namespace Eval

open Decimal

/-! ## The number of terms -/

/-- A number lies strictly before another one in the direction of a step. -/
def Before (step x stop : ℚ) : Prop := if 0 < step then x < stop else stop < x

/-- The quotient counts the terms before the end. -/
theorem before_iff {d : ℚ} (hd : d ≠ 0) (a b : ℚ) (i : Nat) :
    Before d (a + i * d) b ↔ (i : ℚ) < (b - a) / d := by
  rw [Before]
  rcases lt_or_gt_of_ne hd with hneg | hpos
  · rw [if_neg (not_lt.2 hneg.le), lt_div_iff_of_neg hneg, sub_lt_iff_lt_add, add_comm]
  · rw [if_pos hpos, lt_div_iff₀ hpos, lt_sub_iff_add_lt, add_comm]

section

variable {start stop step span quotient x : Decimal} {o n : Nat}

theorem toRat_of_map_eq {y? : Option Decimal} {v : ℚ} (h : y?.map toRat = rounded? v) {y : Decimal}
    (hy : y? = some y) : rounded? v = some y.toRat := by
  rw [← h, hy]
  rfl

theorem toCount_ceil_eq_ok (h : quotient.ceil.toCount o = .ok n) : n = ⌈quotient.toRat⌉₊ := by
  obtain ⟨k, hk, hn⟩ := ok_bind_eq_ok h
  have hvalue := toRat_of_toInteger hk
  rw [toRat_ceil] at hvalue
  have hceil : ⌈quotient.toRat⌉ = k := by exact_mod_cast hvalue
  rw [← Int.ceil_toNat, hceil]
  split at hn
  · cases hn
  · cases hn
    rfl

theorem toCount_ceil (h : 0 ≤ quotient.toRat) (hlimit : ⌈quotient.toRat⌉₊ ≤ rangeLimit) :
    quotient.ceil.toCount o = .ok ⌈quotient.toRat⌉₊ := by
  have hceil : ⌈quotient.toRat⌉ = (⌈quotient.toRat⌉₊ : ℤ) := (Int.natCast_ceil_eq_ceil h).symm
  have hfits : FitsInt64 ⌈quotient.toRat⌉ := by
    rw [FitsInt64, int64Min, int64Max, hceil]
    rw [rangeLimit] at hlimit
    omega
  rw [toCount, toInteger_of_toRat (toRat_ceil quotient) hfits, hceil]
  have hnonneg : ¬(⌈quotient.toRat⌉₊ : ℤ) < 0 := by omega
  show (if (⌈quotient.toRat⌉₊ : ℤ) < 0 then failAt o (.argument (.negativeInteger ⌈quotient.toRat⌉₊))
    else .ok (⌈quotient.toRat⌉₊ : ℤ).toNat) = _
  rw [if_neg hnonneg, Int.toNat_natCast]

theorem rangeLength_eq (hspan : stop.sub? start = some span)
    (hquotient : span.div? step = some quotient) :
    rangeLength start stop step o =
      if 0 < quotient.toRat then quotient.ceil.toCount o else .ok 0 := by
  have hless : Decimal.zero.less quotient.ceil = true ↔ 0 < quotient.toRat := by
    rw [less, beq_iff_eq, compare_eq_cmp, cmp_eq_lt_iff, toRat_zero, toRat_ceil, Int.cast_pos,
      Int.ceil_pos]
  have hoption : (stop.sub? start).bind (·.div? step) = some quotient := by
    rw [hspan, Option.bind_some, hquotient]
  rw [rangeLength, hoption]
  show (if Decimal.zero.less quotient.ceil = true then quotient.ceil.toCount o else .ok 0) = _
  by_cases hpos : 0 < quotient.toRat
  · rw [if_pos hpos, if_pos (hless.2 hpos)]
  · rw [if_neg hpos, if_neg (mt hless.1 hpos)]

theorem exists_quotient_of_rangeLength (h : rangeLength start stop step o = .ok n) :
    ∃ span quotient, stop.sub? start = some span ∧ span.div? step = some quotient := by
  obtain ⟨quotient, hquotient, -⟩ := ok_bind_eq_ok h
  cases hoption : (stop.sub? start).bind (·.div? step) with
  | none =>
    rw [hoption] at hquotient
    cases hquotient
  | some quotient =>
    obtain ⟨span, hspan, hdiv⟩ := Option.bind_eq_some_iff.1 hoption
    exact ⟨span, quotient, hspan, hdiv⟩

/-- The number of terms is that of the indices below the rounded quotient. -/
theorem rangeLength_eq_ceil (h : rangeLength start stop step o = .ok n)
    (hstep : step.isZero = false) :
    ∃ span quotient, rounded? (stop.toRat - start.toRat) = some span ∧
      rounded? (span / step.toRat) = some quotient ∧ n = ⌈quotient⌉₊ := by
  obtain ⟨span, quotient, hspan, hquotient⟩ := exists_quotient_of_rangeLength h
  refine ⟨span.toRat, quotient.toRat, toRat_of_map_eq (value_sub? stop start) hspan,
    toRat_of_map_eq (value_div? hstep) hquotient, ?_⟩
  rw [rangeLength_eq hspan hquotient] at h
  split at h
  · exact toCount_ceil_eq_ok h
  · rename_i hpos
    cases h
    exact (Nat.ceil_eq_zero.2 (not_lt.1 hpos)).symm

/-! ## The terms -/

theorem value_term (start step : Decimal) {i : Nat} (hi : i < capacity) :
    ((step.mul? (.ofNat i)).bind start.add?).map toRat =
      (rounded? (i * step.toRat)).bind fun y => rounded? (start.toRat + y) := by
  have hproduct := value_mul? step (.ofNat i)
  rw [toRat_ofNat hi, mul_comm] at hproduct
  rw [← hproduct]
  cases step.mul? (.ofNat i) with
  | none => rfl
  | some y => exact value_add? start y

theorem rangeItem_eq_ok {i : Nat} (hi : i < capacity) {v : Value}
    (h : rangeItem start step o i = .ok v) :
    ∃ x y, v = .number x ∧ rounded? (i * step.toRat) = some y ∧
      rounded? (start.toRat + y) = some x.toRat := by
  have hvalue := value_term start step hi
  cases hterm : (step.mul? (.ofNat i)).bind start.add? with
  | none =>
    rw [rangeItem, hterm] at h
    cases h
  | some x =>
    rw [rangeItem, hterm] at h
    cases h
    rw [hterm, Option.map_some, eq_comm, Option.bind_eq_some_iff] at hvalue
    obtain ⟨y, hy, hx⟩ := hvalue
    exact ⟨x, y, rfl, hy, hx⟩

theorem exists_rangeItem {i : Nat} (hi : i < capacity) {y z : ℚ}
    (hy : rounded? (i * step.toRat) = some y) (hz : rounded? (start.toRat + y) = some z) :
    ∃ v, rangeItem start step o i = .ok v := by
  have hvalue := value_term start step hi
  rw [hy, Option.bind_some, hz, Option.map_eq_some_iff] at hvalue
  obtain ⟨x, hx, -⟩ := hvalue
  rw [rangeItem, hx]
  exact ⟨.number x, rfl⟩

end

/-- The results of a list of computations, one after the other. -/
theorem forall₂_of_mapM_ok {α β : Type} {f : α → Checked β} {xs : List α} {ys : List β}
    (h : xs.mapM f = .ok ys) : List.Forall₂ (fun x y => f x = .ok y) xs ys := by
  induction xs generalizing ys with
  | nil =>
    cases h
    exact .nil
  | cons x xs ih =>
    rw [List.mapM_cons] at h
    obtain ⟨y, hy, h⟩ := ok_bind_eq_ok h
    obtain ⟨zs, hzs, h⟩ := ok_bind_eq_ok h
    cases h
    exact .cons hy (ih hzs)

theorem exists_mapM_ok {α β : Type} {f : α → Checked β} {xs : List α}
    (h : ∀ x ∈ xs, ∃ y, f x = .ok y) : ∃ ys, xs.mapM f = .ok ys := by
  induction xs with
  | nil => exact ⟨[], rfl⟩
  | cons x xs ih =>
    obtain ⟨y, hy⟩ := h x List.mem_cons_self
    obtain ⟨ys, hys⟩ := ih fun x' hx' => h x' (List.mem_cons_of_mem _ hx')
    refine ⟨y :: ys, ?_⟩
    rw [List.mapM_cons, hy, hys]
    rfl

/-! ## The function -/

section

variable {ctx : Context} {call : Caller} {start stop step : Decimal} {o : Nat} {s : Session}

theorem range_run : callBuiltin ctx call .range [.number start, .number stop, .number step] o s =
    (liftM (rangeItems start stop step o) >>= newList : EvalM Value) s := rfl

theorem rangeItems_eq (hstep : step.isZero = false) : rangeItems start stop step o =
    rangeLength start stop step o >>= fun n =>
      if rangeLimit < n then failAt o (.argument (.rangeLength n rangeLimit))
      else (List.range n).mapM (rangeItem start step o) := by
  rw [rangeItems, if_neg (by simp [hstep])]

theorem rangeItems_of_length (hstep : step.isZero = false) {n : Nat}
    (hlength : rangeLength start stop step o = .ok n) (hn : n ≤ rangeLimit) :
    rangeItems start stop step o = (List.range n).mapM (rangeItem start step o) := by
  rw [rangeItems_eq hstep, hlength]
  exact if_neg (Nat.not_lt.2 hn)

theorem rangeItems_eq_ok (hstep : step.isZero = false) {vs : List Value}
    (h : rangeItems start stop step o = .ok vs) :
    ∃ n, rangeLength start stop step o = .ok n ∧ n ≤ rangeLimit ∧
      List.Forall₂ (fun i v => rangeItem start step o i = .ok v) (List.range n) vs := by
  rw [rangeItems_eq hstep] at h
  obtain ⟨n, hlength, h⟩ := ok_bind_eq_ok h
  by_cases hlimit : rangeLimit < n
  · rw [if_pos hlimit] at h
    cases h
  · rw [if_neg hlimit] at h
    exact ⟨n, hlength, Nat.le_of_not_lt hlimit, forall₂_of_mapM_ok h⟩

theorem range_eq_ok {v : Value} {t : Session}
    (h : callBuiltin ctx call .range [.number start, .number stop, .number step] o s = .ok v t) :
    ∃ vs c, rangeItems start stop step o = .ok vs ∧ v = .array c ∧ (t.items c).toList = vs := by
  rw [range_run] at h
  cases hitems : rangeItems start stop step o with
  | error e =>
    rw [hitems] at h
    cases h
  | ok vs =>
    rw [hitems] at h
    cases h
    refine ⟨vs, _, rfl, rfl, ?_⟩
    rw [Session.items_newCell]

theorem range_eq_error {e : Error} {t : Session}
    (h : callBuiltin ctx call .range [.number start, .number stop, .number step] o s =
      .error (.fault e) t) : rangeItems start stop step o = .error e := by
  rw [range_run] at h
  cases hitems : rangeItems start stop step o with
  | error e' =>
    rw [hitems] at h
    cases h
    rfl
  | ok vs =>
    rw [hitems] at h
    cases h

/-- Whether a failure says that there are too many terms. -/
def isRangeLength : Cause → Bool
  | .argument (.rangeLength _ _) => true
  | _ => false

theorem failsBy_toCount (x : Decimal) :
    FailsBy (fun cause => !isRangeLength cause) (x.toCount o) := by
  refine FailsBy.bind ?_ fun n => ?_
  · rw [Decimal.toInteger]
    split
    · exact failsBy_failAt rfl
    · exact failsBy_orFail rfl _
  · split
    · exact failsBy_failAt rfl
    · exact failsBy_pure _

theorem failsBy_rangeLength :
    FailsBy (fun cause => !isRangeLength cause) (rangeLength start stop step o) := by
  refine (failsBy_orFail rfl _).bind fun span => ?_
  dsimp only
  split
  · exact failsBy_toCount _
  · exact failsBy_pure _

/-- The limit is given as the cause only where the length is above it. -/
theorem rangeItems_eq_error (hstep : step.isZero = false) {n limit : Nat}
    (h : rangeItems start stop step o = .error ⟨.argument (.rangeLength n limit), o⟩) :
    rangeLength start stop step o = .ok n ∧ rangeLimit < n := by
  rw [rangeItems_eq hstep] at h
  cases hlength : rangeLength start stop step o with
  | error e =>
    rw [hlength] at h
    cases h
    cases failsBy_rangeLength _ hlength
  | ok m =>
    rw [hlength] at h
    replace h : (if rangeLimit < m then failAt o (.argument (.rangeLength m rangeLimit))
      else (List.range m).mapM (rangeItem start step o)) =
        .error ⟨.argument (.rangeLength n limit), o⟩ := h
    by_cases hlimit : rangeLimit < m
    · rw [if_pos hlimit] at h
      cases h
      exact ⟨rfl, hlimit⟩
    · rw [if_neg hlimit] at h
      have hterms : FailsBy (fun cause => !isRangeLength cause)
          ((List.range m).mapM (rangeItem start step o)) :=
        failsBy_mapM (fun i => (failsBy_orFail rfl _).bind fun x => failsBy_pure _) _
      cases hterms _ h

/-! ## Where rounding may lead -/

/-- A rounded quotient of integers lies on the same side of each index, if the divisor has at
most 22 digits: what is not whole is then further away from whole numbers than rounding leads. -/
theorem lt_iff_of_rounded_quotient {N D : ℤ} {w : ℚ} {i : Nat} (hD : D ≠ 0)
    (hdigits : |D| < 10 ^ 22) (hi : i ≤ rangeLimit) (h : rounded? ((N : ℚ) / D) = some w) :
    (i : ℚ) < (N : ℚ) / D ↔ (i : ℚ) < w := by
  have hiq : (i : ℚ) ≤ 100000 := by exact_mod_cast hi
  have hgap : (N : ℚ) / D ≠ i → 1 / 10 ^ 22 < |(N : ℚ) / D - i| := by
    intro hne
    have hDq : (D : ℚ) ≠ 0 := by exact_mod_cast hD
    have hDpos : (0 : ℚ) < |(D : ℚ)| := abs_pos.2 hDq
    have hrest : N - i * D ≠ 0 := by
      intro hzero
      refine hne ((div_eq_iff hDq).2 ?_)
      exact_mod_cast sub_eq_zero.1 hzero
    have hone : (1 : ℚ) ≤ |((N - i * D : ℤ) : ℚ)| := by exact_mod_cast Int.one_le_abs hrest
    have hsub : (N : ℚ) / D - i = ((N - i * D : ℤ) : ℚ) / D := by
      push_cast
      rw [sub_div, mul_div_cancel_right₀ _ hDq]
    rw [hsub, abs_div]
    have hlt : |(D : ℚ)| < 10 ^ 22 := by exact_mod_cast hdigits
    calc 1 / 10 ^ 22 < 1 / |(D : ℚ)| := one_div_lt_one_div_of_lt hDpos hlt
      _ ≤ |((N - i * D : ℤ) : ℚ)| / |(D : ℚ)| := div_le_div_of_nonneg_right hone hDpos.le
  generalize (N : ℚ) / D = v at h hgap
  have hnear := abs_sub_le_of_rounded h
  rw [abs_le] at hnear
  rcases lt_trichotomy v i with hlt | rfl | hgt
  · refine iff_of_false hlt.not_gt (not_lt.2 ?_)
    rcases le_or_gt v 0 with hneg | hpos
    · exact (nonpos_of_rounded hneg h).trans (Nat.cast_nonneg i)
    · have hbelow := hgap hlt.ne
      rw [abs_of_neg (sub_neg.2 hlt)] at hbelow
      rw [abs_of_pos hpos] at hnear
      norm_num at hbelow hnear ⊢
      linarith
  · have hroom : i < capacity := lt_of_le_of_lt hi (by decide)
    have hexact : rounded? (i : ℚ) = some (i : ℚ) :=
      rounded?_of_fits hroom (Nat.zero_le maxScale) (by rw [Nat.abs_cast, pow_zero, div_one])
    rw [Option.some.inj (hexact.symm.trans h)]
  · refine iff_of_true hgt ?_
    rcases le_or_gt 100001 v with hlarge | hsmall
    · have hwhole : ((100001 : Nat) : ℚ) ≤ |w| := by
        refine le_abs_of_rounded h ?_
        rw [abs_of_nonneg (by linarith)]
        exact_mod_cast hlarge
      rw [abs_of_nonneg (nonneg_of_rounded (by linarith) h)] at hwhole
      norm_num at hwhole
      linarith
    · have habove := hgap hgt.ne'
      rw [abs_of_pos (sub_pos.2 hgt)] at habove
      rw [abs_of_pos ((Nat.cast_nonneg i).trans_lt hgt)] at hnear
      norm_num at habove hnear ⊢
      linarith

/-- As many steps as the limit are not passed by rounding: either they have room, or nothing
that has room is as large. -/
theorem abs_le_limit_mul_of_rounded {v : ℚ} {z : Decimal} (h : rounded? v = some z.toRat)
    (hv : |v| ≤ rangeLimit * |step.toRat|) : |z.toRat| ≤ rangeLimit * |step.toRat| := by
  have hlimit : ((rangeLimit : Nat) : ℚ) = 10 ^ 5 := by norm_num [rangeLimit]
  by_cases hscale : 5 ≤ step.scale
  · have hsteps : (rangeLimit : ℚ) * |step.toRat| = step.mantissa / 10 ^ (step.scale - 5) := by
      have hpow : (10 : ℚ) ^ step.scale = 10 ^ 5 * 10 ^ (step.scale - 5) :=
        (pow_mul_pow_sub 10 hscale).symm
      rw [hlimit, abs_toRat, hpow, ← mul_div_assoc, mul_div_mul_left _ _ (by norm_num)]
    rw [hsteps] at hv ⊢
    exact abs_le_of_rounded h step.mantissa_lt ((Nat.sub_le _ _).trans step.scale_le) hv
  · have hsteps : (rangeLimit : ℚ) * |step.toRat| =
        (step.mantissa * 10 ^ (5 - step.scale) : Nat) / 10 ^ 0 := by
      have hpow : (10 : ℚ) ^ 5 = 10 ^ step.scale * 10 ^ (5 - step.scale) :=
        (pow_mul_pow_sub 10 (Nat.le_of_not_le hscale)).symm
      rw [hlimit, abs_toRat, hpow, pow_zero, div_one]
      push_cast
      field_simp
    rw [hsteps] at hv ⊢
    by_cases hroom : step.mantissa * 10 ^ (5 - step.scale) < capacity
    · exact abs_le_of_rounded h hroom (Nat.zero_le _) hv
    · refine (abs_toRat_lt z).le.trans ?_
      rw [pow_zero, div_one]
      exact_mod_cast Nat.le_of_not_lt hroom

/-- A rounded distance is not turned around. -/
theorem div_nonpos_of_rounded {v z d : ℚ} (h : rounded? v = some z) (hd : d ≠ 0) (hv : v / d ≤ 0) :
    z / d ≤ 0 := by
  have hmul : v = v / d * d := (div_mul_cancel₀ v hd).symm
  rcases lt_or_gt_of_ne hd with hneg | hpos
  · refine div_nonpos_of_nonneg_of_nonpos (nonneg_of_rounded ?_ h) hneg.le
    rw [hmul]
    exact mul_nonneg_of_nonpos_of_nonpos hv hneg.le
  · refine div_nonpos_of_nonpos_of_nonneg (nonpos_of_rounded ?_ h) hpos.le
    rw [hmul]
    exact mul_nonpos_of_nonpos_of_nonneg hv hpos.le

/-- The limit is passed by the exact quotient if it is by the rounded one. -/
theorem limit_lt_of_rangeLength (hstep : step.isZero = false) {n : Nat}
    (h : rangeLength start stop step o = .ok n) (hlimit : rangeLimit < n) :
    (rangeLimit : ℚ) < (stop.toRat - start.toRat) / step.toRat := by
  obtain ⟨span, quotient, hspan, hquotient⟩ := exists_quotient_of_rangeLength h
  have hspan' := toRat_of_map_eq (value_sub? stop start) hspan
  have hquotient' := toRat_of_map_eq (value_div? hstep) hquotient
  have hd := toRat_ne_zero hstep
  have habove : (rangeLimit : ℚ) < quotient.toRat := by
    rw [rangeLength_eq hspan hquotient] at h
    split at h
    · rw [toCount_ceil_eq_ok h] at hlimit
      exact Nat.lt_ceil.1 hlimit
    · cases h
      exact absurd hlimit (Nat.not_lt_zero _)
  by_contra hle
  rw [not_lt] at hle
  rcases le_or_gt ((stop.toRat - start.toRat) / step.toRat) 0 with hneg | hpos
  · have hnonpos := nonpos_of_rounded (div_nonpos_of_rounded hspan' hd hneg) hquotient'
    exact absurd habove (not_lt.2 (hnonpos.trans (Nat.cast_nonneg _)))
  · have hdistance : |stop.toRat - start.toRat| ≤ rangeLimit * |step.toRat| := by
      rw [← div_le_iff₀ (abs_pos.2 hd), ← abs_div, abs_of_pos hpos]
      exact hle
    have hsteps : |span.toRat / step.toRat| ≤ (rangeLimit : Nat) / 10 ^ 0 := by
      rw [abs_div, div_le_iff₀ (abs_pos.2 hd), pow_zero, div_one]
      exact abs_le_limit_mul_of_rounded hspan' hdistance
    have hbound := abs_le_of_rounded hquotient' (by decide) (Nat.zero_le _) hsteps
    rw [pow_zero, div_one] at hbound
    exact absurd habove (not_lt.2 ((le_abs_self _).trans hbound))

/-! ## Numbers with few digits -/

theorem natAbs_lt_capacity {N : ℤ} (h : |N| < 2 * 10 ^ 28) : N.natAbs < capacity := by
  rw [Int.abs_eq_natAbs] at h
  have hcapacity : (capacity : ℤ) = 79228162514264337593543950336 := rfl
  omega

/-- The number has at most `p` places and `n` digits, those behind the point among them. -/
def FewDigits (v : ℚ) (p n : Nat) : Prop := ∃ N : ℤ, v = N / 10 ^ p ∧ |N| < 10 ^ n

variable {a b d : ℚ} {p : Nat}

theorem rounded?_sub_of_fewDigits (hp : p ≤ maxScale) (ha : FewDigits a p 28)
    (hb : FewDigits b p 28) : rounded? (b - a) = some (b - a) := by
  obtain ⟨A, rfl, hA⟩ := ha
  obtain ⟨B, rfl, hB⟩ := hb
  have hdistance : |B - A| < 2 * 10 ^ 28 := by
    rw [abs_lt] at hA hB ⊢
    omega
  have hexact := rounded?_intDiv (natAbs_lt_capacity hdistance) hp
  rwa [Int.cast_sub, sub_div] at hexact

/-- The number of steps is a quotient of integers. -/
theorem exists_quotient_of_fewDigits (ha : FewDigits a p 28) (hb : FewDigits b p 28)
    (hd : FewDigits d p 22) (hne : d ≠ 0) :
    ∃ N D : ℤ, (b - a) / d = N / D ∧ D ≠ 0 ∧ |N| < 2 * 10 ^ 28 ∧ |D| < 10 ^ 22 := by
  obtain ⟨A, rfl, hA⟩ := ha
  obtain ⟨B, rfl, hB⟩ := hb
  obtain ⟨D, rfl, hD⟩ := hd
  have hpow : (10 : ℚ) ^ p ≠ 0 := by positivity
  refine ⟨B - A, D, ?_, ?_, ?_, hD⟩
  · rw [← sub_div, div_div_div_cancel_right₀ hpow, Int.cast_sub]
  · rintro rfl
    simp at hne
  · rw [abs_lt] at hA hB ⊢
    omega

theorem exists_rounded_quotient (ha : FewDigits a p 28) (hb : FewDigits b p 28)
    (hd : FewDigits d p 22) (hne : d ≠ 0) : ∃ w, rounded? ((b - a) / d) = some w := by
  obtain ⟨N, D, hquotient, hD, hN, -⟩ := exists_quotient_of_fewDigits ha hb hd hne
  rw [hquotient]
  refine exists_rounded ?_
  have hone : (1 : ℚ) ≤ |(D : ℚ)| := by exact_mod_cast Int.one_le_abs hD
  have hlarge : |(N : ℚ)| < 2 * 10 ^ 28 := by exact_mod_cast hN
  rw [abs_div, cast_capacity]
  refine (div_le_self (abs_nonneg _) hone).trans_lt (hlarge.trans ?_)
  norm_num

/-- The rounded quotient tells the terms before the end from the others. -/
theorem lt_iff_of_fewDigits (ha : FewDigits a p 28) (hb : FewDigits b p 28) (hd : FewDigits d p 22)
    (hne : d ≠ 0) {w : ℚ} (h : rounded? ((b - a) / d) = some w) {i : Nat} (hi : i ≤ rangeLimit) :
    (i : ℚ) < (b - a) / d ↔ (i : ℚ) < w := by
  obtain ⟨N, D, hquotient, hD, -, hdigits⟩ := exists_quotient_of_fewDigits ha hb hd hne
  rw [hquotient] at h ⊢
  exact lt_iff_of_rounded_quotient hD hdigits hi h

/-- The terms are not rounded. -/
theorem rounded?_term_of_fewDigits (hp : p ≤ maxScale) (ha : FewDigits a p 28)
    (hd : FewDigits d p 22) {i : Nat} (hi : i ≤ rangeLimit) :
    rounded? (i * d) = some (i * d) ∧ rounded? (a + i * d) = some (a + i * d) := by
  obtain ⟨A, rfl, hA⟩ := ha
  obtain ⟨D, rfl, hD⟩ := hd
  have hsteps : |(i : ℤ) * D| < 10 ^ 28 := by
    rw [abs_mul, Nat.abs_cast]
    have hlimit : (i : ℤ) ≤ 100000 := by exact_mod_cast hi
    nlinarith [abs_nonneg D]
  have hproduct : (i : ℚ) * (D / 10 ^ p) = ((i * D : ℤ) : ℚ) / 10 ^ p := by
    push_cast
    ring
  have hsum : (A : ℚ) / 10 ^ p + i * (D / 10 ^ p) = ((A + i * D : ℤ) : ℚ) / 10 ^ p := by
    push_cast
    ring
  rw [hsum, hproduct]
  constructor
  · exact rounded?_intDiv (natAbs_lt_capacity (hsteps.trans (by norm_num))) hp
  · refine rounded?_intDiv (natAbs_lt_capacity ((abs_add_le _ _).trans_lt ?_)) hp
    linarith

/-! ## What a range returns -/

/-- The items of a range as numbers. -/
theorem exists_numbers {is : List Nat} {vs : List Value}
    (h : List.Forall₂ (fun i v => rangeItem start step o i = .ok v) is vs) :
    ∃ xs : List Decimal, vs = xs.map Value.number ∧
      List.Forall₂ (fun i x => rangeItem start step o i = .ok (.number x)) is xs := by
  induction h with
  | nil => exact ⟨[], rfl, .nil⟩
  | cons hv _ ih =>
    obtain ⟨x, -, hx⟩ := ok_bind_eq_ok hv
    obtain ⟨xs, rfl, hxs⟩ := ih
    cases hx
    exact ⟨x :: xs, rfl, .cons hv hxs⟩

/-- The terms with the indices below the length are those before the end, as long as rounding
leads the quotient past no index. -/
theorem before_of_rangeLength (hstep : step.isZero = false) {n : Nat}
    (h : rangeLength start stop step o = .ok n) (hn : n ≤ rangeLimit) {span quotient : ℚ}
    (hspan : rounded? (stop.toRat - start.toRat) = some span)
    (hquotient : rounded? (span / step.toRat) = some quotient)
    (hagree : ∀ i : Nat, i ≤ rangeLimit →
      ((i : ℚ) < (stop.toRat - start.toRat) / step.toRat ↔ (i : ℚ) < quotient)) :
    (∀ i < n, Before step.toRat (start.toRat + i * step.toRat) stop.toRat) ∧
      ¬Before step.toRat (start.toRat + n * step.toRat) stop.toRat := by
  have hd := toRat_ne_zero hstep
  obtain ⟨span', quotient', hspan', hquotient', hceil⟩ := rangeLength_eq_ceil h hstep
  obtain rfl := Option.some.inj (hspan.symm.trans hspan')
  obtain rfl := Option.some.inj (hquotient.symm.trans hquotient')
  constructor
  · intro i hi
    rw [before_iff hd, hagree i (hi.le.trans hn), ← Nat.lt_ceil, ← hceil]
    exact hi
  · rw [before_iff hd, hagree n hn, ← Nat.lt_ceil, ← hceil]
    exact Nat.lt_irrefl n

/-- With few digits, a range of at most as many terms as the limit has a length. -/
theorem exists_rangeLength (hstep : step.isZero = false) (hp : p ≤ maxScale)
    (ha : FewDigits start.toRat p 28) (hb : FewDigits stop.toRat p 28)
    (hd : FewDigits step.toRat p 22)
    (hlimit : ¬Before step.toRat (start.toRat + rangeLimit * step.toRat) stop.toRat) :
    ∃ n ≤ rangeLimit, rangeLength start stop step o = .ok n := by
  have hne := toRat_ne_zero hstep
  have hspan := value_sub? stop start
  rw [rounded?_sub_of_fewDigits hp ha hb, Option.map_eq_some_iff] at hspan
  obtain ⟨span, hspan, hdistance⟩ := hspan
  obtain ⟨w, hw⟩ := exists_rounded_quotient ha hb hd hne
  have hquotient := value_div? hstep (x := span)
  rw [hdistance, hw, Option.map_eq_some_iff] at hquotient
  obtain ⟨quotient, hquotient, rfl⟩ := hquotient
  rw [before_iff hne, lt_iff_of_fewDigits ha hb hd hne hw le_rfl, not_lt] at hlimit
  have hceil : ⌈quotient.toRat⌉₊ ≤ rangeLimit := Nat.ceil_le.2 hlimit
  rw [rangeLength_eq hspan hquotient]
  split
  · rename_i hpos
    exact ⟨_, hceil, toCount_ceil hpos.le hceil⟩
  · exact ⟨0, Nat.zero_le _, rfl⟩

theorem range_of_items (ctx : Context) (call : Caller) (s : Session) {vs : List Value}
    (h : rangeItems start stop step o = .ok vs) :
    ∃ c t, callBuiltin ctx call .range [.number start, .number stop, .number step] o s =
      .ok (.array c) t ∧ (t.items c).toList = vs := by
  rw [range_run, h]
  refine ⟨_, _, rfl, ?_⟩
  rw [Session.items_newCell]

theorem exists_range (hstep : step.isZero = false) {n : Nat} (hn : n ≤ rangeLimit)
    (hlength : rangeLength start stop step o = .ok n)
    (hterms : ∀ i < n, ∃ v, rangeItem start step o i = .ok v) :
    ∃ v t, callBuiltin ctx call .range [.number start, .number stop, .number step] o s =
      .ok v t := by
  obtain ⟨vs, hvs⟩ := exists_mapM_ok fun i hi => hterms i (List.mem_range.1 hi)
  have hitems : rangeItems start stop step o = .ok vs := by
    rw [rangeItems_of_length hstep hlength hn, hvs]
  obtain ⟨c, t, hrun, -⟩ := range_of_items ctx call s hitems
  exact ⟨_, t, hrun⟩

/-- The items `xs` of a range from `a` to `b` by `d`. -/
structure Terms (a b d : ℚ) (xs : List Decimal) : Prop where
  /-- An item is a term, rounded as products and sums are. -/
  rounded : ∀ (i : Nat) (x : Decimal), xs[i]? = some x →
    ∃ y, rounded? (i * d) = some y ∧ rounded? (a + y) = some x.toRat
  /-- There is an item for each term before the end, as long as rounding the distance and its
  quotient by the step leads the quotient past no whole number. -/
  length : ∀ span quotient, rounded? (b - a) = some span → rounded? (span / d) = some quotient →
    (∀ i : Nat, i ≤ rangeLimit → ((i : ℚ) < (b - a) / d ↔ (i : ℚ) < quotient)) →
    (∀ i < xs.length, Before d (a + i * d) b) ∧ ¬Before d (a + xs.length * d) b
  /-- With few digits nothing is rounded. -/
  exact : ∀ p ≤ maxScale, FewDigits a p 28 → FewDigits b p 28 → FewDigits d p 22 →
    (∀ (i : Nat) (x : Decimal), xs[i]? = some x → x.toRat = a + i * d ∧ Before d x.toRat b) ∧
    ¬Before d (a + xs.length * d) b

theorem terms_of_forall₂ (hstep : step.isZero = false) {n : Nat} {xs : List Decimal}
    (hlength : rangeLength start stop step o = .ok n) (hn : n ≤ rangeLimit)
    (hxs : List.Forall₂ (fun i x => rangeItem start step o i = .ok (.number x)) (List.range n) xs) :
    Terms start.toRat stop.toRat step.toRat xs := by
  have hsize : xs.length = n := by rw [← hxs.length_eq, List.length_range]
  have hterm : ∀ (i : Nat) (x : Decimal), xs[i]? = some x → i < n ∧
      ∃ y, rounded? (i * step.toRat) = some y ∧ rounded? (start.toRat + y) = some x.toRat := by
    intro i x hx
    obtain ⟨hi, rfl⟩ := List.getElem?_eq_some_iff.1 hx
    rw [hsize] at hi
    have hget := List.Forall₂.get hxs (by rwa [List.length_range]) (by rwa [hsize])
    rw [List.get_eq_getElem, List.getElem_range] at hget
    have hroom : i < capacity := (hi.trans_le hn).trans (by decide)
    obtain ⟨x, y, hx, hy, hsum⟩ := rangeItem_eq_ok hroom hget
    obtain rfl := Value.number.inj hx
    exact ⟨hi, y, hy, hsum⟩
  refine ⟨fun i x hx => (hterm i x hx).2, ?_, ?_⟩
  · intro span quotient hspan hquotient hagree
    rw [hsize]
    exact before_of_rangeLength hstep hlength hn hspan hquotient hagree
  · intro p hp ha hb hd
    have hspan := rounded?_sub_of_fewDigits hp ha hb
    obtain ⟨w, hw⟩ := exists_rounded_quotient ha hb hd (toRat_ne_zero hstep)
    obtain ⟨hbefore, hend⟩ := before_of_rangeLength hstep hlength hn hspan hw fun i hi =>
      lt_iff_of_fewDigits ha hb hd (toRat_ne_zero hstep) hw hi
    refine ⟨fun i x hx => ?_, hsize ▸ hend⟩
    obtain ⟨hi, y, hy, hsum⟩ := hterm i x hx
    obtain ⟨hproduct, hexact⟩ := rounded?_term_of_fewDigits hp ha hd (hi.le.trans hn)
    obtain rfl := Option.some.inj (hproduct.symm.trans hy)
    rw [← Option.some.inj (hexact.symm.trans hsum)]
    exact ⟨rfl, hbefore i hi⟩

end

/-- A range is made of terms rounded as sums and products are; those with the indices below its
length lie strictly before the end, and no others do, as far as rounding leads the quotient past no
whole number.  With few digits all of this is exact.  The limit ends a range only if more terms
exist. -/
theorem range_terms {start stop step : Decimal} (hstep : step.isZero = false) (ctx : Context)
    (call : Caller) (o : Nat) (s : Session) :
    let a := start.toRat
    let b := stop.toRat
    let d := step.toRat
    let run := callBuiltin ctx call .range [.number start, .number stop, .number step] o s
    (∀ v t, run = .ok v t → ∃ c xs,
      v = .array c ∧ (t.items c).toList = xs.map Value.number ∧ Terms a b d xs) ∧
    (∀ p ≤ maxScale, FewDigits a p 28 → FewDigits b p 28 → FewDigits d p 22 →
      ¬Before d (a + rangeLimit * d) b → ∃ v t, run = .ok v t) ∧
    (∀ n limit t, run = .error (.fault ⟨.argument (.rangeLength n limit), o⟩) t →
      ∀ i ≤ rangeLimit, Before d (a + i * d) b) := by
  intro a b d run
  have hd : d ≠ 0 := toRat_ne_zero hstep
  refine ⟨?_, ?_, ?_⟩
  · intro v t h
    obtain ⟨vs, c, hitems, rfl, hcell⟩ := range_eq_ok h
    obtain ⟨n, hlength, hn, hterms⟩ := rangeItems_eq_ok hstep hitems
    obtain ⟨xs, rfl, hxs⟩ := exists_numbers hterms
    exact ⟨c, xs, rfl, hcell, terms_of_forall₂ hstep hlength hn hxs⟩
  · intro p hp ha hb hdigits hlimit
    obtain ⟨n, hn, hlength⟩ := exists_rangeLength hstep hp ha hb hdigits hlimit
    refine exists_range hstep hn hlength fun i hi => ?_
    obtain ⟨hproduct, hsum⟩ := rounded?_term_of_fewDigits hp ha hdigits (hi.le.trans hn)
    exact exists_rangeItem (hi.trans_le (hn.trans (by decide))) hproduct hsum
  · intro n limit t h i hi
    obtain ⟨hlength, hn⟩ := rangeItems_eq_error hstep (range_eq_error h)
    rw [before_iff hd]
    exact lt_of_le_of_lt (by exact_mod_cast hi) (limit_lt_of_rangeLength hstep hlength hn)

/-- Three tenths. -/
def threeTenths : Decimal := .ofScaled 3 1

/-- From nought to one by three tenths all terms are exact, and by one there are more terms before
a number past the limit than a range may have. -/
theorem range_terms_tenths :
    let run (stop step : Decimal) := callBuiltin (.ofClock ⟨0, 0⟩ .utc) (fun v _ _ => pure v) .range
      [.number .zero, .number stop, .number step] 0 .empty
    threeTenths.isZero = false ∧ Decimal.one.isZero = false ∧
      (∃ (c : Nat) (xs : List Decimal) (t : Session), run .one threeTenths = .ok (.array c) t ∧
        (t.items c).toList = xs.map Value.number ∧
        ∀ (i : Nat) (x : Decimal), xs[i]? = some x →
          x.toRat = Decimal.zero.toRat + i * threeTenths.toRat ∧
            Before threeTenths.toRat x.toRat Decimal.one.toRat) ∧
      ∃ t, run (.ofNat 100001) .one =
          .error (.fault ⟨.argument (.rangeLength 100001 rangeLimit), 0⟩) t ∧
        ∀ i ≤ rangeLimit, Before Decimal.one.toRat (Decimal.zero.toRat + i * Decimal.one.toRat)
          (Decimal.ofNat 100001).toRat := by
  intro run
  have hzero : FewDigits Decimal.zero.toRat 1 28 := ⟨0, by decide +kernel, by decide⟩
  have hone : FewDigits Decimal.one.toRat 1 28 := ⟨10, by decide +kernel, by decide +kernel⟩
  have hstep : FewDigits threeTenths.toRat 1 22 := ⟨3, by decide +kernel, by decide +kernel⟩
  have hscale : 1 ≤ maxScale := by decide
  have hlimit : ¬Before threeTenths.toRat
      (Decimal.zero.toRat + rangeLimit * threeTenths.toRat) Decimal.one.toRat := by
    rw [before_iff (by decide +kernel)]
    decide +kernel
  obtain ⟨hterms, hreturns, -⟩ := @range_terms .zero .one threeTenths rfl
    (.ofClock ⟨0, 0⟩ .utc) (fun v _ _ => pure v) 0 .empty
  obtain ⟨v, t, hrun⟩ := hreturns 1 hscale hzero hone hstep hlimit
  obtain ⟨c, xs, rfl, hitems, hxs⟩ := hterms v t hrun
  refine ⟨rfl, rfl, ⟨c, xs, t, hrun, hitems, (hxs.exact 1 hscale hzero hone hstep).1⟩, ?_⟩
  have hlength : rangeItems .zero (.ofNat 100001) .one 0 =
      .error ⟨.argument (.rangeLength 100001 rangeLimit), 0⟩ := by
    rw [rangeItems_eq rfl, show rangeLength .zero (.ofNat 100001) .one 0 = .ok 100001 from rfl]
    rfl
  have hfails : run (.ofNat 100001) .one =
      .error (.fault ⟨.argument (.rangeLength 100001 rangeLimit), 0⟩) .empty := by
    rw [show run (.ofNat 100001) .one = _ from range_run, hlength]
    rfl
  obtain ⟨-, -, hlimit⟩ := @range_terms .zero (.ofNat 100001) .one rfl
    (.ofClock ⟨0, 0⟩ .utc) (fun v _ _ => pure v) 0 .empty
  exact ⟨_, hfails, hlimit _ _ _ hfails⟩

/-- The least positive number. -/
def speck : Decimal := .ofScaled 1 28

/-- Ten billion, with as many places as it has room for. -/
def tenBillion : Decimal := .ofScaled 10000000000000000000000000000 18

/-- The next number after four. -/
def pastFour : Decimal := .ofScaled 40000000000000000000000000001 28

/-- A sum that has no room is rounded to the step alone, and the four before the next number after
it is left out since the quotient is rounded to one. -/
theorem range_rounds :
    let run (start stop step : Decimal) := callBuiltin (.ofClock ⟨0, 0⟩ .utc) (fun v _ _ => pure v)
      .range [.number start, .number stop, .number step] 0 .empty
    (∃ c t, run speck (.ofNat 20000000000) (.ofNat 10000000000) = .ok (.array c) t ∧
        (t.items c).toList = [.number speck, .number tenBillion] ∧
        tenBillion.toRat ≠ speck.toRat + 1 * (Decimal.ofNat 10000000000).toRat) ∧
      ∃ c t, run .zero pastFour (.ofNat 4) = .ok (.array c) t ∧
        (t.items c).toList = [.number .zero] ∧
        Before (Decimal.ofNat 4).toRat (Decimal.zero.toRat + 1 * (Decimal.ofNat 4).toRat)
          pastFour.toRat := by
  intro run
  have hsum : ((Decimal.ofNat 10000000000).mul? (.ofNat 1)).bind speck.add? = some tenBillion := by
    decide +kernel
  have hfirst : rangeItem speck (.ofNat 10000000000) 0 0 = .ok (.number speck) := by rfl
  have hsecond : rangeItem speck (.ofNat 10000000000) 0 1 = .ok (.number tenBillion) := by
    rw [rangeItem, hsum]
    rfl
  have hitems : rangeItems speck (.ofNat 20000000000) (.ofNat 10000000000) 0 =
      .ok [.number speck, .number tenBillion] := by
    have hlength : rangeLength speck (.ofNat 20000000000) (.ofNat 10000000000) 0 = .ok 2 := by rfl
    rw [rangeItems_of_length rfl hlength (by decide), show List.range 2 = [0, 1] from rfl,
      List.mapM_cons, List.mapM_cons, hfirst, hsecond]
    rfl
  have hshort : rangeItems .zero pastFour (.ofNat 4) 0 = .ok [.number .zero] := by rfl
  obtain ⟨c, t, hrun, hcell⟩ := range_of_items _ _ .empty hitems
  obtain ⟨c', t', hrun', hcell'⟩ := range_of_items _ _ .empty hshort
  refine ⟨⟨c, t, hrun, hcell, by decide +kernel⟩, c', t', hrun', hcell', ?_⟩
  rw [Before, if_pos (by decide +kernel)]
  decide +kernel

end Eval

end Reckoner
