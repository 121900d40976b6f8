import Mathlib.Algebra.Order.Field.Rat
import Mathlib.Data.Rat.Lemmas
import Mathlib.Tactic.FieldSimp
import Mathlib.Tactic.Linarith
import Mathlib.Tactic.NormNum
import Mathlib.Tactic.Positivity
import Reckoner.Proofs.Decimal.Order

/-!
# Arithmetic rounds correctly

Sums, differences and products of decimals are the exact results, rounded once:
half to even, at the finest scale at which the rounded value has room.

* `nearest` rounds the magnitude of a rational number to a whole number, and
  `rounded?` rounds a rational number to a decimal's value.  The lemmas
  `rounded?_eq_some`, `rounded?_eq_none` and `rounded?_of_fits` say which scale it
  takes without going through them one by one.
* `value_fit?`, and from it `value_mul?`, `value_add?` and `value_sub?`, say that
  the operations give just that, overflow included.
* `abs_sub_le_of_rounded` bounds what a rounding loses.
-/

namespace Reckoner

namespace Decimal

/-! ## Rounding to whole numbers -/

theorem cast_tenPow (n : Nat) : ((tenPow n : Nat) : ℚ) = 10 ^ n := by simp [tenPow]

theorem divHalfEven_mul_mul (n d : Nat) {k : Nat} (hk : 0 < k) :
    divHalfEven (n * k) (d * k) = divHalfEven n d := by
  have hquot : n * k / (d * k) = n / d := Nat.mul_div_mul_right n d hk
  have hrem : n * k % (d * k) = n % d * k := Nat.mul_mod_mul_right k n d
  have hlt : 2 * (n % d * k) < d * k ↔ 2 * (n % d) < d := by
    rw [← Nat.mul_assoc]
    exact Nat.mul_lt_mul_right hk
  have heq : 2 * (n % d * k) = d * k ↔ 2 * (n % d) = d := by
    rw [← Nat.mul_assoc]
    exact Nat.mul_left_inj (Nat.ne_of_gt hk)
  simp only [divHalfEven, hquot, hrem, hlt, Bool.or_eq_true, decide_eq_true_eq, Bool.and_eq_true,
    beq_iff_eq, heq]

/-- Equal fractions are rounded to the same number. -/
theorem divHalfEven_congr {n d n' d' : Nat} (hd : 0 < d) (hd' : 0 < d') (h : n * d' = n' * d) :
    divHalfEven n d = divHalfEven n' d' := by
  rw [← divHalfEven_mul_mul n d hd', ← divHalfEven_mul_mul n' d' hd, h, Nat.mul_comm d d']

theorem div_le_divHalfEven (n d : Nat) : n / d ≤ divHalfEven n d := by
  rw [divHalfEven]
  split <;> omega

/-- A rounded fraction is at most one half away. -/
theorem divHalfEven_bounds (n : Nat) {d : Nat} (hd : 0 < d) :
    2 * (d * divHalfEven n d) ≤ 2 * n + d ∧ 2 * n ≤ 2 * (d * divHalfEven n d) + d := by
  have hsplit := Nat.div_add_mod n d
  have hrem := Nat.mod_lt n hd
  rw [divHalfEven]
  split
  · rename_i h
    simp only [Bool.or_eq_true, decide_eq_true_eq, Bool.and_eq_true, beq_iff_eq] at h
    omega
  · rename_i h
    simp only [Bool.or_eq_true, decide_eq_true_eq, Bool.and_eq_true, beq_iff_eq, not_or] at h
    rw [Nat.mul_add, Nat.mul_one]
    omega

/-- The magnitude of a number, rounded to a whole number, a tie going to the even neighbour. -/
def nearest (v : ℚ) : Nat := divHalfEven v.num.natAbs v.den

theorem abs_eq_natAbs_div (v : ℚ) : |v| = (v.num.natAbs : ℚ) / v.den := by
  rw [Nat.cast_natAbs, Int.cast_abs]
  conv_lhs => rw [← Rat.num_div_den v]
  rw [abs_div, Nat.abs_cast]

theorem nearest_eq {v : ℚ} {n d : Nat} (hd : 0 < d) (h : |v| = (n : ℚ) / d) :
    nearest v = divHalfEven n d := by
  have hden : (v.den : ℚ) ≠ 0 := by exact_mod_cast v.den_ne_zero
  have hd' : (d : ℚ) ≠ 0 := by exact_mod_cast Nat.ne_of_gt hd
  rw [abs_eq_natAbs_div, div_eq_div_iff hden hd'] at h
  exact divHalfEven_congr v.den_pos hd (by exact_mod_cast h)

theorem nearest_natCast (m : Nat) : nearest m = m := by
  have h : |(m : ℚ)| = (m : ℚ) / (1 : Nat) := by
    rw [Nat.abs_cast, Nat.cast_one, div_one]
  rw [nearest_eq Nat.one_pos h]
  simpa using divHalfEven_mul m Nat.one_pos

theorem nearest_congr {v w : ℚ} (h : |v| = |w|) : nearest v = nearest w :=
  nearest_eq w.den_pos (h.trans (abs_eq_natAbs_div w))

/-- What is rounded is at most one half away. -/
theorem nearest_bounds (v : ℚ) : (nearest v : ℚ) ≤ |v| + 1 / 2 ∧ |v| ≤ nearest v + 1 / 2 := by
  have hden : (0 : ℚ) < v.den := by exact_mod_cast v.den_pos
  obtain ⟨hupper, hlower⟩ := divHalfEven_bounds v.num.natAbs v.den_pos
  have hupper' : 2 * ((v.den : ℚ) * nearest v) ≤ 2 * v.num.natAbs + v.den := by
    exact_mod_cast hupper
  have hlower' : 2 * (v.num.natAbs : ℚ) ≤ 2 * (v.den * nearest v) + v.den := by
    exact_mod_cast hlower
  have hv : (v.num.natAbs : ℚ) = v.den * |v| := by
    rw [abs_eq_natAbs_div, mul_div_cancel₀ _ (ne_of_gt hden)]
  rw [hv] at hupper' hlower'
  constructor
  · refine le_of_mul_le_mul_left ?_ hden
    linarith
  · refine le_of_mul_le_mul_left ?_ hden
    linarith

/-- What is at least a whole number is not rounded below it. -/
theorem le_nearest {m : Nat} {v : ℚ} (h : (m : ℚ) ≤ |v|) : m ≤ nearest v := by
  refine Nat.le_trans ?_ (div_le_divHalfEven v.num.natAbs v.den)
  rw [Nat.le_div_iff_mul_le v.den_pos]
  have hden : (0 : ℚ) < v.den := by exact_mod_cast v.den_pos
  rw [abs_eq_natAbs_div, le_div_iff₀ hden] at h
  exact_mod_cast h

/-- What is at most a whole number is not rounded above it. -/
theorem nearest_le {m : Nat} {v : ℚ} (h : |v| ≤ m) : nearest v ≤ m := by
  have hlt : (nearest v : ℚ) < m + 1 := by
    have hupper := (nearest_bounds v).1
    linarith
  exact Nat.le_of_lt_succ (by exact_mod_cast hlt)

/-! ## Rounding to decimals -/

/-- A magnitude with the sign of a number. -/
def signedLike (v w : ℚ) : ℚ := if v < 0 then -w else w

/-- The number rounded at scale `s`, or at the first lower scale at which its rounding has
room. -/
def roundedFrom? (v : ℚ) : Nat → Option ℚ
  | 0 => if nearest v < capacity then some (signedLike v (nearest v)) else none
  | s + 1 =>
    if nearest (v * 10 ^ (s + 1)) < capacity then
      some (signedLike v (nearest (v * 10 ^ (s + 1)) / 10 ^ (s + 1)))
    else roundedFrom? v s

/-- The value of the decimal that a number is rounded to, if there is room for one. -/
def rounded? (v : ℚ) : Option ℚ := roundedFrom? v maxScale

theorem signedLike_abs (v : ℚ) : signedLike v |v| = v := by
  rw [signedLike]
  split
  · rename_i h
    rw [abs_of_neg h, neg_neg]
  · rename_i h
    rw [abs_of_nonneg (not_lt.1 h)]

theorem abs_signedLike_sub (v w : ℚ) : |signedLike v w - v| = |w - (|v|)| := by
  rw [signedLike]
  split
  · rename_i h
    rw [abs_of_neg h, ← abs_neg, neg_sub, sub_neg_eq_add, sub_neg_eq_add, add_comm]
  · rename_i h
    rw [abs_of_nonneg (not_lt.1 h)]

theorem abs_mul_tenPow (v : ℚ) (s : Nat) : |v * 10 ^ s| = |v| * 10 ^ s := by
  rw [abs_mul, abs_of_pos (by positivity : (0 : ℚ) < 10 ^ s)]

/-- Where a rounding has no room, none at a finer scale has. -/
theorem capacity_le_nearest {v : ℚ} {s t : Nat} (h : capacity ≤ nearest (v * 10 ^ s))
    (hst : s ≤ t) : capacity ≤ nearest (v * 10 ^ t) := by
  rcases Nat.eq_or_lt_of_le hst with rfl | hlt
  · exact h
  · refine le_nearest ?_
    have hroom : (capacity : ℚ) ≤ |v| * 10 ^ s + 1 / 2 := by
      rw [← abs_mul_tenPow]
      exact le_trans (by exact_mod_cast h) (nearest_bounds _).1
    have hstep : (10 : ℚ) ^ s * 10 ≤ 10 ^ t := by
      rw [← pow_succ]
      exact pow_le_pow_right₀ (by norm_num) hlt
    have hmono := mul_le_mul_of_nonneg_left hstep (abs_nonneg v)
    rw [abs_mul_tenPow]
    norm_num at hroom ⊢
    linarith

theorem roundedFrom?_eq_some {v : ℚ} {s t : Nat} (hst : s ≤ t)
    (hfit : nearest (v * 10 ^ s) < capacity)
    (hfinest : s = t ∨ capacity ≤ nearest (v * 10 ^ (s + 1))) :
    roundedFrom? v t = some (signedLike v (nearest (v * 10 ^ s) / 10 ^ s)) := by
  induction t with
  | zero =>
    obtain rfl := Nat.le_zero.1 hst
    rw [pow_zero, mul_one] at hfit ⊢
    rw [roundedFrom?, if_pos hfit, div_one]
  | succ t ih =>
    rcases Nat.eq_or_lt_of_le hst with rfl | hlt
    · rw [roundedFrom?, if_pos hfit]
    · have hnext : capacity ≤ nearest (v * 10 ^ (s + 1)) :=
        hfinest.resolve_left (Nat.ne_of_lt hlt)
      rw [roundedFrom?, if_neg (Nat.not_lt.2 (capacity_le_nearest hnext hlt))]
      exact ih (Nat.le_of_lt_succ hlt) (.inr hnext)

/-- The rounding is taken at the finest scale that has room. -/
theorem rounded?_eq_some {v : ℚ} {s : Nat} (hs : s ≤ maxScale)
    (hfit : nearest (v * 10 ^ s) < capacity)
    (hfinest : s = maxScale ∨ capacity ≤ nearest (v * 10 ^ (s + 1))) :
    rounded? v = some (signedLike v (nearest (v * 10 ^ s) / 10 ^ s)) :=
  roundedFrom?_eq_some hs hfit hfinest

/-- There is no room if there is none for the whole part. -/
theorem rounded?_eq_none {v : ℚ} (h : capacity ≤ nearest v) : rounded? v = none := by
  have hnone (t : Nat) : roundedFrom? v t = none := by
    have hzero : capacity ≤ nearest (v * 10 ^ 0) := by rwa [pow_zero, mul_one]
    induction t with
    | zero => rw [roundedFrom?, if_neg (Nat.not_lt.2 h)]
    | succ t ih =>
      have hfull := capacity_le_nearest hzero t.succ.zero_le
      rw [roundedFrom?, if_neg (Nat.not_lt.2 hfull), ih]
  exact hnone maxScale

/-- There is a finest scale that has room, if there is one at all. -/
theorem exists_finest {v : ℚ} (h : nearest v < capacity) : ∃ s ≤ maxScale,
    nearest (v * 10 ^ s) < capacity ∧
      (s = maxScale ∨ capacity ≤ nearest (v * 10 ^ (s + 1))) := by
  have hfrom (t : Nat) : ∃ s ≤ t, nearest (v * 10 ^ s) < capacity ∧
      (s = t ∨ capacity ≤ nearest (v * 10 ^ (s + 1))) := by
    induction t with
    | zero => exact ⟨0, Nat.le_refl 0, by rwa [pow_zero, mul_one], .inl rfl⟩
    | succ t ih =>
      by_cases hfit : nearest (v * 10 ^ (t + 1)) < capacity
      · exact ⟨t + 1, Nat.le_refl _, hfit, .inl rfl⟩
      · obtain ⟨s, hs, hroom, hfinest⟩ := ih
        refine ⟨s, Nat.le_succ_of_le hs, hroom, .inr ?_⟩
        rcases hfinest with rfl | hfinest
        · exact Nat.not_lt.1 hfit
        · exact hfinest
  exact hfrom maxScale

/-- What fits as it is is not rounded. -/
theorem rounded?_of_fits {v : ℚ} {m s : Nat} (hm : m < capacity) (hs : s ≤ maxScale)
    (h : |v| = m / 10 ^ s) : rounded? v = some v := by
  have hexact {t : Nat} (ht : s ≤ t) : nearest (v * 10 ^ t) = m * 10 ^ (t - s) := by
    have hpow : (10 : ℚ) ^ t = 10 ^ s * 10 ^ (t - s) := (pow_mul_pow_sub 10 ht).symm
    have habs : |v * 10 ^ t| = |((m * 10 ^ (t - s) : Nat) : ℚ)| := by
      rw [abs_mul_tenPow, h, hpow, Nat.abs_cast]
      push_cast
      field_simp
    rw [nearest_congr habs, nearest_natCast]
  have hroom : nearest v < capacity := by
    refine Nat.lt_of_not_le fun hnone => ?_
    have hscale : capacity ≤ nearest (v * 10 ^ s) :=
      capacity_le_nearest (by rwa [pow_zero, mul_one]) s.zero_le
    rw [hexact (Nat.le_refl s), Nat.sub_self, pow_zero, Nat.mul_one] at hscale
    exact Nat.not_lt.2 hscale hm
  obtain ⟨t, ht, hfit, hfinest⟩ := exists_finest hroom
  have hst : s ≤ t := by
    rcases hfinest with rfl | hfinest
    · exact hs
    · refine Nat.le_of_not_lt fun hts => ?_
      have hscale := capacity_le_nearest hfinest hts
      rw [hexact (Nat.le_refl s), Nat.sub_self, pow_zero, Nat.mul_one] at hscale
      exact Nat.not_lt.2 hscale hm
  have hvalue : ((nearest (v * 10 ^ t) : Nat) : ℚ) / 10 ^ t = |v| := by
    have hpow : (10 : ℚ) ^ t = 10 ^ s * 10 ^ (t - s) := (pow_mul_pow_sub 10 hst).symm
    rw [hexact hst, h, hpow]
    push_cast
    field_simp
  rw [rounded?_eq_some ht hfit hfinest, hvalue, signedLike_abs]

/-! ## Signs -/

/-- The factor of a sign. -/
def sgn (negative : Bool) : ℚ := if negative then -1 else 1

theorem abs_sgn (negative : Bool) : |sgn negative| = 1 := by
  cases negative <;> simp [sgn]

theorem toRat_eq (x : Decimal) : x.toRat = sgn x.negative * (x.mantissa / 10 ^ x.scale) := by
  rw [toRat, signed, tenPow, sgn]
  cases x.negative <;> simp [neg_div]

theorem toRat_eq_div {x : Decimal} {m s : Nat}
    (hx : (x.negative, x.mantissa, x.scale) = (false, m, s)) : x.toRat = m / 10 ^ s := by
  simp only [Prod.mk.injEq] at hx
  obtain ⟨hnegative, rfl, rfl⟩ := hx
  rw [toRat_eq, hnegative]
  simp [sgn]

theorem abs_toRat (x : Decimal) : |x.toRat| = x.mantissa / 10 ^ x.scale := by
  have hnonneg : (0 : ℚ) ≤ x.mantissa / 10 ^ x.scale := by positivity
  rw [toRat_eq, abs_mul, abs_sgn, one_mul, abs_of_nonneg hnonneg]

/-- A decimal is its own rounding. -/
theorem rounded?_toRat (x : Decimal) : rounded? x.toRat = some x.toRat :=
  rounded?_of_fits x.mantissa_lt x.scale_le (abs_toRat x)

/-- A magnitude gets the sign of the number that it is a rounding of. -/
theorem signedLike_eq (negative : Bool) {v w : ℚ} (hv : 0 ≤ v) (h : v = 0 → w = 0) :
    signedLike (sgn negative * v) w = sgn negative * w := by
  rcases hv.eq_or_lt with hzero | hpos
  · rw [h hzero.symm, mul_zero, signedLike, neg_zero, ite_self]
  · cases negative with
    | false => rw [signedLike, sgn, if_neg (by simpa using hv)]; simp
    | true => rw [signedLike, sgn, if_pos (by simpa using hpos)]; simp

theorem nearest_zero : nearest 0 = 0 := by exact_mod_cast nearest_natCast 0

theorem signedLike_neg {v w : ℚ} (h : v = 0 → w = 0) : signedLike (-v) w = -signedLike v w := by
  rcases lt_trichotomy v 0 with hneg | rfl | hpos
  · rw [signedLike, signedLike, if_neg (by linarith), if_pos hneg, neg_neg]
  · rw [h rfl, neg_zero, signedLike, neg_zero, ite_self, neg_zero]
  · rw [signedLike, signedLike, if_pos (by linarith), if_neg (by linarith)]

/-- Rounding is the same on both sides of zero. -/
theorem rounded?_neg (v : ℚ) : rounded? (-v) = (rounded? v).map Neg.neg := by
  have hnearest (s : Nat) : nearest (-v * 10 ^ s) = nearest (v * 10 ^ s) :=
    nearest_congr (by rw [neg_mul, abs_neg])
  have hsigned (s : Nat) : signedLike (-v) (nearest (v * 10 ^ s) / 10 ^ s) =
      -signedLike v (nearest (v * 10 ^ s) / 10 ^ s) :=
    signedLike_neg fun hzero => by rw [hzero, zero_mul, nearest_zero, Nat.cast_zero, zero_div]
  have hfrom (s : Nat) : roundedFrom? (-v) s = (roundedFrom? v s).map Neg.neg := by
    induction s with
    | zero =>
      have hnearest := hnearest 0
      have hsigned := hsigned 0
      rw [pow_zero, mul_one, mul_one] at hnearest
      rw [pow_zero, mul_one, div_one] at hsigned
      rw [roundedFrom?, roundedFrom?, hnearest, hsigned, apply_ite (Option.map Neg.neg)]
      rfl
    | succ s ih =>
      rw [roundedFrom?, roundedFrom?, hnearest, hsigned, ih, apply_ite (Option.map Neg.neg)]
      rfl
  exact hfrom maxScale

theorem rounded?_sgn_mul (negative : Bool) (v : ℚ) :
    rounded? (sgn negative * v) = (rounded? v).map (sgn negative * ·) := by
  cases negative with
  | false => simp [sgn]
  | true =>
    have hneg : (sgn true * ·) = (Neg.neg : ℚ → ℚ) := funext fun w => by simp [sgn]
    rw [hneg, ← rounded?_neg]
    simp [sgn]

/-! ## The operations -/

theorem roundedFrom?_of_full {v : ℚ} {s t : Nat} (h : capacity ≤ nearest (v * 10 ^ s))
    (hst : s ≤ t) : roundedFrom? v t = roundedFrom? v s := by
  induction t with
  | zero => rw [Nat.le_zero.1 hst]
  | succ t ih =>
    rcases Nat.eq_or_lt_of_le hst with rfl | hlt
    · rfl
    · have hfull := capacity_le_nearest h hst
      rw [roundedFrom?, if_neg (Nat.not_lt.2 hfull), ih (Nat.le_of_lt_succ hlt)]

theorem divHalfEven_zero {d : Nat} (hd : 0 < d) : divHalfEven 0 d = 0 := by
  simpa using divHalfEven_mul 0 hd

/-- The sign of a rounded value stays, unless nothing is left. -/
theorem and_ne_zero {q : Nat} (negative : Bool) (h : q ≠ 0) : (negative && q != 0) = negative := by
  simp [h]

/-- A mantissa that is rounded from a magnitude has its value, whether or not the zero keeps the
sign. -/
theorem toRat_of_rounded (negative : Bool) (m k t : Nat) {x : Decimal}
    (hmantissa : x.mantissa = divHalfEven (m * tenPow t) (tenPow k)) (hscale : x.scale = t)
    (hnegative : x.mantissa ≠ 0 → x.negative = negative) :
    x.toRat = signedLike (sgn negative * (m / 10 ^ k)) (x.mantissa / 10 ^ t) := by
  have hnonneg : (0 : ℚ) ≤ m / 10 ^ k := by positivity
  have hzero : (m : ℚ) / 10 ^ k = 0 → (x.mantissa : ℚ) / 10 ^ t = 0 := by
    intro h
    have hm : m = 0 := by simpa using h
    rw [hmantissa, hm, Nat.zero_mul, divHalfEven_zero (tenPow_pos k), Nat.cast_zero, zero_div]
  rw [signedLike_eq negative hnonneg hzero, toRat_eq, hscale]
  by_cases hx : x.mantissa = 0
  · simp [hx]
  · rw [hnegative hx]

theorem nearest_fraction (negative : Bool) (m k t : Nat) :
    nearest (sgn negative * (m / 10 ^ k) * 10 ^ t) = divHalfEven (m * tenPow t) (tenPow k) := by
  have hnonneg : (0 : ℚ) ≤ m / 10 ^ k := by positivity
  refine nearest_eq (tenPow_pos k) ?_
  rw [abs_mul_tenPow, abs_mul, abs_sgn, one_mul, abs_of_nonneg hnonneg, div_mul_eq_mul_div]
  simp [tenPow]

theorem value_fitBy? (negative : Bool) (m k : Nat) {s : Nat} (hs : s ≤ maxScale) :
    (fitBy? divHalfEven negative m (tenPow k) s hs).map toRat =
      roundedFrom? (sgn negative * (m / 10 ^ k)) s := by
  induction s with
  | zero =>
    have hnearest := nearest_fraction negative m k 0
    rw [pow_zero, mul_one] at hnearest
    have hone : m * tenPow 0 = m := Nat.mul_one m
    rw [fitBy?, roundedFrom?, hnearest, hone]
    split
    · rename_i hfit
      rw [Option.map_some, toRat_of_rounded negative m k 0 (by rw [hone]) rfl]
      · simp
      · exact and_ne_zero negative
    · rfl
  | succ s ih =>
    rw [fitBy?, roundedFrom?, nearest_fraction]
    split
    · rename_i hfit
      rw [Option.map_some, toRat_of_rounded negative m k (s + 1) rfl rfl]
      exact and_ne_zero negative
    · exact ih _

/-- The rounding step is correct. -/
theorem value_fit? (negative : Bool) (m s : Nat) :
    (fit? negative m s).map toRat = rounded? (sgn negative * (m / 10 ^ s)) := by
  rw [fit?, value_fitBy?]
  rcases Nat.le_total s maxScale with hs | hs
  · rw [Nat.min_eq_left hs]
    have hexact : nearest (sgn negative * (m / 10 ^ s) * 10 ^ s) = m := by
      rw [nearest_fraction, divHalfEven_mul m (tenPow_pos s)]
    by_cases hm : m < capacity
    · have hnonneg : (0 : ℚ) ≤ m / 10 ^ s := by positivity
      have habs : |sgn negative * ((m : ℚ) / 10 ^ s)| = m / 10 ^ s := by
        rw [abs_mul, abs_sgn, one_mul, abs_of_nonneg hnonneg]
      have hlike := signedLike_abs (sgn negative * ((m : ℚ) / 10 ^ s))
      rw [habs] at hlike
      rw [rounded?_of_fits hm hs habs,
        roundedFrom?_eq_some (Nat.le_refl s) (by rwa [hexact]) (.inl rfl), hexact, hlike]
    · exact (roundedFrom?_of_full (by rw [hexact]; exact Nat.not_lt.1 hm) hs).symm
  · rw [Nat.min_eq_right hs]
    rfl

theorem negative_of_fitBy? {negative : Bool} {num den s : Nat} {hs : s ≤ maxScale} {z : Decimal}
    (h : fitBy? divHalfEven negative num den s hs = some z) (hz : z.mantissa ≠ 0) :
    z.negative = negative := by
  induction s with
  | zero =>
    rw [fitBy?] at h
    split at h
    · cases h
      exact and_ne_zero negative hz
    · cases h
  | succ s ih =>
    rw [fitBy?] at h
    split at h
    · cases h
      exact and_ne_zero negative hz
    · exact ih h

theorem toRat_zero : zero.toRat = 0 := (toRat_eq_zero_iff zero).2 rfl

/-- What is less than half of the last place is rounded to zero. -/
theorem rounded?_eq_zero {v : ℚ} (h : |v| * 10 ^ maxScale < 1 / 2) : rounded? v = some 0 := by
  have hnearest : nearest (v * 10 ^ maxScale) = 0 := by
    have hle := (nearest_bounds (v * 10 ^ maxScale)).1
    rw [abs_mul_tenPow] at hle
    have hlt : (nearest (v * 10 ^ maxScale) : ℚ) < 1 := by
      have hsum := add_lt_add_left h (1 / 2)
      rw [add_halves] at hsum
      exact hle.trans_lt hsum
    exact Nat.lt_one_iff.1 (by exact_mod_cast hlt)
  have hfit : nearest (v * 10 ^ maxScale) < capacity := by
    rw [hnearest]
    decide
  rw [rounded?_eq_some (Nat.le_refl _) hfit (.inl rfl), hnearest, signedLike, Nat.cast_zero,
    zero_div, neg_zero, ite_self]

theorem rounded?_zero : rounded? 0 = some 0 := rounded?_eq_zero (by norm_num)

theorem toRat_mul (x y : Decimal) : x.toRat * y.toRat =
    sgn (x.negative != y.negative) *
      ((x.mantissa * y.mantissa : Nat) / 10 ^ (x.scale + y.scale)) := by
  have hsgn : sgn x.negative * sgn y.negative = sgn (x.negative != y.negative) := by
    cases x.negative <;> cases y.negative <;> simp [sgn]
  rw [toRat_eq, toRat_eq, ← hsgn, pow_add]
  push_cast
  field_simp

/-- Products are rounded correctly. -/
theorem value_mul? (x y : Decimal) : (x.mul? y).map toRat = rounded? (x.toRat * y.toRat) := by
  rw [mul?.eq_def]
  dsimp only
  split
  · rename_i hzero
    have hproduct : x.toRat * y.toRat = 0 := by
      rw [mul_eq_zero, toRat_eq_zero_iff, toRat_eq_zero_iff]
      simpa using hzero
    rw [hproduct, rounded?_zero, Option.map_some, toRat_zero]
  · rw [toRat_mul]
    split
    · rename_i hshort
      split
      · rename_i hscale
        have hproduct : ((x.mantissa * y.mantissa : Nat) : ℚ) ≤ 2 ^ 64 := by
          have hle := Nat.mul_le_mul (Nat.le_of_lt hshort.1) (Nat.le_of_lt hshort.2)
          exact_mod_cast hle
        have hpow : (10 : ℚ) ^ 48 ≤ 10 ^ (x.scale + y.scale) :=
          pow_le_pow_right₀ (by norm_num) hscale
        have hnonneg : (0 : ℚ) ≤ (x.mantissa * y.mantissa : Nat) / 10 ^ (x.scale + y.scale) := by
          positivity
        have hsmall : ((x.mantissa * y.mantissa : Nat) : ℚ) / 10 ^ (x.scale + y.scale) ≤
            2 ^ 64 / 10 ^ 48 := div_le_div₀ (by positivity) hproduct (by positivity) hpow
        rw [Option.map_some, toRat_zero, rounded?_eq_zero]
        rw [abs_mul, abs_sgn, one_mul, abs_of_nonneg hnonneg]
        norm_num at hsmall ⊢
        linarith
      · exact value_fit? _ _ _
    · rw [← value_fit?]
      cases hfit :
        fit? (x.negative != y.negative) (x.mantissa * y.mantissa) (x.scale + y.scale) with
      | none => rfl
      | some z =>
        rw [Option.map_some, Option.map_some, Option.map_some, Option.some_inj, toRat_eq, toRat_eq]
        by_cases hz : z.mantissa = 0
        · simp [hz]
        · rw [negative_of_fitBy? hfit hz]

theorem signedAt_eq (x : Decimal) {s : Nat} (hs : x.scale ≤ s) :
    (x.signedAt s : ℚ) = x.toRat * 10 ^ s := by
  have hpow : (10 : ℚ) ^ s = 10 ^ x.scale * 10 ^ (s - x.scale) := (pow_mul_pow_sub 10 hs).symm
  rw [signedAt, toRat, hpow]
  simp only [tenPow, Nat.pow_eq]
  push_cast
  field_simp

theorem sgn_mul_natAbs (n : ℤ) : sgn (decide (n < 0)) * n.natAbs = n := by
  rw [sgn, Nat.cast_natAbs, Int.cast_abs]
  by_cases h : n < 0
  · have hcast : (n : ℚ) < 0 := by exact_mod_cast h
    rw [decide_eq_true h, if_pos rfl, abs_of_neg hcast, neg_one_mul, neg_neg]
  · have hcast : (0 : ℚ) ≤ n := by exact_mod_cast not_lt.1 h
    rw [decide_eq_false h, if_neg Bool.false_ne_true, abs_of_nonneg hcast, one_mul]

/-- Sums are rounded correctly. -/
theorem value_add? (x y : Decimal) : (x.add? y).map toRat = rounded? (x.toRat + y.toRat) := by
  rw [add?]
  split
  · rename_i hzero
    rw [(toRat_eq_zero_iff x).2 hzero, zero_add, rounded?_toRat, Option.map_some]
  · split
    · rename_i hzero
      rw [(toRat_eq_zero_iff y).2 hzero, add_zero, rounded?_toRat, Option.map_some]
    · have hsum : ((x.signedAt (max x.scale y.scale) + y.signedAt (max x.scale y.scale) : ℤ) : ℚ) =
          (x.toRat + y.toRat) * 10 ^ max x.scale y.scale := by
        rw [Int.cast_add, signedAt_eq x (le_max_left _ _), signedAt_eq y (le_max_right _ _),
          add_mul]
      dsimp only
      rw [value_fit?, ← mul_div_assoc, sgn_mul_natAbs, hsum,
        mul_div_cancel_right₀ _ (by positivity)]

/-- Differences are rounded correctly. -/
theorem value_sub? (x y : Decimal) : (x.sub? y).map toRat = rounded? (x.toRat - y.toRat) := by
  rw [sub?]
  split
  · rename_i hzero
    obtain ⟨hx, hy⟩ := Bool.and_eq_true_iff.1 hzero
    rw [(toRat_eq_zero_iff x).2 hx, (toRat_eq_zero_iff y).2 hy, sub_zero, rounded?_zero,
      Option.map_some, (toRat_eq_zero_iff y).2 hy]
  · rw [value_add?, toRat_neg, sub_eq_add_neg]

/-! ## What a rounding loses -/

/-- A rounding is taken at a scale, and at no finer one there was room. -/
theorem exists_scale_of_rounded {v z : ℚ} (h : rounded? v = some z) :
    ∃ s, z = signedLike v (nearest (v * 10 ^ s) / 10 ^ s) ∧
      (s = maxScale ∨ capacity ≤ nearest (v * 10 ^ (s + 1))) := by
  have hroom : nearest v < capacity := by
    refine Nat.lt_of_not_le fun hnone => ?_
    rw [rounded?_eq_none hnone] at h
    cases h
  obtain ⟨s, hs, hfit, hfinest⟩ := exists_finest hroom
  rw [rounded?_eq_some hs hfit hfinest, Option.some_inj] at h
  exact ⟨s, h.symm, hfinest⟩

/-- A rounding keeps 28 digits, or 28 places. -/
theorem abs_sub_le_of_rounded {v z : ℚ} (h : rounded? v = some z) :
    |z - v| ≤ (1 / 2 + |v|) / 10 ^ 28 := by
  obtain ⟨s, h, hfinest⟩ := exists_scale_of_rounded h
  have hpow : (0 : ℚ) < 10 ^ s := by positivity
  have hhalf : |z - v| ≤ 1 / 2 / 10 ^ s := by
    obtain ⟨hupper, hlower⟩ := nearest_bounds (v * 10 ^ s)
    rw [abs_mul_tenPow] at hupper hlower
    generalize (nearest (v * 10 ^ s) : ℚ) = n at h hupper hlower
    have hscaled : n / 10 ^ s - |v| = (n - |v| * 10 ^ s) / 10 ^ s := by
      rw [sub_div, mul_div_cancel_right₀ _ (ne_of_gt hpow)]
    have hle : |n - (|v|) * 10 ^ s| ≤ 1 / 2 := abs_le.2 ⟨by linarith, by linarith⟩
    rw [h, abs_signedLike_sub, hscaled, abs_div, abs_of_pos hpow]
    exact div_le_div_of_nonneg_right hle hpow.le
  refine hhalf.trans ?_
  rw [div_le_div_iff₀ hpow (by positivity)]
  rcases hfinest with rfl | hfinest
  · rw [add_mul]
    exact le_add_of_nonneg_right (mul_nonneg (abs_nonneg v) hpow.le)
  · have hfull : (capacity : ℚ) ≤ |v| * 10 ^ (s + 1) + 1 / 2 := by
      rw [← abs_mul_tenPow]
      exact le_trans (by exact_mod_cast hfinest) (nearest_bounds _).1
    rw [pow_succ] at hfull
    norm_num at hfull ⊢
    linarith

theorem nonneg_of_rounded {v z : ℚ} (hv : 0 ≤ v) (h : rounded? v = some z) : 0 ≤ z := by
  obtain ⟨s, rfl, -⟩ := exists_scale_of_rounded h
  rw [signedLike, if_neg (not_lt.2 hv)]
  positivity

theorem nonpos_of_rounded {v z : ℚ} (hv : v ≤ 0) (h : rounded? v = some z) : z ≤ 0 := by
  have hneg : rounded? (-v) = some (-z) := by
    rw [rounded?_neg, h]
    rfl
  exact neg_nonneg.1 (nonneg_of_rounded (neg_nonneg.2 hv) hneg)

/-- What is small enough has a rounding. -/
theorem exists_rounded {v : ℚ} (h : |v| < capacity - 1 / 2) : ∃ z, rounded? v = some z := by
  have hfit : nearest v < capacity := by
    have hlt : (nearest v : ℚ) < capacity := (nearest_bounds v).1.trans_lt (lt_sub_iff_add_lt.1 h)
    exact_mod_cast hlt
  obtain ⟨s, hs, hroom, hfinest⟩ := exists_finest hfit
  exact ⟨_, rounded?_eq_some hs hroom hfinest⟩

end Decimal

end Reckoner
