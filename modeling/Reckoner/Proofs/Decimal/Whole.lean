import Mathlib.Algebra.Order.Floor.Ring
import Mathlib.Data.Rat.Floor
import Reckoner.Error
import Reckoner.Proofs.Decimal.Rounding

/-!
# Whole decimals

A decimal that stands for an integer is whole (`isWhole_of_toRat`), is that integer
(`toInteger_of_toRat`) if a 64-bit word has room for it (`IsWord`), and rounding to whole numbers
leaves its value as it is (`toRat_roundPlaces_zero`).  Whole numbers are never passed by rounding
(`le_abs_of_rounded`), nor is any value that has room (`abs_le_of_rounded`), and integers over
powers of ten are not rounded (`rounded?_intDiv`).  Rounding up gives the next whole number
(`toRat_ceil`).
-/

namespace Reckoner

/-- Whether a signed 64-bit word has room for an integer. -/
def FitsInt64 (n : Int) : Prop := Decimal.int64Min ≤ n ∧ n ≤ Decimal.int64Max

instance (n : Int) : Decidable (FitsInt64 n) := inferInstanceAs (Decidable (_ ∧ _))

/-- Whether a signed 32-bit word has room for an integer. -/
def FitsInt32 (n : Int) : Prop := -2147483648 ≤ n ∧ n ≤ 2147483647

instance (n : Int) : Decidable (FitsInt32 n) := inferInstanceAs (Decidable (_ ∧ _))

namespace Decimal

variable {x : Decimal} {n : Int} {o : Nat}

theorem abs_intCast (n : Int) : |(n : ℚ)| = n.natAbs := by
  rw [← Int.cast_abs, Int.abs_eq_natAbs, Int.cast_natCast]

theorem mantissa_of_toRat (h : x.toRat = n) : x.mantissa = n.natAbs * tenPow x.scale := by
  have habs := abs_toRat x
  rw [h, abs_intCast] at habs
  have hpow : (10 : ℚ) ^ x.scale ≠ 0 := by positivity
  have hvalue : ((n.natAbs * tenPow x.scale : Nat) : ℚ) = x.mantissa := by
    rw [Nat.cast_mul, cast_tenPow, habs, div_mul_cancel₀ _ hpow]
  exact_mod_cast hvalue.symm

theorem isWhole_of_toRat (h : x.toRat = n) : x.isWhole = true := by
  rw [isWhole, mantissa_of_toRat h, Nat.mul_mod_left]
  rfl

theorem toInt_eq (x : Decimal) : x.toInt =
    if x.negative then -((x.mantissa / tenPow x.scale : Nat) : Int)
    else (x.mantissa / tenPow x.scale : Nat) := rfl

theorem toRat_of_isWhole (h : x.isWhole = true) : x.toRat = x.toInt := by
  have hdvd : x.mantissa / tenPow x.scale * tenPow x.scale = x.mantissa :=
    Nat.div_mul_cancel (Nat.dvd_of_mod_eq_zero (eq_of_beq h))
  have hpow : (10 : ℚ) ^ x.scale ≠ 0 := by positivity
  have hvalue : (x.mantissa : ℚ) / 10 ^ x.scale = (x.mantissa / tenPow x.scale : Nat) := by
    conv_lhs => rw [← hdvd]
    rw [Nat.cast_mul, cast_tenPow, mul_div_cancel_right₀ _ hpow]
  rw [toRat_eq, hvalue, toInt_eq, sgn]
  generalize x.mantissa / tenPow x.scale = q
  cases x.negative <;> simp

theorem toInt_of_toRat (h : x.toRat = n) : x.toInt = n := by
  have hvalue := toRat_of_isWhole (isWhole_of_toRat h)
  rw [h] at hvalue
  exact_mod_cast hvalue.symm

/-- A factor without twos and fives makes no number whole. -/
theorem isWhole_mul_iff {x y : Decimal} {k : Nat} (hk : Nat.Coprime 10 k)
    (h : y.toRat = k * x.toRat) : y.isWhole = true ↔ x.isWhole = true := by
  constructor
  · intro hy
    have hvalue := toRat_of_isWhole hy
    have habs : (y.toInt.natAbs : ℚ) = k * (x.mantissa / 10 ^ x.scale) := by
      rw [← abs_intCast, ← hvalue, h, abs_mul, abs_toRat, Nat.abs_cast]
    have hpow : (10 : ℚ) ^ x.scale ≠ 0 := by positivity
    have hproduct : y.toInt.natAbs * tenPow x.scale = k * x.mantissa := by
      have hcast : ((y.toInt.natAbs * tenPow x.scale : Nat) : ℚ) = (k * x.mantissa : Nat) := by
        rw [Nat.cast_mul, habs, cast_tenPow, Nat.cast_mul, mul_assoc, div_mul_cancel₀ _ hpow]
      exact_mod_cast hcast
    have hcoprime : Nat.Coprime (tenPow x.scale) k := Nat.Coprime.pow_left _ hk
    have hdvd : tenPow x.scale ∣ x.mantissa :=
      hcoprime.dvd_of_dvd_mul_left (Dvd.intro_left _ hproduct)
    rw [isWhole, Nat.mod_eq_zero_of_dvd hdvd]
    rfl
  · intro hx
    refine isWhole_of_toRat (n := k * x.toInt) ?_
    rw [h, toRat_of_isWhole hx]
    push_cast
    rfl

theorem toInteger_of_toRat (h : x.toRat = n) (hfits : FitsInt64 n) : x.toInteger o = .ok n := by
  rw [toInteger, isWhole_of_toRat h, if_neg (by decide), toInt64?, toInt_of_toRat h]
  exact congrArg (orFail o _) (if_pos hfits)

theorem toInteger_of_not_fits (h : x.toRat = n) (hfits : ¬FitsInt64 n) :
    x.toInteger o = failAt o (.domain .integerTooLarge) := by
  rw [toInteger, isWhole_of_toRat h, if_neg (by decide), toInt64?, toInt_of_toRat h]
  exact congrArg (orFail o _) (if_neg hfits)

theorem toRat_of_toInteger (h : x.toInteger o = .ok n) : x.toRat = n := by
  cases hwhole : x.isWhole with
  | false =>
    rw [toInteger, hwhole] at h
    cases h
  | true =>
    have hvalue := toRat_of_isWhole hwhole
    by_cases hfits : FitsInt64 x.toInt
    · rw [toInteger_of_toRat hvalue hfits] at h
      cases h
      exact hvalue
    · rw [toInteger_of_not_fits hvalue hfits] at h
      cases h

/-- Rounding to whole numbers changes no whole number. -/
theorem toRat_roundPlaces_zero (h : x.toRat = n) : (x.roundPlaces 0 .toEven).toRat = n := by
  rw [← h, roundPlaces]
  split
  · rename_i hzero
    rw [(toRat_eq_zero_iff x).2 hzero]
    exact (toRat_eq_zero_iff _).2 hzero
  · split
    · rfl
    · rename_i hzero hscale
      have hmantissa := mantissa_of_toRat h
      have hquotient : Tie.toEven.divide x.mantissa (tenPow (x.scale - 0)) = n.natAbs := by
        rw [hmantissa]
        exact divHalfEven_mul n.natAbs (tenPow_pos x.scale)
      have hne : n.natAbs ≠ 0 := by
        intro hn
        rw [hn, Nat.zero_mul] at hmantissa
        exact hzero (by rw [isZero, hmantissa]; rfl)
      have hpow : (10 : ℚ) ^ x.scale ≠ 0 := by positivity
      rw [toRat_eq, toRat_eq]
      dsimp only
      rw [hquotient, and_ne_zero _ hne, pow_zero, div_one]
      conv_rhs => rw [hmantissa, Nat.cast_mul, cast_tenPow, mul_div_cancel_right₀ _ hpow]

/-- Rounding to whole numbers leads no value past a whole number. -/
theorem le_abs_roundPlaces_zero {m : Nat} (h : (m : ℚ) ≤ |x.toRat|) :
    (m : ℚ) ≤ |(x.roundPlaces 0 .toEven).toRat| := by
  rw [roundPlaces]
  split
  · rename_i hzero
    rw [(toRat_eq_zero_iff x).2 hzero, abs_zero] at h
    exact h.trans (abs_nonneg _)
  · split
    · exact h
    · have hpow : (0 : ℚ) < 10 ^ x.scale := by positivity
      rw [abs_toRat, le_div_iff₀ hpow, ← cast_tenPow] at h
      have hle : m ≤ Tie.toEven.divide x.mantissa (tenPow (x.scale - 0)) := by
        refine Nat.le_trans ?_ (div_le_divHalfEven x.mantissa (tenPow x.scale))
        rw [Nat.le_div_iff_mul_le (tenPow_pos _)]
        exact_mod_cast h
      rw [abs_toRat, pow_zero, div_one]
      exact_mod_cast hle

theorem abs_signedLike (v w : ℚ) : |signedLike v w| = |w| := by
  rw [signedLike]
  split
  · exact abs_neg w
  · rfl

/-- Rounding to decimals leads no value past a whole number. -/
theorem le_abs_of_rounded {v z : ℚ} {m : Nat} (h : rounded? v = some z) (hm : (m : ℚ) ≤ |v|) :
    (m : ℚ) ≤ |z| := by
  obtain ⟨s, rfl, -⟩ := exists_scale_of_rounded h
  have hpow : (0 : ℚ) < 10 ^ s := by positivity
  have hle : m * 10 ^ s ≤ nearest (v * 10 ^ s) := by
    refine le_nearest ?_
    rw [abs_mul_tenPow]
    push_cast
    exact mul_le_mul_of_nonneg_right hm hpow.le
  rw [abs_signedLike, abs_of_nonneg (by positivity), le_div_iff₀ hpow]
  exact_mod_cast hle

/-- Rounding leads no value past one that has room. -/
theorem abs_le_of_rounded {v z : ℚ} {m s : Nat} (h : rounded? v = some z) (hm : m < capacity)
    (hs : s ≤ maxScale) (hv : |v| ≤ m / 10 ^ s) : |z| ≤ m / 10 ^ s := by
  have hpow (r : Nat) : (0 : ℚ) < 10 ^ r := by positivity
  have hvs : |v| * 10 ^ s ≤ m := (le_div_iff₀ (hpow s)).1 hv
  obtain ⟨t, rfl, hfinest⟩ := exists_scale_of_rounded h
  rw [abs_signedLike, abs_of_nonneg (by positivity)]
  by_cases hst : s ≤ t
  · have hsplit : (10 : ℚ) ^ t = 10 ^ s * 10 ^ (t - s) := (pow_mul_pow_sub 10 hst).symm
    have hle : nearest (v * 10 ^ t) ≤ m * 10 ^ (t - s) := by
      refine nearest_le ?_
      rw [abs_mul_tenPow, hsplit, ← mul_assoc]
      push_cast
      exact mul_le_mul_of_nonneg_right hvs (hpow _).le
    have hscale : (m : ℚ) / 10 ^ s = m * 10 ^ (t - s) / 10 ^ t := by
      rw [hsplit, mul_div_mul_right _ _ (ne_of_gt (hpow _))]
    rw [hscale]
    exact div_le_div_of_nonneg_right (by exact_mod_cast hle) (hpow t).le
  · -- At the next finer scale the rounding had room, since the bound has at a finer one still.
    have hlt : t + 1 ≤ s := Nat.lt_of_not_le hst
    have hfit : nearest (v * 10 ^ (t + 1)) ≤ m := by
      refine nearest_le ?_
      rw [abs_mul_tenPow]
      refine le_trans (mul_le_mul_of_nonneg_left ?_ (abs_nonneg v)) hvs
      exact pow_le_pow_right₀ (by norm_num) hlt
    rcases hfinest with rfl | hfull
    · exact absurd hlt (Nat.not_le_of_lt (Nat.lt_succ_of_le hs))
    · exact absurd (hfull.trans hfit) (Nat.not_le_of_lt hm)

theorem abs_toRat_lt (x : Decimal) : |x.toRat| < capacity := by
  have hpow : (1 : ℚ) ≤ 10 ^ x.scale := one_le_pow₀ (by norm_num)
  have hmantissa : (x.mantissa : ℚ) < capacity := by exact_mod_cast x.mantissa_lt
  rw [abs_toRat]
  exact (div_le_self (Nat.cast_nonneg _) hpow).trans_lt hmantissa

theorem toRat_ofInt (h : n.natAbs < capacity) : (ofInt n).toRat = n := by
  have hparts : ofInt n =
      { negative := decide (n < 0), mantissa := n.natAbs, scale := 0, mantissa_lt := h } := by
    rw [ofInt, dif_pos h]
  rw [hparts, toRat_eq, pow_zero, div_one]
  exact sgn_mul_natAbs n

theorem toRat_ofNat {m : Nat} (h : m < capacity) : (ofNat m).toRat = m := by
  rw [ofNat]
  exact (toRat_ofInt (n := m) h).trans (Int.cast_natCast m)

/-! ## Words -/

/-- The decimal stands for an integer that a signed 64-bit word has room for. -/
structure IsWord (x : Decimal) (n : Int) : Prop where
  toRat_eq : x.toRat = n
  fits : FitsInt64 n

theorem IsWord.toInteger (h : x.IsWord n) : x.toInteger o = .ok n :=
  toInteger_of_toRat h.toRat_eq h.fits

theorem isWord_ofInt (h : FitsInt64 n) : (ofInt n).IsWord n := by
  refine ⟨toRat_ofInt ?_, h⟩
  rw [FitsInt64, int64Min, int64Max] at h
  rw [capacity]
  omega

/-! ## Rounding of fractions of tens -/

/-- Fractions of tens with room for their numerators are not rounded. -/
theorem rounded?_intDiv (hn : n.natAbs < capacity) {p : Nat} (hp : p ≤ maxScale) :
    rounded? ((n : ℚ) / 10 ^ p) = some ((n : ℚ) / 10 ^ p) := by
  refine rounded?_of_fits hn hp ?_
  rw [abs_div, abs_intCast, abs_of_pos (by positivity : (0 : ℚ) < 10 ^ p)]

theorem rounded?_intCast (hn : n.natAbs < capacity) : rounded? (n : ℚ) = some (n : ℚ) := by
  simpa using rounded?_intDiv hn (Nat.zero_le maxScale)

/-- Thousandths are not rounded. -/
theorem rounded?_thousandths (hn : n.natAbs < capacity) :
    rounded? ((n : ℚ) / 1000) = some ((n : ℚ) / 1000) := by
  have hexact := rounded?_intDiv hn (by decide : 3 ≤ maxScale)
  rwa [show (10 : ℚ) ^ 3 = 1000 by norm_num] at hexact

theorem toRat_ofThousandths (hn : n.natAbs < capacity) :
    (ofThousandths n).toRat = (n : ℚ) / 1000 := by
  have hvalue := value_fit? (decide (n < 0)) n.natAbs 3
  have hexact : sgn (decide (n < 0)) * ((n.natAbs : ℚ) / 10 ^ 3) = n / 1000 := by
    rw [← mul_div_assoc, sgn_mul_natAbs]
    norm_num
  rw [hexact, rounded?_thousandths hn] at hvalue
  obtain ⟨y, hy, hvalue⟩ := Option.map_eq_some_iff.1 hvalue
  rw [ofThousandths, hy]
  exact hvalue

theorem toRat_normalize (x : Decimal) : x.normalize.toRat = x.toRat := by
  have hsigned := signed_normalize x
  have hleft := tenPow_cast_pos x.scale
  have hright := tenPow_cast_pos x.normalize.scale
  rw [toRat, toRat, div_eq_div_iff (ne_of_gt hright) (ne_of_gt hleft)]
  exact_mod_cast hsigned.symm

/-! ## Rounding up to whole numbers -/

/-- What is not whole lies between two whole numbers. -/
theorem exists_fraction {x : Decimal} (h : x.isWhole = false) :
    ∃ (q : Nat) (r : ℚ), x.mantissa / tenPow x.scale = q ∧ q + 1 < capacity ∧ 0 < r ∧ r < 1 ∧
      x.toRat = sgn x.negative * (q + r) := by
  have hpow := tenPow_cast_pos x.scale
  have hsplit := Nat.div_add_mod x.mantissa (tenPow x.scale)
  have hlt : x.mantissa % tenPow x.scale < tenPow x.scale := Nat.mod_lt _ (tenPow_pos _)
  have hrest : 0 < x.mantissa % tenPow x.scale := by
    rw [isWhole, beq_eq_false_iff_ne] at h
    exact Nat.pos_of_ne_zero h
  generalize x.mantissa / tenPow x.scale = q at hsplit ⊢
  generalize x.mantissa % tenPow x.scale = rest at hsplit hlt hrest
  refine ⟨q, rest / tenPow x.scale, rfl, ?_, ?_, ?_, ?_⟩
  · have hle : q ≤ tenPow x.scale * q := Nat.le_mul_of_pos_left q (tenPow_pos _)
    have := x.mantissa_lt
    omega
  · exact div_pos (by exact_mod_cast hrest) hpow
  · rw [div_lt_one hpow]
    exact_mod_cast hlt
  · rw [toRat_eq, ← cast_tenPow, ← hsplit]
    push_cast
    rw [add_div, mul_div_cancel_left₀ _ (ne_of_gt hpow)]

theorem toRat_ceil (x : Decimal) : x.ceil.toRat = ⌈x.toRat⌉ := by
  cases hwhole : x.isWhole with
  | true => rw [ceil, if_pos hwhole, toRat_of_isWhole hwhole, Int.ceil_intCast]
  | false =>
    obtain ⟨q, r, hq, hroom, hpos, hlt, hvalue⟩ := exists_fraction hwhole
    rw [ceil, if_neg (by simp [hwhole])]
    cases hnegative : x.negative with
    | true =>
      have hceil : ⌈x.toRat⌉ = -(q : ℤ) := by
        rw [Int.ceil_eq_iff, hvalue, hnegative, sgn]
        push_cast
        constructor <;> simp <;> linarith
      rw [if_pos rfl, hceil, toRat_eq]
      simp [trunc, hnegative, hq, sgn]
    | false =>
      have hceil : ⌈x.toRat⌉ = (q : ℤ) + 1 := by
        rw [Int.ceil_eq_iff, hvalue, hnegative, sgn]
        push_cast
        constructor <;> simp <;> linarith
      have hstep : x.trunc.mantissa + 1 < capacity := by
        show x.mantissa / tenPow x.scale + 1 < capacity
        rw [hq]
        exact hroom
      rw [if_neg Bool.false_ne_true, hceil, stepOut, dif_pos hstep, toRat_eq]
      simp [trunc, hnegative, hq, sgn]

end Decimal

end Reckoner
