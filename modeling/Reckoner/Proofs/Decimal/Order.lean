import Mathlib.Order.Compare
import Reckoner.Proofs.Decimal.Shown
import Reckoner.Proofs.Quantity.Size

/-!
# The order of decimals

Decimals are compared as the rational numbers they stand for.  A product with
one is the other factor, and the powers of one are one: nothing is rounded.
-/

namespace Reckoner

namespace Decimal

/-! ## Comparisons -/

theorem tenPow_cast_pos (n : Nat) : (0 : ℚ) < tenPow n := by exact_mod_cast tenPow_pos n

/-- Decimals are in the order of the numbers they stand for. -/
theorem compare_eq_cmp (x y : Decimal) : x.compare y = cmp x.toRat y.toRat := by
  have hx := tenPow_cast_pos x.scale
  have hy := tenPow_cast_pos y.scale
  have hscale : cmp x.toRat y.toRat =
      cmp (x.toRat * (tenPow x.scale * tenPow y.scale))
        (y.toRat * (tenPow x.scale * tenPow y.scale)) :=
    (cmp_mul_pos_right (mul_pos hx hy) _ _).symm
  have hleft : x.toRat * (tenPow x.scale * tenPow y.scale) =
      ((x.signed * tenPow y.scale : Int) : ℚ) := by
    rw [toRat]
    push_cast
    field_simp
  have hright : y.toRat * (tenPow x.scale * tenPow y.scale) =
      ((y.signed * tenPow x.scale : Int) : ℚ) := by
    rw [toRat]
    push_cast
    field_simp
  rw [hscale, hleft, hright, Int.cast_strictMono.cmp_map_eq, cmp_eq_compare]
  rfl

theorem sameValue_iff {x y : Decimal} : x.sameValue y = true ↔ x.toRat = y.toRat := by
  rw [sameValue, beq_iff_eq, compare_eq_cmp, cmp_eq_eq_iff]

/-! ## Products with one -/

/-- A value that has room is not rounded. -/
theorem fit?_of_lt (negative : Bool) {m s : Nat} (hm : m < capacity) (hs : s ≤ maxScale) :
    fit? negative m s = ofParts? (negative && m != 0) m s := by
  have hround := divHalfEven_mul m (tenPow_pos s)
  unfold fit?
  simp only [Nat.min_eq_left hs]
  cases s with
  | zero =>
    have hone : divHalfEven m (tenPow 0) = m := by
      rwa [show tenPow 0 = 1 from rfl, Nat.mul_one] at hround
    simp only [fitBy?, hone, dif_pos hm, ofParts?, dif_pos hs]
  | succ s => simp only [fitBy?, hround, dif_pos hm, ofParts?, dif_pos hs]

theorem ofParts?_self {x : Decimal} {negative : Bool} (h : x.negative = negative) :
    ofParts? negative x.mantissa x.scale = some x := by
  subst h
  rw [ofParts?, dif_pos x.mantissa_lt, dif_pos x.scale_le]

theorem mul?_one {x : Decimal} (h : x.isZero = false) : x.mul? one = some x := by
  have hfit : fit? x.negative x.mantissa x.scale = some x := by
    rw [fit?_of_lt _ x.mantissa_lt x.scale_le]
    refine ofParts?_self ?_
    have hmantissa : (x.mantissa != 0) = true := by simpa [isZero] using h
    rw [hmantissa, Bool.and_true]
  have hscale : ¬shortProductScale < x.scale := Nat.not_lt.2 (x.scale_le.trans (by decide))
  have hone : one.isZero = false := rfl
  rw [mul?.eq_def]
  dsimp only
  rw [h, hone, Bool.or_self, if_neg Bool.false_ne_true]
  rw [show one.mantissa = 1 from rfl, show one.scale = 0 from rfl,
    show one.negative = false from rfl, Nat.mul_one, Nat.add_zero, Bool.bne_false, hfit, if_neg hscale]
  split
  · rfl
  · rfl

/-- A product with one stands for the other factor. -/
theorem exists_mul?_one (x : Decimal) : ∃ y, x.mul? one = some y ∧ y.toRat = x.toRat := by
  cases h : x.isZero with
  | true =>
    refine ⟨zero, by simp [mul?, h], ?_⟩
    rw [(toRat_eq_zero_iff x).2 h, (toRat_eq_zero_iff zero).2 rfl]
  | false => exact ⟨x, mul?_one h, rfl⟩

theorem powInt?_one (n : Int) : one.powInt? n = some one := by
  have hpow (n : Nat) : one.powNat? n = some one := by
    have hsame : one.sameValue one = true := rfl
    have hone : one.isZero = false := rfl
    rw [powNat?]
    simp [hsame, hone]
  rw [powInt?]
  split
  · exact hpow _
  · rw [hpow]
    rfl

/-- Zero has positive powers only. -/
theorem powInt?_of_isZero {x : Decimal} {n : Int} (hx : x.isZero = true) (hn : n ≠ 0) :
    x.powInt? n = if n < 0 then none else some zero := by
  have hpow : x.powNat? n.natAbs = some zero := by
    rw [powNat?]
    simp [Int.natAbs_ne_zero.2 hn, hx]
  rw [powInt?, hpow]
  by_cases h : n < 0
  · rw [if_neg (not_le.2 h), if_pos h]
    rfl
  · rw [if_pos (not_lt.1 h), if_neg h]

end Decimal

end Reckoner
