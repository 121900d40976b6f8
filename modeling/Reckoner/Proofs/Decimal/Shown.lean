import Reckoner.Proofs.Decimal.Text

/-!
# Normal forms

A decimal without trailing zeros is the normal form of its value.

* `normalize_normalize` and `sameValue_of_normalize_eq`: normal forms are their
  own, and decimals with the same one have the same value.
* `shown_eq_render`: a value that has no more places than results show is shown
  as its normal form, with nothing rounded away.
-/

namespace Reckoner

theorem tenPow_add (a b : Nat) : tenPow (a + b) = tenPow a * tenPow b := Nat.pow_add 10 a b

namespace Decimal

/-! ## Trailing zeros -/

theorem stripZeros_spec (m s : Nat) :
    (stripZeros m s).1 * tenPow (s - (stripZeros m s).2) = m := by
  induction s generalizing m with
  | zero => exact Nat.mul_one m
  | succ s ih =>
    rw [stripZeros]
    split
    · rename_i hzero
      have hten : m / 10 * 10 = m := Nat.div_mul_cancel (Nat.dvd_of_mod_eq_zero (eq_of_beq hzero))
      rw [Nat.succ_sub (stripZeros_snd_le _ _), tenPow_succ, ← Nat.mul_assoc, ih, hten]
    · rw [Nat.sub_self]
      exact Nat.mul_one m

theorem stripZeros_stripZeros (m s : Nat) :
    stripZeros (stripZeros m s).1 (stripZeros m s).2 = stripZeros m s := by
  induction s generalizing m with
  | zero => rfl
  | succ s ih =>
    cases hzero : m % 10 == 0 with
    | true =>
      have hstrip : stripZeros m (s + 1) = stripZeros (m / 10) s := if_pos hzero
      rw [hstrip, ih]
    | false =>
      have hstrip : stripZeros m (s + 1) = (m, s + 1) := if_neg (by simp [hzero])
      rw [hstrip, hstrip]

/-- Zeros that were appended are taken away. -/
theorem stripZeros_mul_tenPow (m s k : Nat) :
    stripZeros (m * tenPow k) (s + k) = stripZeros m s := by
  induction k with
  | zero => rw [Nat.add_zero]; exact congrArg (stripZeros · s) (Nat.mul_one m)
  | succ k ih =>
    have hzero : (m * tenPow (k + 1) % 10 == 0) = true := by
      rw [tenPow_succ, ← Nat.mul_assoc, Nat.mul_mod_left]
      rfl
    rw [← Nat.add_assoc, stripZeros, if_pos hzero, tenPow_succ, ← Nat.mul_assoc,
      Nat.mul_div_cancel _ (by decide), ih]

/-! ## Normal forms -/

theorem normalize_of_isZero {x : Decimal} (h : x.isZero = true) : x.normalize = zero := if_pos h

theorem normalize_mantissa {x : Decimal} (h : x.isZero = false) :
    x.normalize.mantissa = (stripZeros x.mantissa x.scale).1 := by
  rw [normalize, if_neg (by simp [h])]

theorem normalize_scale {x : Decimal} (h : x.isZero = false) :
    x.normalize.scale = (stripZeros x.mantissa x.scale).2 := by
  rw [normalize, if_neg (by simp [h])]

theorem normalize_negative {x : Decimal} (h : x.isZero = false) :
    x.normalize.negative = x.negative := by
  rw [normalize, if_neg (by simp [h])]

theorem isZero_normalize (x : Decimal) : x.normalize.isZero = x.isZero := by
  cases hzero : x.isZero with
  | true => rw [normalize_of_isZero hzero]; rfl
  | false =>
    have hspec := stripZeros_spec x.mantissa x.scale
    simp only [isZero, beq_eq_false_iff_ne] at hzero ⊢
    rw [normalize_mantissa (by simpa [isZero] using hzero)]
    intro h
    rw [h, Nat.zero_mul] at hspec
    exact hzero hspec.symm

theorem eq_of_parts {x y : Decimal} (hnegative : x.negative = y.negative)
    (hmantissa : x.mantissa = y.mantissa) (hscale : x.scale = y.scale) : x = y := by
  cases x
  cases y
  simp_all

theorem normalize_normalize (x : Decimal) : x.normalize.normalize = x.normalize := by
  cases hzero : x.isZero with
  | true => rw [normalize_of_isZero hzero]; rfl
  | false =>
    have hzero' : x.normalize.isZero = false := by rw [isZero_normalize, hzero]
    have hstrip : stripZeros x.normalize.mantissa x.normalize.scale =
        stripZeros x.mantissa x.scale := by
      rw [normalize_mantissa hzero, normalize_scale hzero, stripZeros_stripZeros]
    refine eq_of_parts (normalize_negative hzero') ?_ ?_
    · rw [normalize_mantissa hzero', hstrip, normalize_mantissa hzero]
    · rw [normalize_scale hzero', hstrip, normalize_scale hzero]

/-- Both mantissas at the scale of the other. -/
theorem signed_normalize (x : Decimal) :
    x.signed * tenPow x.normalize.scale = x.normalize.signed * tenPow x.scale := by
  cases hzero : x.isZero with
  | true =>
    have hmantissa : x.mantissa = 0 := eq_of_beq hzero
    have hleft : x.signed = 0 := by simp [signed, hmantissa]
    have hright : x.normalize.signed = 0 := by rw [normalize_of_isZero hzero]; rfl
    rw [hleft, hright, Int.zero_mul, Int.zero_mul]
  | false =>
    have hspec : x.mantissa * tenPow x.normalize.scale = x.normalize.mantissa * tenPow x.scale := by
      have hstrip := stripZeros_spec x.mantissa x.scale
      have hle := stripZeros_snd_le x.mantissa x.scale
      rw [normalize_mantissa hzero, normalize_scale hzero]
      generalize stripZeros x.mantissa x.scale = stripped at hstrip hle
      calc x.mantissa * tenPow stripped.2
          = stripped.1 * tenPow (x.scale - stripped.2) * tenPow stripped.2 := by rw [hstrip]
        _ = stripped.1 * tenPow x.scale := by
          rw [Nat.mul_assoc, ← tenPow_add, Nat.sub_add_cancel hle]
    rw [signed, signed, normalize_negative hzero]
    split
    · rw [Int.neg_mul, Int.neg_mul]
      exact congrArg (-·) (by exact_mod_cast hspec)
    · exact_mod_cast hspec

/-- Decimals with the same normal form have the same value. -/
theorem sameValue_of_normalize_eq {x y : Decimal} (h : x.normalize = y.normalize) :
    x.sameValue y = true := by
  have hx := signed_normalize x
  have hy := signed_normalize y
  rw [h] at hx
  have hpos : (tenPow y.normalize.scale : Int) ≠ 0 := by
    exact_mod_cast Nat.ne_of_gt (tenPow_pos _)
  have heq : x.signed * tenPow y.scale = y.signed * tenPow x.scale := by
    refine Int.eq_of_mul_eq_mul_right hpos ?_
    calc x.signed * tenPow y.scale * tenPow y.normalize.scale
        = x.signed * tenPow y.normalize.scale * tenPow y.scale := by ac_rfl
      _ = y.normalize.signed * tenPow y.scale * tenPow x.scale := by rw [hx]; ac_rfl
      _ = y.signed * tenPow x.scale * tenPow y.normalize.scale := by rw [← hy]; ac_rfl
  rw [sameValue, compare, heq, beq_iff_eq]
  exact Std.ReflOrd.compare_self

/-! ## Shown values -/

theorem divHalfEven_mul (q : Nat) {d : Nat} (hd : 0 < d) : divHalfEven (q * d) d = q := by
  simp [divHalfEven, Nat.mul_mod_left, Nat.mul_div_cancel _ hd, hd]

/-- Nothing is rounded away of a value that has no more places than are
kept. -/
theorem normalize_roundPlaces {x : Decimal} {places : Nat} (h : x.normalize.scale ≤ places) :
    (x.roundPlaces places .toEven).normalize = x.normalize := by
  cases hzero : x.isZero with
  | true =>
    rw [normalize_of_isZero hzero]
    exact normalize_of_isZero (by rw [roundPlaces, if_pos hzero]; exact hzero)
  | false =>
    rw [roundPlaces, if_neg (by simp [hzero])]
    split
    · rfl
    · rename_i hscale
      rw [normalize_scale hzero] at h
      obtain ⟨k, hk⟩ := Nat.exists_eq_add_of_le (Nat.le_of_not_le hscale)
      obtain ⟨j, hj⟩ := Nat.exists_eq_add_of_le h
      have hspec := stripZeros_spec x.mantissa x.scale
      have hdigits : x.scale - (stripZeros x.mantissa x.scale).2 = j + k := by omega
      rw [hdigits, tenPow_add, ← Nat.mul_assoc] at hspec
      generalize hq : (stripZeros x.mantissa x.scale).1 * tenPow j = q at hspec
      have hround : Tie.toEven.divide x.mantissa (tenPow (x.scale - places)) = q := by
        rw [hk, Nat.add_sub_cancel_left, ← hspec]
        exact divHalfEven_mul q (tenPow_pos k)
      have hne : q ≠ 0 := by
        rintro rfl
        rw [Nat.zero_mul] at hspec
        simp [isZero, ← hspec] at hzero
      have hstrip : stripZeros q places = stripZeros x.mantissa x.scale := by
        rw [← hspec, hk, stripZeros_mul_tenPow]
      generalize hy : Decimal.mk _ _ _ _ _ = y
      have hmantissa : y.mantissa = q := by rw [← hy, ← hround]
      have hscale : y.scale = places := by rw [← hy]
      have hnegative : y.negative = x.negative := by
        rw [← hy]
        simp [hround, hne]
      have hyzero : y.isZero = false := by simp [isZero, hmantissa, hne]
      refine eq_of_parts ?_ ?_ ?_
      · rw [normalize_negative hyzero, normalize_negative hzero, hnegative]
      · rw [normalize_mantissa hyzero, normalize_mantissa hzero, hmantissa, hscale, hstrip]
      · rw [normalize_scale hyzero, normalize_scale hzero, hmantissa, hscale, hstrip]

/-- A value that has no more places than results show is shown as its normal
form. -/
theorem shown_eq_render {x : Decimal} (h : x.normalize.scale ≤ shownPlaces) :
    x.shown = x.normalize.render := by
  rw [shown, plain, normalize_roundPlaces h]

/-- The magnitude that is written without the sign is read as the value without
its sign. -/
theorem parseNumber?_abs (x : Decimal) :
    parseNumber? (renderMagnitude x.mantissa x.scale) = some x.abs := by
  rw [parseNumber?_renderMagnitude x.mantissa_lt x.scale_le]
  simp only [ofParts?, dif_pos x.mantissa_lt, dif_pos x.scale_le, abs]

theorem neg_abs {x : Decimal} (h : x.negative = true) : x.abs.neg = x :=
  eq_of_parts h.symm rfl rfl

theorem abs_eq {x : Decimal} (h : x.negative = false) : x.abs = x := eq_of_parts h.symm rfl rfl

end Decimal

end Reckoner
