import Mathlib.Tactic.Ring
import Reckoner.Proofs.Decimal.Rounding

/-!
# Long division rounds correctly

A quotient is the exact one, rounded once as every other result is
(`value_div?`), although its digits are found a few at a time.

* `Division.Stands` is what a division under way keeps: digits and rest make up
  the quotient, and the digits have room.  `Stands.append` is the step.
* `Settles` says that an outcome is the rounding.  `settles_close?` is for the end
  of a division that has no room for a further digit, and `settles_run?` follows
  the steps.
* The zeros that are taken away in the end do not change the value
  (`keeps_dropZeros`).
-/

namespace Reckoner

namespace Decimal

/-! ## Digits that can be appended -/

/-- Whether there is room for `p` more digits. -/
def hasRoom (q : Nat) (s : ℤ) (p : Nat) : Bool :=
  decide (s + p ≤ maxScale) && decide (q * tenPow p < capacity)

theorem appendable_eq (q : Nat) (s : ℤ) :
    appendable q s = (([9, 8, 7, 6, 5, 4, 3, 2, 1] ++ [0]).find? (hasRoom q s)).getD 0 := rfl

theorem hasRoom_appendable {q : Nat} {s : ℤ} (h : appendable q s ≠ 0) :
    appendable q s ≤ stepDigits ∧ s + appendable q s ≤ maxScale ∧
      q * tenPow (appendable q s) < capacity := by
  rw [appendable_eq] at h ⊢
  cases hfind : ([9, 8, 7, 6, 5, 4, 3, 2, 1] ++ [0]).find? (hasRoom q s) with
  | none =>
    rw [hfind] at h
    exact absurd rfl h
  | some p =>
    have hfew : ∀ p ∈ [9, 8, 7, 6, 5, 4, 3, 2, 1] ++ [0], p ≤ stepDigits := by decide
    have hroom := List.find?_some hfind
    rw [hasRoom, Bool.and_eq_true, decide_eq_true_iff, decide_eq_true_iff] at hroom
    exact ⟨hfew p (List.mem_of_find?_eq_some hfind), hroom⟩

/-- If no digit can be appended there is no room for a single one. -/
theorem full_of_appendable {q : Nat} {s : ℤ} (h : appendable q s = 0) :
    maxScale ≤ s ∨ capacity ≤ q * 10 := by
  have hone : hasRoom q s 1 = false := by
    by_contra hroom
    rw [Bool.not_eq_false] at hroom
    have hsome : ([9, 8, 7, 6, 5, 4, 3, 2, 1].find? (hasRoom q s)).isSome = true :=
      List.find?_isSome.2 ⟨1, by decide, hroom⟩
    obtain ⟨p, hp⟩ := Option.isSome_iff_exists.1 hsome
    have hmem := List.mem_of_find?_eq_some hp
    rw [appendable_eq, List.find?_append, hp] at h
    have hzero : p = 0 := h
    rw [hzero] at hmem
    revert hmem
    decide
  rw [hasRoom, Bool.and_eq_false_iff, decide_eq_false_iff_not, decide_eq_false_iff_not, not_le,
    not_lt] at hone
  exact hone.imp (fun hs => by omega) id

/-! ## Divisions under way -/

theorem cast_capacity : ((capacity : Nat) : ℚ) = 79228162514264337593543950336 := Nat.cast_ofNat

/-- Digits and rest make up the quotient `v`. -/
structure Division.Stands (q : Division) (d : Nat) (v : ℚ) : Prop where
  rest_lt : q.rest < d
  value : (q.digits : ℚ) + q.rest / d = v * 10 ^ q.places
  places_le : q.places ≤ maxScale

/-- An outcome is the rounding of the quotient. -/
def Settles (v : ℚ) : Option (Nat × Nat) → Prop
  | some (m, s) => m < capacity ∧ s ≤ maxScale ∧ rounded? v = some ((m : ℚ) / 10 ^ s)
  | none => rounded? v = none

section

variable {q : Division} {d : Nat} {v : ℚ}

theorem Division.Stands.append (h : q.Stands d v) {p : Nat} (hp : q.places + p ≤ maxScale) :
    (q.append d p).Stands d v := by
  have hd : 0 < d := Nat.zero_lt_of_lt h.rest_lt
  have hd' : (d : ℚ) ≠ 0 := by exact_mod_cast Nat.ne_of_gt hd
  refine ⟨Nat.mod_lt _ hd, ?_, hp⟩
  have hsplit : ((q.rest * tenPow p / d : Nat) : ℚ) + (q.rest * tenPow p % d : Nat) / d =
      q.rest / d * 10 ^ p := by
    have hnat := Nat.div_add_mod (q.rest * tenPow p) d
    have hcast : (d : ℚ) * (q.rest * tenPow p / d : Nat) + (q.rest * tenPow p % d : Nat) =
        q.rest * 10 ^ p := by
      rw [← cast_tenPow]
      exact_mod_cast hnat
    field_simp
    rw [mul_comm]
    exact hcast
  have hpow : (10 : ℚ) ^ (q.places + p) = 10 ^ q.places * 10 ^ p := by
    rw [zpow_add₀ (by norm_num), zpow_natCast]
  calc ((q.append d p).digits : ℚ) + (q.append d p).rest / d
      = q.digits * 10 ^ p +
          ((q.rest * tenPow p / d : Nat) + (q.rest * tenPow p % d : Nat) / d) := by
        rw [Division.append]
        push_cast
        rw [cast_tenPow, add_assoc]
    _ = (q.digits + q.rest / d) * 10 ^ p := by rw [hsplit, add_mul]
    _ = v * 10 ^ (q.append d p).places := by
        rw [h.value, mul_assoc, ← hpow]
        rfl

theorem Division.Stands.rest_bounds (h : q.Stands d v) :
    (0 : ℚ) ≤ q.rest / d ∧ (q.rest : ℚ) / d < 1 := by
  have hd : (0 : ℚ) < d := by exact_mod_cast Nat.zero_lt_of_lt h.rest_lt
  exact ⟨by positivity, (div_lt_one hd).2 (by exact_mod_cast h.rest_lt)⟩

/-- Digits that stand in front of zeros and leave no room for any are too many. -/
theorem Division.Stands.rounded?_eq_none (h : q.Stands d v) (hv : 0 ≤ v) (hneg : q.places < 0)
    (hfull : capacity ≤ q.digits * 10) : rounded? v = none := by
  obtain ⟨hrest, -⟩ := h.rest_bounds
  have hten : (10 : ℚ) ^ q.places ≤ 10 ^ (-1 : ℤ) :=
    zpow_le_zpow_right₀ (by norm_num) (by omega)
  have hle := mul_le_mul_of_nonneg_left hten hv
  have hcapacity : (capacity : ℚ) ≤ q.digits * 10 := by exact_mod_cast hfull
  refine Decimal.rounded?_eq_none (le_nearest ?_)
  rw [abs_of_nonneg hv]
  rw [← h.value, zpow_neg_one] at hle
  linarith

section

variable {s : Nat}

theorem Division.Stands.value_pow (h : q.Stands d v) (hs : q.places = s) :
    (q.digits : ℚ) + q.rest / d = v * 10 ^ s := by
  rw [h.value, hs, zpow_natCast]

theorem Division.Stands.scale_le (h : q.Stands d v) (hs : q.places = s) : s ≤ maxScale := by
  have hplaces := h.places_le
  rw [hs] at hplaces
  exact_mod_cast hplaces

/-- Digits and rest together are rounded to the nearest number of so many places. -/
theorem Division.Stands.nearest_eq (h : q.Stands d v) (hs : q.places = s) :
    nearest (v * 10 ^ s) = divHalfEven (q.digits * d + q.rest) d := by
  have hd : 0 < d := Nat.zero_lt_of_lt h.rest_lt
  refine Decimal.nearest_eq hd ?_
  rw [← h.value_pow hs, abs_of_nonneg (by positivity)]
  push_cast
  field_simp

/-- The same with the last place given up. -/
theorem Division.Stands.nearest_pred_eq (h : q.Stands d v) (hs : q.places = (s + 1 : Nat)) :
    v * 10 ^ s = (q.digits + q.rest / d) / 10 ∧
      nearest (v * 10 ^ s) = divHalfEven (q.digits * d + q.rest) (10 * d) := by
  have hd : 0 < d := Nat.zero_lt_of_lt h.rest_lt
  have hlower : v * 10 ^ s = (q.digits + q.rest / d) / 10 := by
    rw [h.value_pow hs, pow_succ, ← mul_assoc, mul_div_cancel_right₀ _ (by norm_num)]
  refine ⟨hlower, Decimal.nearest_eq (by omega) ?_⟩
  rw [hlower, abs_of_nonneg (by positivity)]
  push_cast
  field_simp

/-- The finest number of places that has room is the rounding. -/
theorem settles_nearest (hv : 0 ≤ v) (hscale : s ≤ maxScale) (hfit : nearest (v * 10 ^ s) < capacity)
    (hfinest : s = maxScale ∨ capacity ≤ nearest (v * 10 ^ (s + 1))) :
    Settles v (some (nearest (v * 10 ^ s), s)) := by
  refine ⟨hfit, hscale, ?_⟩
  rw [rounded?_eq_some hscale hfit hfinest, signedLike, if_neg (not_lt.2 hv)]

/-- The end of a division: there is no room for a further digit. -/
theorem settles_close? (h : q.Stands d v) (hv : 0 ≤ v)
    (hfull : q.places = maxScale ∨ capacity ≤ q.digits * 10)
    (hdigits : 0 < q.places → q.digits < 2 * capacity) : Settles v (q.close? d) := by
  obtain ⟨hrest, hrest'⟩ := h.rest_bounds
  by_cases hneg : q.places < 0
  · rw [Division.close?, if_pos hneg]
    exact h.rounded?_eq_none hv hneg (hfull.resolve_left (by omega))
  · obtain ⟨s, hs⟩ := Int.eq_ofNat_of_zero_le (not_lt.1 hneg)
    have hscale := h.scale_le hs
    have hplaces : q.places.toNat = s := by rw [hs]; rfl
    rw [Division.close?, if_neg hneg, hplaces, ← h.nearest_eq hs]
    by_cases hfit : nearest (v * 10 ^ s) < capacity
    · rw [if_pos hfit]
      refine settles_nearest hv hscale hfit (hfull.imp (fun h28 => by omega) fun hten => ?_)
      have hcapacity : (capacity : ℚ) ≤ q.digits * 10 := by exact_mod_cast hten
      refine le_nearest ?_
      rw [abs_of_nonneg (by positivity), pow_succ, ← mul_assoc, ← h.value_pow hs]
      exact hcapacity.trans (mul_le_mul_of_nonneg_right (le_add_of_nonneg_right hrest)
        (by norm_num))
    · rw [if_neg hfit]
      have hover := Nat.not_lt.1 hfit
      by_cases hzero : q.places = 0
      · rw [if_pos hzero]
        have hs0 : s = 0 := by omega
        rw [hs0, pow_zero, mul_one] at hover
        exact rounded?_eq_none hover
      · -- The last place is given up.
        rw [if_neg hzero]
        obtain ⟨t, rfl⟩ : ∃ t, s = t + 1 := Nat.exists_eq_succ_of_ne_zero (by omega)
        obtain ⟨hlower, hnearest⟩ := h.nearest_pred_eq hs
        have hfit' : nearest (v * 10 ^ t) < capacity := by
          have hroom : (q.digits : ℚ) < 2 * (capacity : Nat) := by
            exact_mod_cast hdigits (by omega)
          have hlt : |v * 10 ^ t| + 1 / 2 < (capacity : Nat) := by
            rw [hlower, abs_of_nonneg (by positivity)]
            rw [cast_capacity] at hroom ⊢
            linarith
          exact_mod_cast (nearest_bounds (v * 10 ^ t)).1.trans_lt hlt
        rw [Nat.add_sub_cancel, ← hnearest]
        exact settles_nearest hv (by omega) hfit' (.inr hover)

end

/-- A division in which nothing remains is exact. -/
theorem settles_of_rest_eq_zero (h : q.Stands d v) (hv : 0 ≤ v) (hdigits : q.digits < capacity)
    (hrest : q.rest = 0) (hplaces : 0 ≤ q.places) :
    Settles v (some (q.digits, q.places.toNat)) := by
  obtain ⟨s, hs⟩ := Int.eq_ofNat_of_zero_le hplaces
  have hscale : q.places.toNat = s := by rw [hs]; rfl
  have hle := h.scale_le hs
  have hvalue := h.value_pow hs
  rw [hrest, Nat.cast_zero, zero_div, add_zero] at hvalue
  have habs : |v| = (q.digits : ℚ) / 10 ^ s := by
    rw [abs_of_nonneg hv, hvalue, mul_div_cancel_right₀ _ (by positivity)]
  rw [hscale]
  refine ⟨hdigits, hle, ?_⟩
  rw [rounded?_of_fits hdigits hle habs, ← habs, abs_of_nonneg hv]

/-- With enough rounds for one digit each a division ends with the rounding. -/
theorem settles_run? {rounds : Nat} (h : q.Stands d v) (hv : 0 ≤ v) (hdigits : q.digits < capacity)
    (hrounds : maxScale < rounds + q.places) : Settles v (q.run? d rounds) := by
  induction rounds generalizing q with
  | zero =>
    have hplaces := h.places_le
    omega
  | succ rounds ih =>
    rw [Division.run?]
    split
    · rename_i hend
      exact settles_of_rest_eq_zero h hv hdigits hend.1 hend.2
    · rename_i hgoes
      -- Digits are appended: `p` of them, of which some are left over if the quotient gets full.
      have happend {p : Nat} (hp : 0 < p ∧ p ≤ stepDigits) (hplaces : q.places + p ≤ maxScale)
          (hroom : q.rest ≠ 0 → q.digits * tenPow p < capacity)
          (hzeros : q.rest = 0 → q.places + p ≤ 0) :
          Settles v (if (q.append d p).digits < capacity then (q.append d p).run? d rounds
            else (q.append d p).close? d) := by
        have hstands := h.append hplaces
        have hnext : (q.append d p).places = q.places + p := rfl
        split
        · rename_i hlt
          exact ih hstands hlt (by omega)
        · rename_i hover
          refine settles_close? hstands hv (.inr (by omega)) fun hpos => ?_
          have hne : q.rest ≠ 0 := fun hzero => by
            have hle := hzeros hzero
            omega
          have hroom := hroom hne
          have hten : tenPow p ≤ tenPow stepDigits := Nat.pow_le_pow_right (by decide) hp.2
          have hshort : q.rest * tenPow p / d < tenPow p := by
            rw [Nat.div_lt_iff_lt_mul (Nat.zero_lt_of_lt h.rest_lt), Nat.mul_comm]
            exact Nat.mul_lt_mul_of_pos_left h.rest_lt (tenPow_pos p)
          have hstep : tenPow stepDigits < capacity := by decide
          show q.digits * tenPow p + q.rest * tenPow p / d < 2 * capacity
          omega
      by_cases hrest : q.rest = 0
      · have hneg : q.places < 0 := not_le.1 fun hle => hgoes ⟨hrest, hle⟩
        have hsteps : stepDigits = 9 := rfl
        have hp : min stepDigits (-q.places).toNat ≠ 0 := by omega
        rw [if_pos hrest, if_neg hp]
        exact happend (by omega) (by omega) (fun hne => absurd hrest hne) (fun _ => by omega)
      · rw [if_neg hrest]
        by_cases hp : appendable q.digits q.places = 0
        · rw [if_pos hp]
          have hplaces := h.places_le
          exact settles_close? h hv ((full_of_appendable hp).imp_left (by omega)) (by omega)
        · rw [if_neg hp]
          obtain ⟨hfew, hplaces, hroom⟩ := hasRoom_appendable hp
          exact happend ⟨Nat.pos_of_ne_zero hp, hfew⟩ hplaces (fun _ => hroom)
            (fun hzero => absurd hzero hrest)

end

/-! ## Zeros at the end -/

/-- A shorter mantissa with its places stands for the same value. -/
structure Keeps (v w : Nat × Nat) : Prop where
  value : (w.1 : ℚ) / 10 ^ w.2 = v.1 / 10 ^ v.2
  mantissa_le : w.1 ≤ v.1
  scale_le : w.2 ≤ v.2

theorem Keeps.refl (v : Nat × Nat) : Keeps v v := ⟨rfl, Nat.le_refl _, Nat.le_refl _⟩

theorem Keeps.trans {u v w : Nat × Nat} (h : Keeps u v) (h' : Keeps v w) : Keeps u w :=
  ⟨h'.value.trans h.value, h'.mantissa_le.trans h.mantissa_le, h'.scale_le.trans h.scale_le⟩

theorem keeps_drop {n : Nat} {v : Nat × Nat} (hn : n ≤ v.2) (h : v.1 % tenPow n = 0) :
    Keeps v (v.1 / tenPow n, v.2 - n) := by
  refine ⟨?_, Nat.div_le_self _ _, Nat.sub_le _ _⟩
  obtain ⟨k, hk⟩ := Nat.dvd_of_mod_eq_zero h
  have hpow : (10 : ℚ) ^ v.2 = 10 ^ n * 10 ^ (v.2 - n) := (pow_mul_pow_sub 10 hn).symm
  rw [hk, Nat.mul_div_cancel_left _ (tenPow_pos n), hpow, Nat.cast_mul, cast_tenPow]
  field_simp

theorem keeps_dropGroup (n : Nat) (v : Nat × Nat) : Keeps v (dropGroup n v) := by
  rw [dropGroup]
  split
  · rename_i h
    exact keeps_drop h.1 h.2
  · exact .refl v

theorem keeps_dropWords (rounds : Nat) (v : Nat × Nat) : Keeps v (dropWords rounds v) := by
  induction rounds generalizing v with
  | zero => exact .refl v
  | succ rounds ih =>
    rw [dropWords]
    split
    · rename_i h
      exact (keeps_drop h.2.1 h.2.2).trans (ih _)
    · exact .refl v

theorem keeps_dropZeros (v : Nat × Nat) : Keeps v (dropZeros v) :=
  (((keeps_dropWords 3 v).trans (keeps_dropGroup 4 _)).trans (keeps_dropGroup 2 _)).trans
    (keeps_dropGroup 1 _)

/-! ## Quotients -/

theorem value_ofParts? {negative : Bool} {m s : Nat} (hm : m < capacity) (hs : s ≤ maxScale) :
    (ofParts? (negative && m != 0) m s).map toRat = some (sgn negative * (m / 10 ^ s)) := by
  rw [ofParts?, dif_pos hm, dif_pos hs, Option.map_some, toRat_eq]
  by_cases hzero : m = 0
  · simp [hzero]
  · rw [and_ne_zero negative hzero]

theorem toRat_div {x y : Decimal} : x.toRat / y.toRat =
    sgn (x.negative != y.negative) *
      ((x.mantissa : ℚ) / y.mantissa * 10 ^ ((y.scale : ℤ) - x.scale)) := by
  have hsgn : sgn x.negative / sgn y.negative = sgn (x.negative != y.negative) := by
    cases x.negative <;> cases y.negative <;> simp [sgn]
  rw [toRat_eq, toRat_eq, ← hsgn, zpow_sub₀ (by norm_num), zpow_natCast, zpow_natCast]
  field_simp

/-- A division starts with the whole quotient of the mantissas. -/
theorem stands_start {x y : Decimal} (hy : 0 < y.mantissa) :
    Division.Stands
      { digits := x.mantissa / y.mantissa
        rest := x.mantissa % y.mantissa
        places := (x.scale : ℤ) - y.scale } y.mantissa
      ((x.mantissa : ℚ) / y.mantissa * 10 ^ ((y.scale : ℤ) - x.scale)) := by
  refine ⟨Nat.mod_lt _ hy, ?_, ?_⟩
  · have hy' : (y.mantissa : ℚ) ≠ 0 := by exact_mod_cast Nat.ne_of_gt hy
    have hnat := Nat.div_add_mod x.mantissa y.mantissa
    have hcast : (y.mantissa : ℚ) * (x.mantissa / y.mantissa : Nat) +
        (x.mantissa % y.mantissa : Nat) = x.mantissa := by exact_mod_cast hnat
    have hpow : (10 : ℚ) ^ ((y.scale : ℤ) - x.scale) * 10 ^ ((x.scale : ℤ) - y.scale) = 1 := by
      rw [← zpow_add₀ (by norm_num)]
      simp
    rw [mul_assoc, hpow, mul_one]
    field_simp
    rw [mul_comm]
    exact hcast
  · have hx := x.scale_le
    show (x.scale : ℤ) - y.scale ≤ maxScale
    omega

/-- Quotients are rounded correctly. -/
theorem value_div? {x y : Decimal} (hy : y.isZero = false) :
    (x.div? y).map toRat = rounded? (x.toRat / y.toRat) := by
  have hpos : 0 < y.mantissa := by
    rw [isZero, beq_eq_false_iff_ne] at hy
    exact Nat.pos_of_ne_zero hy
  rw [div?, if_neg (by simp [hy])]
  split
  · rename_i hx
    rw [(toRat_eq_zero_iff x).2 hx, zero_div, rounded?_zero, Option.map_some, toRat_zero]
  · rw [toRat_div, rounded?_sgn_mul]
    have hrounds : (maxScale : ℤ) < divisionRounds + ((x.scale : ℤ) - y.scale) := by
      have hsteps : divisionRounds = 64 := rfl
      have hscale : maxScale = 28 := rfl
      have hy := y.scale_le
      omega
    have hnonneg : (0 : ℚ) ≤ (x.mantissa : ℚ) / y.mantissa * 10 ^ ((y.scale : ℤ) - x.scale) :=
      mul_nonneg (by positivity) (zpow_nonneg (by norm_num) _)
    have hsettles := settles_run? (stands_start hpos) hnonneg
      ((Nat.div_le_self _ _).trans_lt x.mantissa_lt) hrounds
    dsimp only
    generalize (x.mantissa : ℚ) / y.mantissa * 10 ^ ((y.scale : ℤ) - x.scale) = v at hsettles ⊢
    split
    · rename_i hrun
      rw [hrun] at hsettles
      rw [show rounded? v = none from hsettles]
      rfl
    · rename_i parts hrun
      rw [hrun] at hsettles
      obtain ⟨hm, hs, hvalue⟩ := hsettles
      have hkeeps : Keeps parts
          (if x.mantissa % y.mantissa = 0 then parts else dropZeros parts) := by
        split
        · exact .refl parts
        · exact keeps_dropZeros parts
      rw [hvalue, value_ofParts? (hkeeps.mantissa_le.trans_lt hm) (hkeeps.scale_le.trans hs),
        hkeeps.value, Option.map_some]

end Decimal

end Reckoner
