import Mathlib.Tactic.Ring
import Reckoner.Eval.Convert
import Reckoner.Proofs.Decimal.Division
import Reckoner.Proofs.Quantity.Exponents

/-!
# Conversions there and back

A magnitude that is converted from one unit to another and back again is what it
was, up to the rounding of the factors and of the results.

* `MeasureUnit.convert?` is what a conversion does to a magnitude
  (`Eval.convertUnits_power`).
* `loss` bounds what two rounded factors lose together, relative to the larger of
  one and the magnitude (`exists_back`).  It is small between units that are
  close (`loss_le`); the others are checked against `fidelity`, which names the
  pairs that are too far apart for 28 places.
* Readings of temperatures go through affine maps; `Near` follows the errors of
  their steps.
* `Eval.returns_within` is the statement for all pairs.
-/

namespace Reckoner

variable {offset : Nat}

namespace MeasureUnit

/-! ## Conversions between two units -/

/-- The factor from a unit to another one, rounded to 28 places. -/
def factorTo? (u v : MeasureUnit) : Option Decimal :=
  if u.symbol == v.symbol then some .one else u.factor.div? v.factor

/-- A magnitude in `u` as one in `v`. -/
def convert? (u v : MeasureUnit) (x : Decimal) : Option Decimal :=
  if u.category = .temperature then (toKelvin? u x).bind (ofKelvin? v)
  else (u.factorTo? v).bind (x.mul? ·)

theorem ofName?_eq_unit {u : MeasureUnit} {n : String} (h : find? n = some u) :
    Denomination.ofName? n = some (.unit u) := by
  rw [Denomination.ofName?, h]

theorem ratio_unit {u v : MeasureUnit} (hu : u.category ≠ .temperature)
    (hv : v.category ≠ .temperature) (rates : RateTable) :
    ratio (.unit u) (.unit v) rates offset = orOverflow offset (u.factorTo? v) := by
  rw [ratio.eq_def, factorTo?]
  show (if u.symbol == v.symbol then _ else _) = _
  split
  · rfl
  · dsimp only
    rw [baseFactor, baseFactor, if_neg hu, if_neg hv]
    rfl

end MeasureUnit

namespace Quantity

variable {u v : MeasureUnit} {n m : String}

theorem convertTo_power (hn : MeasureUnit.find? n = some u) (hm : MeasureUnit.find? m = some v)
    (hc : u.category = v.category) (x : Decimal) (rates : RateTable) :
    (ofPower x u.category n 1).convertTo (ofPower .one v.category m 1).dims rates offset = (do
      let y ← orOverflow offset (u.convert? v x)
      pure (ofPower y v.category m 1)) := by
  have hcompatible : Dimensions.compatible ⟨[⟨u.category, n, 1⟩]⟩ ⟨[⟨v.category, m, 1⟩]⟩ =
      true := by
    simp [Dimensions.compatible, Dimensions.find?, hc]
  simp only [ofPower_of_ne_zero _ _ _ one_ne_zero]
  rw [convertTo, hcompatible, MeasureUnit.convert?]
  by_cases hkind : u.category = .temperature
  · have hpair : temperaturePair? ⟨[⟨u.category, n, 1⟩]⟩ ⟨[⟨v.category, m, 1⟩]⟩ = some (u, v) := by
      simp [temperaturePair?, Dimensions.single?, hkind, MeasureUnit.ofName?_eq_unit hn,
        MeasureUnit.ofName?_eq_unit hm]
    rw [hpair, if_pos hkind]
    rfl
  · have hpair : temperaturePair? ⟨[⟨u.category, n, 1⟩]⟩ ⟨[⟨v.category, m, 1⟩]⟩ = none := by
      simp [temperaturePair?, Dimensions.single?, hkind]
    have hfind : Dimensions.find? ⟨[⟨v.category, m, 1⟩]⟩ u.category = some ⟨v.category, m, 1⟩ := by
      simp [Dimensions.find?, hc]
    have hmagnitude : convertMagnitude ⟨x, ⟨[⟨u.category, n, 1⟩]⟩⟩ ⟨[⟨v.category, m, 1⟩]⟩ rates
        offset = orOverflow offset ((u.factorTo? v).bind (x.mul? ·)) := by
      unfold convertMagnitude
      rw [List.foldlM_cons, hfind]
      dsimp only
      rw [ofName_eq_ok (MeasureUnit.ofName?_eq_unit hn),
        ofName_eq_ok (MeasureUnit.ofName?_eq_unit hm)]
      show (ratio (.unit u) (.unit v) rates offset >>= _) >>= _ = _
      rw [MeasureUnit.ratio_unit hkind (hc ▸ hkind)]
      cases u.factorTo? v with
      | none => rfl
      | some f =>
        show (powFactor f 1 offset >>= _) >>= _ = _
        rw [powFactor, if_pos rfl]
        show orOverflow offset (x.mul? f) >>= _ = orOverflow offset (x.mul? f)
        cases x.mul? f <;> rfl
    rw [hpair, if_neg hkind]
    show convertMagnitude _ _ rates offset >>= _ = _
    rw [hmagnitude]

end Quantity

/-! ## What two factors lose -/

section

open Decimal

/-- What is lost in two conversions by the factors `r` and `s`, relative to the larger of one and
the magnitude: by the factors themselves, by the first result and by the second one. -/
def loss (r s : ℚ) : ℚ :=
  |r * s - 1| + s * ((1 / 2 + r) / 10 ^ 28) +
    (1 / 2 + (r * s + s * ((1 / 2 + r) / 10 ^ 28))) / 10 ^ 28

variable {x y r s ε : ℚ}

/-- The way back. -/
theorem exists_back (hr : 0 ≤ r) (hs : 0 ≤ s) (hy : rounded? (x * r) = some y)
    (hx : |x| < 10 ^ 9) (hloss : loss r s ≤ ε) (hε : ε ≤ 1) :
    ∃ z, rounded? (y * s) = some z ∧ |z - x| ≤ max 1 |x| * ε := by
  have hone : 1 ≤ max 1 |x| := le_max_left 1 |x|
  have hself : |x| ≤ max 1 |x| := le_max_right 1 |x|
  have hlarge : max 1 |x| < 10 ^ 9 := max_lt (by norm_num) hx
  generalize max 1 |x| = M at hone hself hlarge ⊢
  have hM : 0 ≤ M := zero_le_one.trans hone
  -- The first result, in the units of the second one.
  have hfirst : |y * s - x * r * s| ≤ M * (s * ((1 / 2 + r) / 10 ^ 28)) := by
    have hround := abs_sub_le_of_rounded hy
    rw [abs_mul, abs_of_nonneg hr] at hround
    have hle : (1 / 2 + |x| * r) / 10 ^ 28 ≤ M * ((1 / 2 + r) / 10 ^ 28) := by
      rw [← mul_div_assoc]
      refine div_le_div_of_nonneg_right ?_ (by norm_num)
      nlinarith only [hone, hself, hr]
    calc |y * s - x * r * s| = |y - x * r| * s := by rw [← sub_mul, abs_mul, abs_of_nonneg hs]
      _ ≤ M * ((1 / 2 + r) / 10 ^ 28) * s := mul_le_mul_of_nonneg_right (hround.trans hle) hs
      _ = M * (s * ((1 / 2 + r) / 10 ^ 28)) := by ring
  -- What the factors make of the magnitude.
  have hfactors : |x * r * s - x| ≤ M * |r * s - 1| := by
    calc |x * r * s - x| = |x| * |r * s - 1| := by rw [← abs_mul]; ring_nf
      _ ≤ M * |r * s - 1| := mul_le_mul_of_nonneg_right hself (abs_nonneg _)
  have hproduct : |y * s| ≤ M * (r * s + s * ((1 / 2 + r) / 10 ^ 28)) := by
    calc |y * s| = |x * r * s + (y * s - x * r * s)| := by ring_nf
      _ ≤ |x * r * s| + |y * s - x * r * s| := abs_add_le _ _
      _ ≤ M * (r * s) + M * (s * ((1 / 2 + r) / 10 ^ 28)) := by
        refine add_le_add ?_ hfirst
        rw [mul_assoc, abs_mul, abs_of_nonneg (mul_nonneg hr hs)]
        exact mul_le_mul_of_nonneg_right hself (mul_nonneg hr hs)
      _ = M * (r * s + s * ((1 / 2 + r) / 10 ^ 28)) := by ring
  have ha : 0 ≤ s * ((1 / 2 + r) / 10 ^ 28) := by positivity
  have hp : 0 ≤ r * s := mul_nonneg hr hs
  rw [loss] at hloss
  generalize s * ((1 / 2 + r) / 10 ^ 28) = a at hfirst hproduct hloss ha
  generalize r * s = p at hproduct hfactors hloss hp
  have hspare : 0 ≤ (1 / 2 + (p + a)) / 10 ^ 28 := by positivity
  have hroom : |y * s| < (capacity : Nat) - 1 / 2 := by
    have hfar : p + a ≤ 2 := by linarith only [le_abs_self (p - 1), hloss, hspare, hε]
    have hle : M * (p + a) ≤ M * 2 := mul_le_mul_of_nonneg_left hfar hM
    rw [cast_capacity]
    linarith only [hproduct, hle, hlarge]
  obtain ⟨z, hz⟩ := exists_rounded hroom
  have hlast : |z - y * s| ≤ M * ((1 / 2 + (p + a)) / 10 ^ 28) := by
    refine (abs_sub_le_of_rounded hz).trans ?_
    rw [← mul_div_assoc]
    exact div_le_div_of_nonneg_right (by linarith only [hone, hproduct]) (by norm_num)
  refine ⟨z, hz, ?_⟩
  calc |z - x| = |z - y * s + (y * s - x * r * s) + (x * r * s - x)| := by ring_nf
    _ ≤ |z - y * s| + |y * s - x * r * s| + |x * r * s - x| := abs_add_three _ _ _
    _ ≤ M * ((1 / 2 + (p + a)) / 10 ^ 28) + M * a + M * |p - 1| :=
      add_le_add (add_le_add hlast hfirst) hfactors
    _ = M * (|p - 1| + a + (1 / 2 + (p + a)) / 10 ^ 28) := by ring
    _ ≤ M * ε := mul_le_mul_of_nonneg_left hloss hM

/-- Factors of less than sixteen digits lose little. -/
theorem loss_le {f : ℚ} (hpos : 0 < f) (hf : f ≤ 10 ^ 15) (hinv : f⁻¹ ≤ 10 ^ 15)
    (hr : rounded? f = some r) (hs : rounded? f⁻¹ = some s) : loss r s ≤ 1 / 10 ^ 12 := by
  have hr' := abs_sub_le_of_rounded hr
  have hs' := abs_sub_le_of_rounded hs
  have hs0 : 0 ≤ s := nonneg_of_rounded (inv_nonneg.2 hpos.le) hs
  have hone : f * f⁻¹ = 1 := mul_inv_cancel₀ hpos.ne'
  have hgpos : 0 < f⁻¹ := inv_pos.2 hpos
  generalize f⁻¹ = g at hinv hs' hone hgpos
  rw [abs_of_pos hpos] at hr'
  rw [abs_of_pos hgpos] at hs'
  have hrf : r ≤ f + 1 := by
    have hsize : (1 / 2 + f) / 10 ^ 28 ≤ 1 := (div_le_one (by norm_num)).2 (by linarith only [hf])
    linarith only [(abs_le.1 hr').2, hsize]
  have hsg : s ≤ g + 1 := by
    have hsize : (1 / 2 + g) / 10 ^ 28 ≤ 1 := (div_le_one (by norm_num)).2 (by linarith only [hinv])
    linarith only [(abs_le.1 hs').2, hsize]
  have hproduct : r * s ≤ 2 + f + g := by
    calc r * s ≤ (f + 1) * (g + 1) := mul_le_mul hrf hsg hs0 (by linarith only [hpos])
      _ = f * g + 1 + f + g := by ring
      _ = 2 + f + g := by rw [hone]; ring
  have hfactors : |r * s - 1| ≤ (g / 2 + 3 / 2 * f + 5 / 2) / 10 ^ 28 := by
    have hleft : |(r - f) * s| ≤ (1 / 2 + f) / 10 ^ 28 * (g + 1) := by
      rw [abs_mul, abs_of_nonneg hs0]
      exact mul_le_mul hr' hsg hs0 (by positivity)
    have hright : |f * (s - g)| ≤ f * ((1 / 2 + g) / 10 ^ 28) := by
      rw [abs_mul, abs_of_pos hpos]
      exact mul_le_mul_of_nonneg_left hs' hpos.le
    calc |r * s - 1| = |(r - f) * s + f * (s - g)| := by rw [← hone]; ring_nf
      _ ≤ (1 / 2 + f) / 10 ^ 28 * (g + 1) + f * ((1 / 2 + g) / 10 ^ 28) :=
        (abs_add_le _ _).trans (add_le_add hleft hright)
      _ = (g / 2 + 3 / 2 * f + 1 / 2 + 2 * (f * g)) / 10 ^ 28 := by ring
      _ = (g / 2 + 3 / 2 * f + 5 / 2) / 10 ^ 28 := by rw [hone]; ring
  have hfirst : s * ((1 / 2 + r) / 10 ^ 28) ≤ (3 / 2 * g + f + 5 / 2) / 10 ^ 28 := by
    rw [← mul_div_assoc]
    refine div_le_div_of_nonneg_right ?_ (by norm_num)
    linarith only [hsg, hproduct]
  rw [loss]
  generalize s * ((1 / 2 + r) / 10 ^ 28) = a at hfirst ⊢
  generalize r * s = q at hproduct hfactors ⊢
  rw [le_div_iff₀ (by norm_num)] at hfactors hfirst
  linarith only [hf, hinv, hproduct, hfactors, hfirst]

end

namespace MeasureUnit

/-- How well a conversion can be taken back: below `reach` every magnitude has a result, and
`places` of it come back, counted from the larger of one and the magnitude. -/
structure Fidelity where
  places : Nat
  reach : Nat
deriving DecidableEq

/-- What there is room for in 28 places. -/
def Fidelity.full : Fidelity := ⟨12, 10 ^ 9⟩

/-- The pairs of units that are too far apart for that. -/
def coarse : List ((String × String) × Fidelity) := [
  (("nm", "ly"), ⟨3, 10 ^ 9⟩), (("um", "ly"), ⟨6, 10 ^ 9⟩), (("mm", "ly"), ⟨9, 10 ^ 9⟩),
  (("cm", "ly"), ⟨10, 10 ^ 9⟩), (("dm", "ly"), ⟨11, 10 ^ 9⟩), (("inch", "ly"), ⟨10, 10 ^ 9⟩),
  (("ft", "ly"), ⟨11, 10 ^ 9⟩), (("ly", "nm"), ⟨6, 8374⟩), (("ly", "um"), ⟨6, 8374000⟩),
  (("ly", "mm"), ⟨10, 10 ^ 9⟩), (("ly", "cm"), ⟨10, 10 ^ 9⟩), (("ly", "dm"), ⟨11, 10 ^ 9⟩),
  (("ly", "inch"), ⟨11, 10 ^ 9⟩), (("ns", "yr"), ⟨11, 10 ^ 9⟩)]

/-- The fidelity of a pair of units. -/
def fidelity (u v : MeasureUnit) : Fidelity := (coarse.lookup (u.symbol, v.symbol)).getD .full

/-- Whether a magnitude comes back with fewer than twelve places. -/
def misses (u v : MeasureUnit) (x : Decimal) : Bool :=
  match (u.convert? v x).bind (v.convert? u) with
  | some z => decide (max 1 |x.toRat| * (1 / 10 ^ 12) < |z.toRat - x.toRat|)
  | none => true

/-- No pair is coarse for nothing. -/
theorem exists_misses_of_coarse : ∀ entry ∈ coarse, ∃ u ∈ all, u.symbol = entry.1.1 ∧
    ∃ v ∈ all, v.symbol = entry.1.2 ∧ u.category = v.category ∧
      ∃ x ∈ [Decimal.one, .ofScaled 1 4], u.misses v x = true := by decide +kernel

/-- The factors between two units meet their fidelity. -/
structure Meets (u v : MeasureUnit) (r s : Decimal) : Prop where
  there : u.factorTo? v = some r
  back : v.factorTo? u = some s
  there_nonneg : 0 ≤ r.toRat
  back_nonneg : 0 ≤ s.toRat
  loss_le : loss r.toRat s.toRat ≤ 1 / 10 ^ (fidelity u v).places
  room : (fidelity u v).reach * r.toRat < Decimal.capacity - 1 / 2

/-- `Meets`, evaluated. -/
def meets (u v : MeasureUnit) : Bool :=
  match u.factorTo? v, v.factorTo? u with
  | some r, some s =>
    decide (0 ≤ r.toRat) && decide (0 ≤ s.toRat) &&
      decide (loss r.toRat s.toRat ≤ 1 / 10 ^ (fidelity u v).places) &&
      decide ((fidelity u v).reach * r.toRat < Decimal.capacity - 1 / 2)
  | _, _ => false

theorem exists_meets {u v : MeasureUnit} (h : u.meets v = true) : ∃ r s, Meets u v r s := by
  rw [meets] at h
  split at h
  · rename_i r s hr hs
    simp only [Bool.and_eq_true, decide_eq_true_eq] at h
    obtain ⟨⟨⟨hr0, hs0⟩, hloss⟩, hroom⟩ := h
    exact ⟨r, s, hr, hs, hr0, hs0, hloss, hroom⟩
  · cases h

/-- No unit of two is much larger than the other one. -/
def Close (u v : MeasureUnit) : Prop :=
  u.factor.toRat ≤ 10 ^ 15 * v.factor.toRat ∧ v.factor.toRat ≤ 10 ^ 15 * u.factor.toRat

instance (u v : MeasureUnit) : Decidable (Close u v) :=
  inferInstanceAs (Decidable (_ ∧ _))

theorem factor_pos : ∀ u ∈ all, 0 < u.factor.toRat := by decide +kernel

theorem value_factorTo? {u v : MeasureUnit} (hu : u ∈ all) (hv : v ∈ all) :
    (u.factorTo? v).map Decimal.toRat = Decimal.rounded? (u.factor.toRat / v.factor.toRat) := by
  rw [factorTo?]
  split
  · rename_i hsame
    obtain rfl := eq_of_symbol_eq hu hv (beq_iff_eq.1 hsame)
    rw [div_self (factor_pos u hu).ne', Option.map_some, ← Decimal.toRat_one, Decimal.rounded?_toRat]
  · exact Decimal.value_div? (factor_isZero v hv)

/-- Only few pairs are not close; their factors are computed. -/
theorem close_or_meets : ∀ u ∈ all, ∀ v ∈ all, u.category = v.category →
    u.category ≠ .temperature →
      Close u v ∧ fidelity u v = .full ∨ u.meets v = true := by decide +kernel

theorem exists_factors {u v : MeasureUnit} (hu : u ∈ all) (hv : v ∈ all)
    (hc : u.category = v.category) (hkind : u.category ≠ .temperature) :
    ∃ r s, Meets u v r s := by
  rcases close_or_meets u hu v hv hc hkind with ⟨⟨hlarge, hsmall⟩, hfidelity⟩ | h
  · have hupos := factor_pos u hu
    have hvpos := factor_pos v hv
    have hpos : 0 < u.factor.toRat / v.factor.toRat := div_pos hupos hvpos
    have hle : u.factor.toRat / v.factor.toRat ≤ 10 ^ 15 := (div_le_iff₀ hvpos).2 hlarge
    have hinv : (u.factor.toRat / v.factor.toRat)⁻¹ ≤ 10 ^ 15 := by
      rw [inv_div]
      exact (div_le_iff₀ hupos).2 hsmall
    have hthere := value_factorTo? hu hv
    have hback := value_factorTo? hv hu
    rw [← inv_div] at hback
    generalize u.factor.toRat / v.factor.toRat = f at hpos hle hinv hthere hback
    have hroom {w : ℚ} (hw : 0 < w) (hle : w ≤ 10 ^ 15) :
        |w| < (Decimal.capacity : Nat) - 1 / 2 := by
      rw [abs_of_pos hw, Decimal.cast_capacity]
      exact hle.trans_lt (by norm_num)
    obtain ⟨_, hr⟩ := Decimal.exists_rounded (hroom hpos hle)
    obtain ⟨_, hs⟩ := Decimal.exists_rounded (hroom (inv_pos.2 hpos) hinv)
    rw [hr] at hthere
    rw [hs] at hback
    obtain ⟨r, hr', rfl⟩ := Option.map_eq_some_iff.1 hthere
    obtain ⟨s, hs', rfl⟩ := Option.map_eq_some_iff.1 hback
    refine ⟨r, s, hr', hs', Decimal.nonneg_of_rounded hpos.le hr,
      Decimal.nonneg_of_rounded (inv_nonneg.2 hpos.le) hs, ?_, ?_⟩
    · rw [hfidelity]
      exact loss_le hpos hle hinv hr hs
    · have hround := Decimal.abs_sub_le_of_rounded hr
      rw [abs_of_pos hpos, abs_le] at hround
      have hreach : ((Fidelity.full.reach : Nat) : ℚ) = 10 ^ 9 := by norm_num [Fidelity.full]
      rw [hfidelity, hreach, Decimal.cast_capacity]
      linarith only [hround.2, hle]
  · exact exists_meets h

/-- A conversion from `u` to `v` has a result and can be taken back, with the fidelity of the
pair. -/
structure Returns (u v : MeasureUnit) (x : Decimal) : Prop where
  there : |x.toRat| < (fidelity u v).reach → ∃ y, u.convert? v x = some y
  back : ∀ y, u.convert? v x = some y → ∃ z, v.convert? u y = some z ∧
    |z.toRat - x.toRat| ≤ max 1 |x.toRat| * (1 / 10 ^ (fidelity u v).places)

theorem returns_of_factors {u v : MeasureUnit} (hu : u ∈ all) (hv : v ∈ all)
    (hc : u.category = v.category) (hkind : u.category ≠ .temperature) {x : Decimal}
    (hx : |x.toRat| < 10 ^ 9) : u.Returns v x := by
  obtain ⟨r, s, h⟩ := exists_factors hu hv hc hkind
  have hthere (x : Decimal) : u.convert? v x = x.mul? r := by
    rw [convert?, if_neg hkind, h.there, Option.bind_some]
  have hback (y : Decimal) : v.convert? u y = y.mul? s := by
    rw [convert?, if_neg (hc ▸ hkind), h.back, Option.bind_some]
  have hone : 1 / (10 : ℚ) ^ (fidelity u v).places ≤ 1 :=
    div_le_one_of_le₀ (one_le_pow₀ (by norm_num)) (by positivity)
  constructor
  · intro hnear
    have hroom : |x.toRat * r.toRat| < (Decimal.capacity : Nat) - 1 / 2 := by
      rw [abs_mul, abs_of_nonneg h.there_nonneg]
      exact (mul_le_mul_of_nonneg_right hnear.le h.there_nonneg).trans_lt h.room
    obtain ⟨y, hy⟩ := Decimal.exists_rounded hroom
    rw [← Decimal.value_mul?, ← hthere] at hy
    obtain ⟨y, hy, -⟩ := Option.map_eq_some_iff.1 hy
    exact ⟨y, hy⟩
  · intro y hy
    have hvalue : Decimal.rounded? (x.toRat * r.toRat) = some y.toRat := by
      rw [← Decimal.value_mul?, ← hthere, hy, Option.map_some]
    obtain ⟨z, hz, hle⟩ := exists_back h.there_nonneg h.back_nonneg hvalue hx h.loss_le hone
    rw [← Decimal.value_mul?, ← hback] at hz
    obtain ⟨w, hw, rfl⟩ := Option.map_eq_some_iff.1 hz
    exact ⟨w, hw, hle⟩

/-! ## Readings of temperatures -/

/-- A reading in kelvin, exactly. -/
def kelvin (u : MeasureUnit) (x : ℚ) : ℚ :=
  if u.symbol == "celsius" then x + 5463 / 20
  else if u.symbol == "fahrenheit" then (x - 32) * 5 / 9 + 5463 / 20
  else x

/-- The reading of a number of kelvin, exactly. -/
def reading (u : MeasureUnit) (k : ℚ) : ℚ :=
  if u.symbol == "celsius" then k - 5463 / 20
  else if u.symbol == "fahrenheit" then (k - 5463 / 20) * 9 / 5 + 32
  else k

variable (u : MeasureUnit)

theorem reading_kelvin (x : ℚ) : u.reading (u.kelvin x) = x := by
  rw [reading, kelvin]
  split_ifs <;> ring

theorem kelvin_reading (k : ℚ) : u.kelvin (u.reading k) = k := by
  rw [reading, kelvin]
  split_ifs <;> ring

theorem abs_kelvin_sub_le (x y : ℚ) : |u.kelvin x - u.kelvin y| ≤ |x - y| := by
  rw [kelvin, kelvin]
  split_ifs
  · rw [add_sub_add_right_eq_sub]
  · have hslope : (x - 32) * 5 / 9 + 5463 / 20 - ((y - 32) * 5 / 9 + 5463 / 20) =
        (x - y) * (5 / 9) := by ring
    rw [hslope, abs_mul, abs_of_pos (by norm_num : (0 : ℚ) < 5 / 9)]
    linarith only [abs_nonneg (x - y)]
  · exact le_refl _

theorem abs_reading_sub_le (k l : ℚ) : |u.reading k - u.reading l| ≤ 9 / 5 * |k - l| := by
  rw [reading, reading]
  split_ifs
  · rw [sub_sub_sub_cancel_right]
    linarith only [abs_nonneg (k - l)]
  · have hslope : (k - 5463 / 20) * 9 / 5 + 32 - ((l - 5463 / 20) * 9 / 5 + 32) =
        9 / 5 * (k - l) := by ring
    rw [hslope, abs_mul, abs_of_pos (by norm_num : (0 : ℚ) < 9 / 5)]
  · linarith only [abs_nonneg (k - l)]

theorem abs_kelvin_le (x : ℚ) : |u.kelvin x| ≤ |x| + 300 := by
  have hslope := abs_kelvin_sub_le u x 0
  have hshift : |u.kelvin 0| ≤ 300 := by
    rw [kelvin]
    split_ifs <;> norm_num
  have htri := abs_add_le (u.kelvin x - u.kelvin 0) (u.kelvin 0)
  rw [sub_add_cancel] at htri
  rw [sub_zero] at hslope
  linarith only [hslope, hshift, htri]

theorem abs_reading_le (k : ℚ) : |u.reading k| ≤ 9 / 5 * |k| + 500 := by
  have hslope := abs_reading_sub_le u k 0
  have hshift : |u.reading 0| ≤ 500 := by
    rw [reading]
    split_ifs <;> norm_num
  have htri := abs_add_le (u.reading k - u.reading 0) (u.reading 0)
  rw [sub_add_cancel] at htri
  rw [sub_zero] at hslope
  linarith only [hslope, hshift, htri]

/-- An outcome is there, and it is near a number. -/
def Near (ε v : ℚ) (x? : Option Decimal) : Prop := ∃ x, x? = some x ∧ |x.toRat - v| ≤ ε

variable {u} {x : Decimal} {v w ε : ℚ} {x? : Option Decimal}

theorem Near.bind {f : Decimal → Option Decimal} {δ : ℚ} (h : Near ε v x?)
    (hf : ∀ x, |x.toRat - v| ≤ ε → Near δ w (f x)) : Near δ w (x?.bind f) := by
  obtain ⟨x, rfl, hx⟩ := h
  exact hf x hx

/-- One step of a conversion. -/
theorem near_of_rounded (h : x?.map Decimal.toRat = Decimal.rounded? w) (hw : |w| ≤ 10 ^ 12)
    (hwv : |w - v| ≤ ε - 1 / 10 ^ 15) : Near ε v x? := by
  have hroom : |w| < (Decimal.capacity : Nat) - 1 / 2 := by
    rw [Decimal.cast_capacity]
    exact hw.trans_lt (by norm_num)
  obtain ⟨z, hz⟩ := Decimal.exists_rounded hroom
  have hround := Decimal.abs_sub_le_of_rounded hz
  rw [hz] at h
  obtain ⟨x, rfl, rfl⟩ := Option.map_eq_some_iff.1 h
  refine ⟨x, rfl, (abs_sub_le _ w _).trans ?_⟩
  have hlast : (1 / 2 + |w|) / 10 ^ 28 ≤ 1 / 10 ^ 15 := by
    rw [div_le_div_iff₀ (by norm_num) (by norm_num)]
    linarith only [hw]
  linarith only [hround, hlast, hwv]

theorem toRat_zeroCelsius : zeroCelsius.toRat = 5463 / 20 := by
  rw [Decimal.toRat_eq_div (m := 27315) (s := 2) rfl]
  norm_num

theorem toRat_thirtyTwo : (Decimal.ofNat 32).toRat = 32 := by
  rw [Decimal.toRat_eq_div (m := 32) (s := 0) rfl]
  norm_num

theorem toRat_nine : (Decimal.ofNat 9).toRat = 9 := by
  rw [Decimal.toRat_eq_div (m := 9) (s := 0) rfl]
  norm_num

theorem toRat_five : (Decimal.ofNat 5).toRat = 5 := by
  rw [Decimal.toRat_eq_div (m := 5) (s := 0) rfl]
  norm_num

theorem near_toKelvin (hx : |x.toRat| ≤ 10 ^ 10) :
    Near (4 / 10 ^ 15) (u.kelvin x.toRat) (toKelvin? u x) := by
  rw [abs_le] at hx
  rw [kelvin, toKelvin?]
  split
  · refine near_of_rounded (Decimal.value_add? x zeroCelsius) ?_ ?_ <;>
      rw [toRat_zeroCelsius, abs_le] <;> constructor <;> linarith
  · split
    · have habove : Near (1 / 10 ^ 15) (x.toRat - 32) (x.sub? (.ofNat 32)) := by
        refine near_of_rounded (Decimal.value_sub? x (.ofNat 32)) ?_ ?_ <;>
          rw [toRat_thirtyTwo, abs_le] <;> constructor <;> linarith
      refine habove.bind fun above h => ?_
      rw [abs_le] at h
      have hscaled : Near (6 / 10 ^ 15) ((x.toRat - 32) * 5) (above.mul? (.ofNat 5)) := by
        refine near_of_rounded (Decimal.value_mul? above (.ofNat 5)) ?_ ?_ <;>
          rw [toRat_five, abs_le] <;> constructor <;> linarith
      refine hscaled.bind fun scaled h => ?_
      rw [abs_le] at h
      have hdegrees : Near (2 / 10 ^ 15) ((x.toRat - 32) * 5 / 9) (scaled.div? (.ofNat 9)) := by
        refine near_of_rounded (Decimal.value_div? (x := scaled) (y := .ofNat 9) rfl) ?_ ?_ <;>
          rw [toRat_nine, abs_le] <;> constructor <;> linarith
      refine hdegrees.bind fun degrees h => ?_
      rw [abs_le] at h
      refine near_of_rounded (Decimal.value_add? degrees zeroCelsius) ?_ ?_ <;>
        rw [toRat_zeroCelsius, abs_le] <;> constructor <;> linarith
    · exact ⟨x, rfl, by rw [sub_self, abs_zero]; positivity⟩

theorem near_ofKelvin (hx : |x.toRat| ≤ 10 ^ 10) :
    Near (4 / 10 ^ 15) (u.reading x.toRat) (ofKelvin? u x) := by
  rw [abs_le] at hx
  rw [reading, ofKelvin?]
  split
  · refine near_of_rounded (Decimal.value_sub? x zeroCelsius) ?_ ?_ <;>
      rw [toRat_zeroCelsius, abs_le] <;> constructor <;> linarith
  · split
    · have hdegrees : Near (1 / 10 ^ 15) (x.toRat - 5463 / 20) (x.sub? zeroCelsius) := by
        refine near_of_rounded (Decimal.value_sub? x zeroCelsius) ?_ ?_ <;>
          rw [toRat_zeroCelsius, abs_le] <;> constructor <;> linarith
      refine hdegrees.bind fun degrees h => ?_
      rw [abs_le] at h
      have hscaled : Near (10 / 10 ^ 15) ((x.toRat - 5463 / 20) * 9) (degrees.mul? (.ofNat 9)) := by
        refine near_of_rounded (Decimal.value_mul? degrees (.ofNat 9)) ?_ ?_ <;>
          rw [toRat_nine, abs_le] <;> constructor <;> linarith
      refine hscaled.bind fun scaled h => ?_
      rw [abs_le] at h
      have habove : Near (3 / 10 ^ 15) ((x.toRat - 5463 / 20) * 9 / 5)
          (scaled.div? (.ofNat 5)) := by
        refine near_of_rounded (Decimal.value_div? (x := scaled) (y := .ofNat 5) rfl) ?_ ?_ <;>
          rw [toRat_five, abs_le] <;> constructor <;> linarith
      refine habove.bind fun above h => ?_
      rw [abs_le] at h
      refine near_of_rounded (Decimal.value_add? above (.ofNat 32)) ?_ ?_ <;>
        rw [toRat_thirtyTwo, abs_le] <;> constructor <;> linarith
    · exact ⟨x, rfl, by rw [sub_self, abs_zero]; positivity⟩

/-- A reading is converted to one near the exact reading. -/
theorem near_convert {v : MeasureUnit} (hkind : u.category = .temperature)
    (hx : |x.toRat| ≤ 4 * 10 ^ 9) :
    Near (12 / 10 ^ 15) (v.reading (u.kelvin x.toRat)) (u.convert? v x) := by
  rw [convert?, if_pos hkind]
  have hkelvin : Near (4 / 10 ^ 15) (u.kelvin x.toRat) (toKelvin? u x) :=
    near_toKelvin (hx.trans (by norm_num))
  refine hkelvin.bind fun k hk => ?_
  have hnear : |k.toRat| ≤ 10 ^ 10 := by
    have htri := abs_add_le (k.toRat - u.kelvin x.toRat) (u.kelvin x.toRat)
    rw [sub_add_cancel] at htri
    linarith only [htri, hk, abs_kelvin_le u x.toRat, hx]
  obtain ⟨y, hy, hle⟩ := near_ofKelvin (u := v) hnear
  refine ⟨y, hy, (abs_sub_le _ (v.reading k.toRat) _).trans ?_⟩
  linarith only [hle, hk, abs_reading_sub_le v k.toRat (u.kelvin x.toRat)]

/-- No pair has more than twelve places. -/
theorem places_le (u v : MeasureUnit) : (fidelity u v).places ≤ 12 := by
  have hcoarse : ∀ entry ∈ coarse, entry.2.places ≤ 12 := by decide
  rw [fidelity]
  cases h : coarse.lookup (u.symbol, v.symbol) with
  | none => exact Nat.le_refl 12
  | some f =>
    obtain ⟨before, behind, heq, -⟩ := List.lookup_eq_some_iff.1 h
    exact hcoarse ((u.symbol, v.symbol), f) (by simp [heq])

theorem returns_of_temperature {v : MeasureUnit} (hc : u.category = v.category)
    (hkind : u.category = .temperature) (hx : |x.toRat| < 10 ^ 9) : u.Returns v x := by
  have hthere := near_convert (v := v) hkind (hx.le.trans (by norm_num))
  constructor
  · intro _
    obtain ⟨y, hy, -⟩ := hthere
    exact ⟨y, hy⟩
  · intro y hy
    obtain ⟨_, hy', hnear⟩ := hthere
    obtain rfl := Option.some_inj.1 (hy.symm.trans hy')
    have hsize : |y.toRat| ≤ 4 * 10 ^ 9 := by
      have htri := abs_add_le (y.toRat - v.reading (u.kelvin x.toRat))
        (v.reading (u.kelvin x.toRat))
      rw [sub_add_cancel] at htri
      linarith only [htri, hnear, abs_reading_le v (u.kelvin x.toRat), abs_kelvin_le u x.toRat, hx]
    obtain ⟨z, hz, hle⟩ := near_convert (v := u) (hc ▸ hkind) hsize
    refine ⟨z, hz, ?_⟩
    -- The exact way back of the exact reading is where it started.
    have hback := abs_reading_sub_le u (v.kelvin y.toRat) (u.kelvin x.toRat)
    have hkelvin := abs_kelvin_sub_le v y.toRat (v.reading (u.kelvin x.toRat))
    rw [kelvin_reading] at hkelvin
    rw [reading_kelvin] at hback
    have htri := abs_sub_le z.toRat (u.reading (v.kelvin y.toRat)) x.toRat
    have hone := le_max_left 1 |x.toRat|
    have hplaces : 1 / (10 : ℚ) ^ 12 ≤ 1 / 10 ^ (fidelity u v).places :=
      one_div_pow_le_one_div_pow_of_le (by norm_num) (places_le u v)
    refine le_trans ?_ (mul_le_mul_of_nonneg_left hplaces (zero_le_one.trans hone))
    linarith only [htri, hle, hback, hkelvin, hnear, hone]

/-- Every pair of units of one category meets its fidelity. -/
theorem returns {v : MeasureUnit} (hu : u ∈ all) (hv : v ∈ all) (hc : u.category = v.category)
    (hx : |x.toRat| < 10 ^ 9) : u.Returns v x := by
  by_cases hkind : u.category = .temperature
  · exact returns_of_temperature hc hkind hx
  · exact returns_of_factors hu hv hc hkind hx

end MeasureUnit

namespace Eval

/-- Between two units of a category only the magnitude changes. -/
theorem convertUnits_power {u v : MeasureUnit} {n m : String} (hn : MeasureUnit.find? n = some u)
    (hm : MeasureUnit.find? m = some v) (hc : u.category = v.category) (x : Decimal)
    (ctx : Context) (offset : Nat) :
    convertUnits ctx (.quantity (.ofPower x u.category n 1)) [⟨m, 1⟩] offset = (do
      let y ← orOverflow offset (u.convert? v x)
      pure (.quantity (.ofPower y v.category m 1))) := by
  rw [convertUnits, Quantity.targetDims, Quantity.ofTerms_power (MeasureUnit.ofName?_eq_unit hm)]
  show Quantity.convertTo _ (Quantity.ofPower .one v.category m 1).dims ctx.rates offset >>= _ = _
  rw [Quantity.convertTo_power hn hm hc]
  cases u.convert? v x <;> rfl

/-- Between two units of a category every magnitude below the reach of the pair has a result, and
what has one comes back: within as many places as the pair has, counted from the larger of one and
the magnitude.  These are twelve places and a reach of `10 ^ 9` but for the pairs in
`MeasureUnit.coarse`. -/
theorem returns_within {u v : MeasureUnit} {n m : String} (hn : MeasureUnit.find? n = some u)
    (hm : MeasureUnit.find? m = some v) (hc : u.category = v.category) {x : Decimal}
    (hx : |x.toRat| < 10 ^ 9) (ctx : Context) (there back : Nat) :
    (|x.toRat| < (MeasureUnit.fidelity u v).reach → ∃ y,
      convertUnits ctx (.quantity (.ofPower x u.category n 1)) [⟨m, 1⟩] there =
        .ok (.quantity (.ofPower y v.category m 1))) ∧
    ∀ w, convertUnits ctx (.quantity (.ofPower x u.category n 1)) [⟨m, 1⟩] there = .ok w → ∃ z,
      convertUnits ctx w [⟨n, 1⟩] back = .ok (.quantity (.ofPower z u.category n 1)) ∧
      |z.toRat - x.toRat| ≤ max 1 |x.toRat| * (1 / 10 ^ (MeasureUnit.fidelity u v).places) := by
  have hreturns : u.Returns v x :=
    MeasureUnit.returns (MeasureUnit.mem_all_of_find? hn) (MeasureUnit.mem_all_of_find? hm) hc hx
  rw [convertUnits_power hn hm hc]
  constructor
  · intro hreach
    obtain ⟨y, hy⟩ := hreturns.there hreach
    rw [hy]
    exact ⟨y, rfl⟩
  · intro w hw
    cases hy : u.convert? v x with
    | none =>
      rw [hy] at hw
      cases hw
    | some y =>
      rw [hy] at hw
      cases hw
      obtain ⟨z, hz, hle⟩ := hreturns.back y hy
      rw [convertUnits_power hm hn hc.symm, hz]
      exact ⟨z, rfl, hle⟩

theorem returns_within_marathon :
    let ctx := Context.ofClock ⟨0, 0⟩ (.fixed 0)
    let x := Decimal.ofScaled 42195 3
    ∃ y z, convertUnits ctx (.quantity (.ofPower x .length "km" 1)) [⟨"miles", 1⟩] 10 =
        .ok (.quantity (.ofPower y .length "miles" 1)) ∧
      convertUnits ctx (.quantity (.ofPower y .length "miles" 1)) [⟨"km", 1⟩] 20 =
        .ok (.quantity (.ofPower z .length "km" 1)) ∧
      |z.toRat - x.toRat| ≤ max 1 |x.toRat| * (1 / 10 ^ 12) := by
  intro ctx x
  obtain ⟨u, v, hn, hm, hu, hv, hfidelity⟩ : ∃ u v, MeasureUnit.find? "km" = some u ∧
      MeasureUnit.find? "miles" = some v ∧ u.category = .length ∧ v.category = .length ∧
      MeasureUnit.fidelity u v = .full :=
    ⟨_, _, rfl, rfl, rfl, rfl, by decide +kernel⟩
  have hx : |x.toRat| < 10 ^ 9 := by decide +kernel
  obtain ⟨hthere, hback⟩ := returns_within hn hm (hu.trans hv.symm) hx ctx 10 20
  rw [hfidelity, hu, hv] at hthere
  obtain ⟨y, hy⟩ := hthere (by exact_mod_cast hx)
  rw [hfidelity, hu] at hback
  obtain ⟨z, hz, hle⟩ := hback _ hy
  exact ⟨y, z, hy, hz, hle⟩

/-- A nanometre in light years has four digits left. -/
theorem nanometre_not_returned :
    let ctx := Context.ofClock ⟨0, 0⟩ (.fixed 0)
    let y := Decimal.ofScaled 1057 28
    let z := Decimal.ofScaled 9999992109517905600000000000 28
    convertUnits ctx (.quantity (.ofPower .one .length "nm" 1)) [⟨"ly", 1⟩] 5 =
        .ok (.quantity (.ofPower y .length "ly" 1)) ∧
      convertUnits ctx (.quantity (.ofPower y .length "ly" 1)) [⟨"nm", 1⟩] 11 =
        .ok (.quantity (.ofPower z .length "nm" 1)) ∧
      ¬|z.toRat - Decimal.one.toRat| ≤ max 1 |Decimal.one.toRat| * (1 / 10 ^ 12) := by
  intro ctx y z
  obtain ⟨u, v, hn, hm, hu, hv, hy, hz⟩ : ∃ u v, MeasureUnit.find? "nm" = some u ∧
      MeasureUnit.find? "ly" = some v ∧ u.category = .length ∧ v.category = .length ∧
      u.convert? v .one = some y ∧ v.convert? u y = some z :=
    ⟨_, _, rfl, rfl, rfl, rfl, by decide +kernel, by decide +kernel⟩
  have hthere := convertUnits_power hn hm (hu.trans hv.symm) .one ctx 5
  have hback := convertUnits_power hm hn (hv.trans hu.symm) y ctx 11
  rw [hy, hu, hv] at hthere
  rw [hz, hu, hv] at hback
  exact ⟨hthere, hback, by decide +kernel⟩

end Eval

end Reckoner
