import Mathlib.Algebra.BigOperators.Group.List.Basic
import Mathlib.Algebra.GroupWithZero.Basic
import Mathlib.Data.List.Nodup
import Mathlib.Data.Rat.Cast.Order
import Mathlib.Tactic.FieldSimp
import Reckoner.Proofs.Quantity.Exact
import Reckoner.Proofs.Quantity.WellFormed

/-!
# Sizes of units

The size of a unit is a rational number: the factor of the table, or for a
currency the inverse of its rate.  `Dimensions.size` is the product of the
sizes with their powers, `Quantity.baseMagnitude` the magnitude times that.

* `yields_ratio_exact`: a factor between two units that is not rounded is the
  quotient of their sizes, whichever way it was found.
* `yields_powFactor_exact`: a power of a factor that is not rounded is the power
  of its value.
-/

namespace Reckoner

/-! ## Decimals as rational numbers -/

namespace Decimal

theorem toRat_one : one.toRat = 1 := by decide +kernel

theorem toRat_neg (x : Decimal) : x.neg.toRat = -x.toRat := by
  unfold toRat signed neg
  cases x.negative <;> simp [neg_div]

theorem toRat_eq_zero_iff (x : Decimal) : x.toRat = 0 ↔ x.isZero = true := by
  have hpow : (tenPow x.scale : ℚ) ≠ 0 := by
    exact_mod_cast (tenPow_pos x.scale).ne'
  unfold toRat
  rw [div_eq_zero_iff, or_iff_left hpow]
  unfold signed isZero
  cases x.negative <;> simp

theorem toRat_ne_zero {x : Decimal} (h : x.isZero = false) : x.toRat ≠ 0 := fun heq => by
  rw [(toRat_eq_zero_iff x).1 heq] at h
  cases h

end Decimal

/-! ## Sizes -/

namespace Denomination

/-- The size of a unit, or of one unit of a currency. -/
def size (rates : RateTable) : Denomination → ℚ
  | unit u => u.factor.toRat
  | currency code => ((rates.rate? code).elim 0 Decimal.toRat)⁻¹

/-- The size of what a spelling stands for. -/
def sizeOf (rates : RateTable) (name : String) : ℚ := (ofName? name).elim 1 (size rates)

/-- A unit has a size that does not depend on readings: it measures no
temperature, and a currency has a rate other than zero. -/
inductive Sized (rates : RateTable) : Denomination → Prop where
  | unit {u : MeasureUnit} (hu : u ∈ MeasureUnit.all) (h : u.category ≠ .temperature) :
    Sized rates (unit u)
  | currency {code : String} {rate : Decimal} (hcode : Currency.isCode code = true)
    (hrate : rates.rate? code = some rate) (hzero : rate.isZero = false) :
    Sized rates (currency code)

end Denomination

/-- Whatever a spelling stands for has a size. -/
def Convertible (rates : RateTable) (name : String) : Prop :=
  ∀ d, Denomination.ofName? name = some d →
    d.category ≠ .temperature ∧
      ∀ code, d = .currency code → ∃ rate, rates.rate? code = some rate ∧ rate.isZero = false

/-- Whether a denomination has a size, for the instance below. -/
def Denomination.hasSize (rates : RateTable) (d : Denomination) : Bool :=
  d.category ≠ .temperature &&
    match d with
    | .unit _ => true
    | .currency code => (rates.rate? code).any fun rate => !rate.isZero

instance (rates : RateTable) (name : String) : Decidable (Convertible rates name) :=
  decidable_of_iff ((Denomination.ofName? name).all (Denomination.hasSize rates)) <| by
    simp only [Option.all_eq_true, Convertible, Denomination.hasSize]
    refine forall₂_congr fun d _ => ?_
    cases d <;> simp [Option.any_eq_true]

/-- The product of the sizes of units, each with its power. -/
def Dimensions.size (rates : RateTable) (d : Dimensions) : ℚ :=
  (d.terms.map fun t => Denomination.sizeOf rates t.unit ^ t.exponent).prod

/-- The magnitude in base units. -/
def Quantity.baseMagnitude (rates : RateTable) (q : Quantity) : ℚ :=
  q.magnitude.toRat * q.dims.size rates

/-- The value of a number, or the magnitude in base units. -/
def Amount.baseMagnitude (rates : RateTable) : Amount → ℚ
  | .number x => x.toRat
  | .quantity q => q.baseMagnitude rates

/-! ## The table -/

namespace MeasureUnit

theorem mem_all_of_find? {name : String} {u : MeasureUnit} (h : find? name = some u) :
    u ∈ all := by
  unfold find? at h
  split at h
  · rename_i v hv
    cases h
    exact List.mem_of_find?_eq_some hv
  · split at h
    · cases h
    · obtain ⟨entry, hentry, rfl⟩ := Option.map_eq_some_iff.1 h
      obtain ⟨v, hv, hmem⟩ := List.mem_flatMap.1 (List.mem_of_find?_eq_some hentry)
      obtain ⟨n, _, rfl⟩ := List.mem_map.1 hmem
      exact hv

theorem symbols_nodup : (all.map symbol).Nodup := by decide +kernel

theorem factor_isZero : ∀ u ∈ all, u.factor.isZero = false := by decide +kernel

theorem symbol_isCode : ∀ u ∈ all, Currency.isCode u.symbol = false := by decide +kernel

theorem eq_of_symbol_eq {u v : MeasureUnit} (hu : u ∈ all) (hv : v ∈ all)
    (h : u.symbol = v.symbol) : u = v :=
  List.inj_on_of_nodup_map symbols_nodup hu hv h

end MeasureUnit

namespace Denomination

variable {rates : RateTable} {name : String} {d : Denomination}

theorem sized_of_convertible (h : Convertible rates name) (hd : ofName? name = some d) :
    Sized rates d := by
  obtain ⟨hcategory, hrate⟩ := h d hd
  unfold ofName? at hd
  split at hd
  · rename_i u hu
    cases hd
    exact .unit (MeasureUnit.mem_all_of_find? hu) hcategory
  · split at hd
    · rename_i hcode
      cases hd
      obtain ⟨rate, hsome, hzero⟩ := hrate name rfl
      exact .currency hcode hsome hzero
    · cases hd

theorem sizeOf_eq (hd : ofName? name = some d) : sizeOf rates name = d.size rates := by
  rw [sizeOf, hd]
  rfl

theorem size_currency {code : String} {rate : Decimal} (h : rates.rate? code = some rate) :
    (currency code).size rates = rate.toRat⁻¹ := by
  rw [size, h]
  rfl

theorem Sized.size_ne_zero (h : Sized rates d) : d.size rates ≠ 0 := by
  cases h with
  | unit hu _ => exact Decimal.toRat_ne_zero (MeasureUnit.factor_isZero _ hu)
  | currency _ hrate hzero =>
    rw [size_currency hrate]
    exact inv_ne_zero (Decimal.toRat_ne_zero hzero)

theorem symbol_ne_of_isCode {u : MeasureUnit} (hu : u ∈ MeasureUnit.all) {code : String}
    (hcode : Currency.isCode code = true) : u.symbol ≠ code := fun h => by
  have hsymbol := MeasureUnit.symbol_isCode u hu
  rw [h, hcode] at hsymbol
  cases hsymbol

/-- What has one canonical name is one and the same. -/
theorem Sized.eq_of_canonical_eq {d e : Denomination} (hd : Sized rates d) (he : Sized rates e)
    (h : d.canonical = e.canonical) : d = e := by
  cases hd with
  | unit hu _ =>
    cases he with
    | unit hv _ => exact congrArg Denomination.unit (MeasureUnit.eq_of_symbol_eq hu hv h)
    | currency hcode _ _ => exact (symbol_ne_of_isCode hu hcode h).elim
  | currency hcode _ _ =>
    cases he with
    | unit hv _ => exact (symbol_ne_of_isCode hv hcode h.symm).elim
    | currency _ _ _ => exact congrArg Denomination.currency h

end Denomination

/-! ## Factors between units -/

/-- No care for units: what is known of them is said apart. -/
def noCare : Care := ⟨False, False, id⟩

section

variable {rates : RateTable} {offset : Nat}

theorem yields_exact {op : Option Decimal} {r : ℚ} :
    Yields noCare offset (fun z => z.toRat = r)
      (orOverflow offset (op.filter fun z => z.toRat = r)) :=
  yields_orFail rfl fun z hz => by simpa using (Option.filter_eq_some_iff.1 hz).2

theorem yields_baseFactor_exact {d : Denomination} (hd : d.Sized rates) :
    Yields noCare offset (fun z => z.toRat = d.size rates)
      (Arithmetic.exact.baseFactor d rates offset) := by
  cases hd with
  | unit _ hcategory =>
    simp only [Arithmetic.baseFactor, hcategory, if_false]
    exact yields_pure rfl
  | @currency code rate _ hrate hzero =>
    simp only [Arithmetic.baseFactor, RateTable.rate, hrate]
    show Yields noCare offset _ (if rate.isZero then _ else _)
    rw [hzero, Denomination.size_currency hrate]
    refine yields_exact.imp fun z hz => ?_
    rw [hz, Decimal.toRat_one, one_div]

theorem yields_ratio_exact {s t : Denomination} (hs : s.Sized rates) (ht : t.Sized rates) :
    Yields noCare offset (fun z => z.toRat = s.size rates / t.size rates)
      (Arithmetic.exact.ratio s t rates offset) := by
  rw [Arithmetic.ratio.eq_def]
  split
  · rename_i hsame
    cases hs.eq_of_canonical_eq ht (by simpa using hsame)
    exact yields_pure (by rw [Decimal.toRat_one, div_self hs.size_ne_zero])
  · split
    · rename_i a b _
      cases hs with
      | @currency _ rateA _ hrateA hzeroA =>
        cases ht with
        | @currency _ rateB _ hrateB hzeroB =>
          simp only [RateTable.rate, hrateA, hrateB]
          show Yields noCare offset _ (if rateA.isZero then _ else _)
          rw [hzeroA, Denomination.size_currency hrateA, Denomination.size_currency hrateB]
          refine yields_exact.imp fun z hz => ?_
          rw [hz, inv_div_inv]
    · refine (yields_baseFactor_exact hs).bind fun x hx => ?_
      refine (yields_baseFactor_exact ht).bind fun y hy => ?_
      refine yields_exact.imp fun z hz => ?_
      rw [hz, hx, hy]

theorem yields_powFactor_exact (x : Decimal) (n : Int) :
    Yields noCare offset (fun z => z.toRat = x.toRat ^ n)
      (Arithmetic.exact.powFactor x n offset) := by
  unfold Arithmetic.powFactor
  split
  · rename_i hone
    exact yields_pure (by rw [hone, zpow_one])
  · exact yields_exact

end

end Reckoner
