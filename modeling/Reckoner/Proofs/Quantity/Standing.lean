import Mathlib.Algebra.BigOperators.Ring.List
import Mathlib.Algebra.Order.BigOperators.GroupWithZero.List
import Mathlib.Tactic.NormNum
import Reckoner.Proofs.Decimal.Order
import Reckoner.Proofs.Quantity.Magnitude

/-!
# Where quantities stand

Quantities of the same dimensions, readings of temperatures among them, stand
on one scale: the amount in base units, counted from the zero of the scale.  A
conversion is exact if the quantity stands where it did.

* `Quantity.toRat_eq_iff_standing`, `Quantity.cmp_standing`: quantities with the
  same units are in the order of their magnitudes.
* `Quantity.convertsExactly_self`: a quantity that is no reading is converted
  into its own units exactly, whatever the rates.
-/

namespace Reckoner

/-! ## Scales -/

/-- The size of a unit.  A currency that has no rate, or the rate zero, is
converted into no other one, and its size is of no account. -/
def Denomination.weight (rates : RateTable) : Denomination → ℚ
  | unit u => if u.symbol = "fahrenheit" then 5 / 9 else u.factor.toRat
  | currency code =>
    ((rates.rate? code).filter fun rate => !rate.isZero).elim 1 fun rate => rate.toRat⁻¹

/-- No rate is negative. -/
def RateTable.Nonnegative (rates : RateTable) : Prop :=
  ∀ code rate, rates.rate? code = some rate → rate.isNegative = false

/-- The size of what a spelling stands for. -/
def Denomination.weightOf (rates : RateTable) (name : String) : ℚ :=
  (ofName? name).elim 1 (weight rates)

namespace Dimensions

/-- The product of the sizes of units, each with its power. -/
def weight (rates : RateTable) (d : Dimensions) : ℚ :=
  (d.terms.map fun t => Denomination.weightOf rates t.unit ^ t.exponent).prod

/-- The unit of a reading of a temperature. -/
def reading? (d : Dimensions) : Option MeasureUnit := (Quantity.temperaturePair? d d).map (·.1)

/-- The zero of a scale, in kelvin for readings of temperatures. -/
def origin (d : Dimensions) : ℚ :=
  match d.reading? with
  | some u =>
    if u.symbol = "celsius" then 27315 / 100
    else if u.symbol = "fahrenheit" then 27315 / 100 - 32 * 5 / 9
    else 0
  | .none => 0

end Dimensions

namespace Quantity

/-- A quantity in one unit. -/
def ofUnit (x : Decimal) (category : Category) (unit : String) : Quantity :=
  { magnitude := x, dims := ⟨[{ category, unit, exponent := 1 }]⟩ }

/-- Where a quantity stands among those of its dimensions. -/
def standing (rates : RateTable) (q : Quantity) : ℚ :=
  q.magnitude.toRat * q.dims.weight rates + q.dims.origin

/-- A conversion succeeds. -/
def Converts (q : Quantity) (target : Dimensions) (rates : RateTable) (offset : Nat) : Prop :=
  ∃ r, q.convertTo target rates offset = .ok r

/-- What a conversion gives stands where the quantity does: it is not
rounded. -/
def Faithful (q : Quantity) (target : Dimensions) (rates : RateTable) (offset : Nat) : Prop :=
  ∀ r, q.convertTo target rates offset = .ok r → r.standing rates = q.standing rates

/-- A conversion that succeeds and is not rounded. -/
def ConvertsExactly (q : Quantity) (target : Dimensions) (rates : RateTable) (offset : Nat) :
    Prop :=
  ∃ r, q.convertTo target rates offset = .ok r ∧ r.standing rates = q.standing rates

theorem convertsExactly_iff {q : Quantity} {target : Dimensions} {rates : RateTable}
    {offset : Nat} :
    q.ConvertsExactly target rates offset ↔
      q.Converts target rates offset ∧ q.Faithful target rates offset := by
  constructor
  · rintro ⟨r, hr, hstanding⟩
    refine ⟨⟨r, hr⟩, fun r' hr' => ?_⟩
    cases hr.symm.trans hr'
    exact hstanding
  · rintro ⟨⟨r, hr⟩, h⟩
    exact ⟨r, hr, h r hr⟩

instance (q : Quantity) (target : Dimensions) (rates : RateTable) (offset : Nat) :
    Decidable (q.ConvertsExactly target rates offset) :=
  match h : q.convertTo target rates offset with
  | .ok r => decidable_of_iff (r.standing rates = q.standing rates)
      ⟨fun hr => ⟨r, h, hr⟩, fun hexact => (convertsExactly_iff.1 hexact).2 r h⟩
  | .error e => .isFalse fun ⟨_, hr, _⟩ => by
      rw [h] at hr
      cases hr

end Quantity

variable {rates : RateTable} {offset : Nat}

/-! ## Sizes -/

namespace Denomination

theorem factor_negative : ∀ u ∈ MeasureUnit.all, u.factor.negative = false := by decide

theorem toRat_pos {x : Decimal} (hnegative : x.negative = false) (hzero : x.isZero = false) :
    0 < x.toRat := by
  have hmantissa : 0 < x.mantissa := Nat.pos_of_ne_zero (by simpa [Decimal.isZero] using hzero)
  rw [Decimal.toRat, Decimal.signed, hnegative]
  exact div_pos (by simpa using hmantissa) (Decimal.tenPow_cast_pos _)

theorem weight_unit_pos {u : MeasureUnit} (hu : u ∈ MeasureUnit.all) :
    0 < (unit u).weight rates := by
  rw [weight]
  split
  · norm_num
  · exact toRat_pos (factor_negative u hu) (MeasureUnit.factor_isZero u hu)

theorem mem_all_of_ofName? {name : String} {u : MeasureUnit} (h : ofName? name = some (unit u)) :
    u ∈ MeasureUnit.all := by
  unfold ofName? at h
  split at h
  · rename_i hfind
    cases h
    exact MeasureUnit.mem_all_of_find? hfind
  · split at h <;> cases h

theorem weightOf_ne_zero (rates : RateTable) (name : String) : weightOf rates name ≠ 0 := by
  unfold weightOf
  cases h : ofName? name with
  | none => exact one_ne_zero
  | some d =>
    rw [Option.elim_some]
    cases d with
    | unit u => exact (weight_unit_pos (mem_all_of_ofName? h)).ne'
    | currency code =>
      rw [weight]
      cases hrate : (rates.rate? code).filter fun rate => !rate.isZero with
      | none => exact one_ne_zero
      | some rate =>
        have hzero := (Option.filter_eq_some_iff.1 hrate).2
        exact inv_ne_zero (Decimal.toRat_ne_zero (by simpa using hzero))

theorem weightOf_pos (h : rates.Nonnegative) (name : String) : 0 < weightOf rates name := by
  unfold weightOf
  cases hname : ofName? name with
  | none => exact one_pos
  | some d =>
    rw [Option.elim_some]
    cases d with
    | unit u => exact weight_unit_pos (mem_all_of_ofName? hname)
    | currency code =>
      rw [weight]
      cases hrate : (rates.rate? code).filter fun rate => !rate.isZero with
      | none => exact one_pos
      | some rate =>
        obtain ⟨hsome, hzero⟩ := Option.filter_eq_some_iff.1 hrate
        have hzero : rate.isZero = false := by simpa using hzero
        have hnegative : rate.negative = false := by
          simpa [Decimal.isNegative, hzero] using h code rate hsome
        exact inv_pos.2 (toRat_pos hnegative hzero)

end Denomination

theorem Dimensions.weight_ne_zero (rates : RateTable) (d : Dimensions) : d.weight rates ≠ 0 :=
  List.prod_ne_zero fun h => by
    obtain ⟨t, -, ht⟩ := List.mem_map.1 h
    exact zpow_ne_zero _ (Denomination.weightOf_ne_zero rates t.unit) ht

theorem Dimensions.weight_pos (h : rates.Nonnegative) (d : Dimensions) : 0 < d.weight rates :=
  List.prod_pos fun x hx => by
    obtain ⟨t, -, rfl⟩ := List.mem_map.1 hx
    exact zpow_pos (Denomination.weightOf_pos h t.unit) _

/-! ## Compatible units -/

namespace Dimensions

variable {d e f : Dimensions}

theorem find?_of_mem_of_nodup (hd : (d.terms.map Term.category).Nodup) {t : Term}
    (ht : t ∈ d.terms) : d.find? t.category = some t := by
  cases h : d.find? t.category with
  | none =>
    have hnone := List.find?_eq_none.1 h t ht
    simp at hnone
  | some u =>
    obtain ⟨hu, hcategory⟩ := mem_find? h
    rw [List.inj_on_of_nodup_map hd hu ht hcategory]

theorem WellFormed.find?_of_mem (hd : d.WellFormed) {t : Term} (ht : t ∈ d.terms) :
    d.find? t.category = some t := find?_of_mem_of_nodup hd.distinct ht

theorem compatible_iff : d.compatible e = true ↔
    d.terms.length = e.terms.length ∧
      ∀ t ∈ d.terms, ∃ u, e.find? t.category = some u ∧ u.exponent = t.exponent := by
  simp only [compatible, Bool.and_eq_true, beq_iff_eq, List.all_eq_true]
  refine and_congr_right fun _ => forall₂_congr fun t _ => ?_
  cases e.find? t.category with
  | none => simp
  | some u => simp

theorem compatible_self_of_nodup (hd : (d.terms.map Term.category).Nodup) :
    d.compatible d = true :=
  compatible_iff.2 ⟨rfl, fun t ht => ⟨t, find?_of_mem_of_nodup hd ht, rfl⟩⟩

theorem WellFormed.compatible_self (hd : d.WellFormed) : d.compatible d = true :=
  compatible_self_of_nodup hd.distinct

theorem WellFormed.compatible_symm (hd : d.WellFormed) (h : d.compatible e = true) :
    e.compatible d = true := by
  obtain ⟨hperm, hgoal⟩ := goals_perm hd.distinct h
  refine compatible_iff.2 ⟨(compatible_iff.1 h).1.symm, fun u hu => ?_⟩
  obtain ⟨t, ht, rfl⟩ := List.mem_map.1 (hperm.mem_iff.2 hu)
  obtain ⟨hfind, hexponent⟩ := hgoal t ht
  refine ⟨t, ?_, hexponent.symm⟩
  rw [(mem_find? hfind).2]
  exact hd.find?_of_mem ht

theorem compatible_trans (hde : d.compatible e = true) (hef : e.compatible f = true) :
    d.compatible f = true := by
  obtain ⟨hlength, hde⟩ := compatible_iff.1 hde
  obtain ⟨hlength', hef⟩ := compatible_iff.1 hef
  refine compatible_iff.2 ⟨hlength.trans hlength', fun t ht => ?_⟩
  obtain ⟨u, hu, hexponent⟩ := hde t ht
  obtain ⟨hmem, hcategory⟩ := mem_find? hu
  obtain ⟨v, hv, hexponent'⟩ := hef u hmem
  exact ⟨v, hcategory ▸ hv, hexponent'.trans hexponent⟩

end Dimensions

namespace Quantity

/-! ## Order -/

theorem dims_convertTo {q r : Quantity} {target : Dimensions}
    (h : q.convertTo target rates offset = .ok r) : r.dims = target := by
  unfold convertTo at h
  split at h
  · cases h
  split at h
  · cases hx : convertTemperature q.magnitude _ _ offset with
    | error e =>
      rw [hx] at h
      cases h
    | ok x =>
      rw [hx] at h
      cases h
      rfl
  · cases hx : q.convertMagnitude target rates offset with
    | error e =>
      rw [hx] at h
      cases h
    | ok x =>
      rw [hx] at h
      cases h
      rfl

theorem toRat_eq_iff_standing {p q : Quantity} (h : p.dims = q.dims) :
    p.magnitude.toRat = q.magnitude.toRat ↔ p.standing rates = q.standing rates := by
  rw [standing, standing, h, add_left_inj, mul_left_inj' (q.dims.weight_ne_zero rates)]

theorem cmp_standing (hrates : rates.Nonnegative) {p q : Quantity} (h : p.dims = q.dims) :
    cmp p.magnitude.toRat q.magnitude.toRat = cmp (p.standing rates) (q.standing rates) := by
  rw [standing, standing, h, cmp_add_right, cmp_mul_pos_right (q.dims.weight_pos hrates)]

/-! ## Exact conversions -/

theorem temperaturePair?_self_eq_none {d : Dimensions} (h : d.reading? = none) :
    temperaturePair? d d = none := Option.map_eq_none_iff.1 h

theorem ratio_self (e : Denomination) : ratio e e rates offset = .ok .one := by
  rw [ratio.eq_def, beq_self_eq_true, if_pos rfl]
  rfl

theorem powFactor_one (n : Int) : powFactor .one n offset = .ok .one := by
  rw [powFactor, Decimal.powInt?_one]
  split <;> rfl

/-- The factors between units and themselves are one. -/
theorem exists_convertMagnitude_self {d : Dimensions} {ts : List Term}
    (hfind : ∀ t ∈ ts, d.find? t.category = some t) (hresolves : ∀ t ∈ ts, t.Resolves)
    (x : Decimal) :
    ∃ y, convertMagnitude ⟨x, ⟨ts⟩⟩ d rates offset = .ok y ∧ y.toRat = x.toRat := by
  unfold convertMagnitude
  induction ts generalizing x with
  | nil => exact ⟨x, rfl, rfl⟩
  | cons t ts ih =>
    obtain ⟨e, he, -⟩ := hresolves t List.mem_cons_self
    obtain ⟨y, hy, hyx⟩ := Decimal.exists_mul?_one x
    obtain ⟨z, hz, hzy⟩ := ih (fun u hu => hfind u (List.mem_cons_of_mem _ hu))
      (fun u hu => hresolves u (List.mem_cons_of_mem _ hu)) y
    refine ⟨z, ?_, hzy.trans hyx⟩
    rw [List.foldlM_cons, hfind t List.mem_cons_self]
    dsimp only
    rw [ofName_eq_ok he]
    show (ratio e e rates offset >>= _) >>= _ = _
    rw [ratio_self]
    show (powFactor .one t.exponent offset >>= _) >>= _ = _
    rw [powFactor_one]
    show orOverflow offset (x.mul? .one) >>= _ = _
    rw [hy]
    exact hz

/-- A quantity that is no reading of a temperature is converted into its own
units exactly, whatever the rates. -/
theorem convertsExactly_self {q : Quantity} (hq : q.WellFormed) (h : q.dims.reading? = none) :
    q.ConvertsExactly q.dims rates offset := by
  have hfind : ∀ t ∈ q.dims.terms, q.dims.find? t.category = some t :=
    fun t ht => hq.dims.find?_of_mem ht
  obtain ⟨y, hy, hyx⟩ := exists_convertMagnitude_self hfind hq.dims.resolves q.magnitude
  refine ⟨{ magnitude := y, dims := q.dims }, ?_, ?_⟩
  · rw [convertTo, hq.dims.compatible_self, temperaturePair?_self_eq_none h]
    show q.convertMagnitude q.dims rates offset >>= _ = _
    rw [hy]
    rfl
  · rw [standing, standing, hyx]

end Quantity

end Reckoner
