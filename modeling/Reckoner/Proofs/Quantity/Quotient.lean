import Reckoner.Eval.Expression
import Reckoner.Proofs.Decimal.Division
import Reckoner.Proofs.Quantity.Exponents
import Reckoner.Proofs.Quantity.Standing

/-!
# Quotients in one unit

A division by a number is one step.  A division by a quantity is two: the
reciprocal, which is rounded, and then the product.  The two ways agree where
the two roundings come to the same, and so wherever the reciprocal is exact.

* `div_powers` and `div_number_power` are the quotients in a unit, up to the
  product of magnitudes.  Between a unit and itself there is only the factor one,
  which does nothing (`exists_mul?_one`).
* `exists_number_iff` and `exists_quantity_iff` read the value off, and
  `divides_as_numbers_iff` compares it with the quotient of the numbers.
-/

namespace Reckoner

variable {ctx : Context} {rates : RateTable} {offset : Nat}

/-! ## Reciprocals -/

namespace Decimal

/-- Nothing is so close to zero that its reciprocal has no room. -/
theorem exists_reciprocal {y : Decimal} (hy : y.isZero = false) : ∃ z, one.div? y = some z := by
  have hmantissa : (1 : ℚ) ≤ y.mantissa := by
    have hpos : 0 < y.mantissa := Nat.pos_of_ne_zero (by simpa [isZero] using hy)
    exact_mod_cast hpos
  have hpow : (10 : ℚ) ^ y.scale ≤ 10 ^ maxScale := pow_le_pow_right₀ (by norm_num) y.scale_le
  have hscale : (0 : ℚ) < 10 ^ y.scale := by positivity
  have habs : |one.toRat / y.toRat| ≤ 10 ^ maxScale := by
    rw [toRat_one, abs_div, abs_one, abs_toRat, one_div_div]
    exact (div_le_self hscale.le hmantissa).trans hpow
  have hroom : (10 : ℚ) ^ maxScale < (capacity : Nat) - 1 / 2 := by
    rw [cast_capacity]
    norm_num
  obtain ⟨v, hv⟩ := exists_rounded (habs.trans_lt hroom)
  rw [← value_div? hy] at hv
  obtain ⟨z, hz, -⟩ := Option.map_eq_some_iff.1 hv
  exact ⟨z, hz⟩

/-- With an exact reciprocal the product is rounded as the quotient is. -/
theorem rounded?_mul_reciprocal {x y z r : Decimal} (hy : y.isZero = false)
    (hr : x.div? y = some r) (hz : z.toRat * y.toRat = 1) :
    rounded? (x.toRat * z.toRat) = some r.toRat := by
  have hquotient : x.toRat * z.toRat = x.toRat / y.toRat := by
    rw [eq_div_iff (toRat_ne_zero hy), mul_assoc, hz, mul_one]
  rw [hquotient, ← value_div? hy, hr, Option.map_some]

end Decimal

namespace Quantity

variable {u : Denomination} {spelling other : String} {e : Int}

/-! ## Quotients -/

/-- The quotient in one unit is a number: the product with the reciprocal. -/
theorem div_powers (h : Denomination.ofName? spelling = some u)
    (h' : Denomination.ofName? other = some u) (he : e ≠ 0) {x y z : Decimal}
    (hy : y.isZero = false) (hz : Decimal.one.div? y = some z) :
    (ofPower x u.category spelling e).div (ofPower y u.category other e) rates offset = (do
      let w ← orOverflow offset ((x.mul? z).bind (·.mul? .one))
      pure (.number w)) := by
  rw [ofPower_of_ne_zero x _ _ he, ofPower_of_ne_zero y _ _ he, div, if_neg (by simp [hy]), hz]
  show mul _ _ rates offset = _
  unfold mul scale
  dsimp only
  cases x.mul? z with
  | none => rfl
  | some w =>
    have habsorb : absorb { magnitude := w, dims := ⟨[⟨u.category, spelling, e⟩]⟩ } u other (-e)
        rates offset = (do
          let w ← orOverflow offset (w.mul? .one)
          pure { magnitude := w, dims := .none }) := by
      have hfind : Dimensions.find? ⟨[⟨u.category, spelling, e⟩]⟩ u.category =
          some ⟨u.category, spelling, e⟩ := by simp [Dimensions.find?]
      have hgone : Dimensions.shiftExponent ⟨[⟨u.category, spelling, e⟩]⟩ u.category (-e) =
          .none := by simp [Dimensions.shiftExponent, Dimensions.none]
      rw [absorb, hfind]
      dsimp only
      rw [ofName_eq_ok h, hgone]
      show ratio u u rates offset >>= _ = _
      rw [ratio_self]
      show powFactor .one (-e) offset >>= _ = _
      rw [powFactor_one]
      rfl
    show absorbTerms _ _ rates offset >>= _ = _
    unfold absorbTerms
    rw [Dimensions.negated, List.map_singleton, List.map_singleton, List.foldlM_cons]
    dsimp only
    rw [ofName_eq_ok h']
    show (absorb _ u other (-e) rates offset >>= _) >>= _ = _
    rw [habsorb]
    show _ = orOverflow offset (w.mul? .one) >>= fun w => pure (Amount.number w)
    cases w.mul? .one <;> rfl

/-- A number divided by a unit is the product with the reciprocal, the power negated. -/
theorem div_number_power (h : Denomination.ofName? other = some u) (he : e ≠ 0) {x y z : Decimal}
    (hy : y.isZero = false) (hz : Decimal.one.div? y = some z) :
    div { magnitude := x, dims := .none } (ofPower y u.category other e) rates offset = (do
      let w ← orOverflow offset (x.mul? z)
      pure (ofPower w u.category other (-e)).toAmount) := by
  rw [ofPower_of_ne_zero y _ _ he, div, if_neg (by simp [hy]), hz]
  show mul _ _ rates offset = _
  unfold mul scale
  dsimp only
  cases x.mul? z with
  | none => rfl
  | some w =>
    -- Building the quotient's units is building a literal of the negated power.
    show ofTerms w [⟨other, -e⟩] rates offset >>= _ = _
    rw [ofTerms_power h]
    rfl

end Quantity

/-! ## Values -/

namespace Eval

variable {u : Denomination} {n m : String} {e : Int} {x y z : Decimal} {v : ℚ}

/-- The operands are literals. -/
theorem quantityOf_power (h : Denomination.ofName? n = some u) (x : Decimal) (e : Int) :
    quantityOf ctx x [⟨n, e⟩] offset =
      .ok (.ofAmount (Quantity.ofPower x u.category n e).toAmount) := by
  rw [quantityOf, if_neg (by simp), Quantity.ofTerms_power h]
  rfl

theorem ofAmount_power (x : Decimal) (n : String) (he : e ≠ 0) :
    Value.ofAmount (Quantity.ofPower x u.category n e).toAmount =
      .quantity (.ofPower x u.category n e) := by
  rw [Quantity.ofPower_of_ne_zero x _ _ he]
  rfl

theorem exists_ok_iff {f : Decimal → Value} (hf : f.Injective) {w? : Option Decimal} :
    (∃ w, (do let w ← orOverflow offset w?; pure (f w) : Checked Value) = .ok (f w) ∧ w.toRat = v) ↔
      w?.map Decimal.toRat = some v := by
  cases w? with
  | none =>
    refine ⟨fun h => ?_, fun h => nomatch h⟩
    obtain ⟨w, hw, -⟩ := h
    cases hw
  | some w =>
    rw [Option.map_some, Option.some_inj]
    constructor
    · rintro ⟨w', hw, rfl⟩
      rw [hf (Except.ok.inj hw)]
    · intro h
      exact ⟨w, rfl, h⟩

/-- The quotient in one unit is what the product with the reciprocal is rounded to. -/
theorem exists_number_iff (hn : Denomination.ofName? n = some u)
    (hm : Denomination.ofName? m = some u) (he : e ≠ 0) (hy : y.isZero = false)
    (hz : Decimal.one.div? y = some z) :
    (∃ w, div ctx (.quantity (.ofPower x u.category n e)) (.quantity (.ofPower y u.category m e))
        offset = .ok (.number w) ∧ w.toRat = v) ↔
      Decimal.rounded? (x.toRat * z.toRat) = some v := by
  have hdiv : div ctx (.quantity (.ofPower x u.category n e))
      (.quantity (.ofPower y u.category m e)) offset = (do
        let w ← orOverflow offset ((x.mul? z).bind (·.mul? .one))
        pure (.number w)) := by
    have hzero : isZeroAmount (.quantity (.ofPower y u.category m e)) = false := hy
    rw [div, hzero, if_neg Bool.false_ne_true, Quantity.div_powers hn hm he hy hz]
    cases (x.mul? z).bind (·.mul? .one) <;> rfl
  have hvalue : ((x.mul? z).bind (·.mul? .one)).map Decimal.toRat =
      (x.mul? z).map Decimal.toRat := by
    cases x.mul? z with
    | none => rfl
    | some w =>
      obtain ⟨w', hw', hsame⟩ := Decimal.exists_mul?_one w
      rw [Option.bind_some, hw', Option.map_some, Option.map_some, hsame]
  rw [hdiv, exists_ok_iff fun _ _ h => Value.number.inj h, hvalue, Decimal.value_mul?]

/-- A number divided by a unit is what the product with the reciprocal is rounded to. -/
theorem exists_quantity_iff (hm : Denomination.ofName? m = some u) (he : e ≠ 0)
    (hy : y.isZero = false) (hz : Decimal.one.div? y = some z) :
    (∃ w, div ctx (.number x) (.quantity (.ofPower y u.category m e)) offset =
        .ok (.quantity (.ofPower w u.category m (-e))) ∧ w.toRat = v) ↔
      Decimal.rounded? (x.toRat * z.toRat) = some v := by
  have hdiv : div ctx (.number x) (.quantity (.ofPower y u.category m e)) offset = (do
      let w ← orOverflow offset (x.mul? z)
      pure (.quantity (.ofPower w u.category m (-e)))) := by
    have hzero : isZeroAmount (.quantity (.ofPower y u.category m e)) = false := hy
    rw [div, hzero, if_neg Bool.false_ne_true, Quantity.div_number_power hm he hy hz]
    cases x.mul? z with
    | none => rfl
    | some w => exact congrArg Except.ok (ofAmount_power w m (neg_ne_zero.2 he))
  have hinjective : (fun w => Value.quantity (.ofPower w u.category m (-e))).Injective :=
    fun _ _ h => congrArg Quantity.magnitude (Value.quantity.inj h)
  rw [hdiv, exists_ok_iff hinjective, Decimal.value_mul?]

/-- Quotients in one unit, of a quantity and of a number, agree with the quotient `r` of the
magnitudes exactly if the product with the reciprocal is rounded to `r`; the zeroth power is no
unit.  The reciprocal is always there, and if it is exact they agree. -/
theorem divides_as_numbers_iff (hn : Denomination.ofName? n = some u)
    (hm : Denomination.ofName? m = some u) (e : Int) {r : Decimal}
    (hr : div ctx (.number x) (.number y) offset = .ok (.number r)) :
    ∃ p q z, quantityOf ctx x [⟨n, e⟩] offset = .ok p ∧ quantityOf ctx y [⟨m, e⟩] offset = .ok q ∧
      Decimal.one.div? y = some z ∧
      (((∃ w, div ctx p q offset = .ok (.number w) ∧ w.sameValue r = true) ∧
          ∃ w, div ctx (.number x) q offset =
              .ok (.ofAmount (Quantity.ofPower w u.category m (-e)).toAmount) ∧
            w.sameValue r = true) ↔
        e = 0 ∨ Decimal.rounded? (x.toRat * z.toRat) = some r.toRat) ∧
      (z.toRat * y.toRat = 1 → Decimal.rounded? (x.toRat * z.toRat) = some r.toRat) := by
  obtain ⟨hy, hxy⟩ : y.isZero = false ∧ x.div? y = some r := by
    rw [div] at hr
    split at hr
    · cases hr
    · rename_i hy
      refine ⟨by simpa [isZeroAmount] using hy, ?_⟩
      rw [numberOr] at hr
      cases hdiv : x.div? y with
      | none =>
        rw [hdiv] at hr
        cases hr
      | some w =>
        rw [hdiv] at hr
        cases hr
        rfl
  obtain ⟨z, hz⟩ := Decimal.exists_reciprocal hy
  refine ⟨_, _, z, quantityOf_power hn x e, quantityOf_power hm y e, hz, ?_,
    Decimal.rounded?_mul_reciprocal hy hxy⟩
  by_cases he : e = 0
  · subst he
    exact ⟨fun _ => .inl rfl,
      fun _ => ⟨⟨r, hr, Decimal.sameValue_iff.2 rfl⟩, r, hr, Decimal.sameValue_iff.2 rfl⟩⟩
  · simp only [Decimal.sameValue_iff, ofAmount_power _ _ he, ofAmount_power _ _ (neg_ne_zero.2 he)]
    rw [exists_number_iff hn hm he hy hz, exists_quantity_iff hm he hy hz, and_self,
      or_iff_right he]

theorem divides_as_numbers_iff_area :
    let ctx := Context.ofClock ⟨0, 0⟩ (.fixed 0)
    div ctx (.number (.ofNat 10)) (.number (.ofNat 4)) 3 = .ok (.number (.ofScaled 250 2)) ∧
      ∃ p q, quantityOf ctx (.ofNat 10) [⟨"m", 2⟩] 3 = .ok p ∧
        quantityOf ctx (.ofNat 4) [⟨"meters", 2⟩] 3 = .ok q ∧
        (∃ w, div ctx p q 3 = .ok (.number w) ∧ w.sameValue (.ofScaled 250 2) = true) ∧
        ∃ w, div ctx (.number (.ofNat 10)) q 3 =
            .ok (.ofAmount (Quantity.ofPower w .length "meters" (-2)).toAmount) ∧
          w.sameValue (.ofScaled 250 2) = true := by
  intro ctx
  obtain ⟨u, hu, hmeters, hlength⟩ : ∃ u, Denomination.ofName? "m" = some u ∧
      Denomination.ofName? "meters" = some u ∧ u.category = .length :=
    ⟨_, rfl, by decide, rfl⟩
  have hquotient : (Decimal.ofNat 10).div? (.ofNat 4) = some (.ofScaled 250 2) := by decide
  have hr : div ctx (.number (.ofNat 10)) (.number (.ofNat 4)) 3 =
      .ok (.number (.ofScaled 250 2)) := congrArg (numberOr 3) hquotient
  have hinverse : Decimal.one.div? (.ofNat 4) = some (.ofScaled 25 2) := by decide
  obtain ⟨p, q, z, hp, hq, hz, hiff, hexact⟩ := divides_as_numbers_iff hu hmeters 2 hr
  obtain rfl : Decimal.ofScaled 25 2 = z := Option.some_inj.1 (hinverse.symm.trans hz)
  obtain ⟨hnumber, hquantity⟩ := hiff.2 (.inr (hexact (by decide +kernel)))
  rw [hlength] at hquantity
  exact ⟨hr, p, q, hp, hq, hnumber, hquantity⟩

/-- A third has no exact reciprocal: six metres divided by three metres are not quite two. -/
theorem quotient_ne_two :
    let ctx := Context.ofClock ⟨0, 0⟩ (.fixed 0)
    div ctx (.number (.ofNat 6)) (.number (.ofNat 3)) 4 = .ok (.number (.ofNat 2)) ∧
      ∃ p q w, quantityOf ctx (.ofNat 6) [⟨"m", 1⟩] 0 = .ok p ∧
        quantityOf ctx (.ofNat 3) [⟨"m", 1⟩] 6 = .ok q ∧ div ctx p q 4 = .ok (.number w) ∧
        w.toRat = 19999999999999999999999999998 / 10 ^ 28 ∧ w.sameValue (.ofNat 2) = false := by
  intro ctx
  obtain ⟨u, hu⟩ : ∃ u, Denomination.ofName? "m" = some u := ⟨_, rfl⟩
  have hquotient : (Decimal.ofNat 6).div? (.ofNat 3) = some (.ofNat 2) := by decide +kernel
  have hthird : Decimal.one.div? (.ofNat 3) =
      some (.ofScaled 3333333333333333333333333333 28) := by decide +kernel
  have hproduct : ((Decimal.ofNat 6).mul? (.ofScaled 3333333333333333333333333333 28)).map
      Decimal.toRat = some (19999999999999999999999999998 / 10 ^ 28) := by decide +kernel
  rw [Decimal.value_mul?] at hproduct
  obtain ⟨w, hw, hvalue⟩ := (exists_number_iff hu hu one_ne_zero rfl hthird).2 hproduct
  refine ⟨congrArg (numberOr 4) hquotient, _, _, w, quantityOf_power hu _ 1,
    quantityOf_power hu _ 1, hw, hvalue, ?_⟩
  rw [Bool.eq_false_iff, ne_eq, Decimal.sameValue_iff, hvalue]
  decide +kernel

end Eval

end Reckoner
