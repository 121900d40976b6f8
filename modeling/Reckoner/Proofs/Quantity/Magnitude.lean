import Mathlib.Algebra.BigOperators.Group.List.Lemmas
import Mathlib.Tactic.Ring
import Reckoner.Proofs.Quantity.Exponents
import Reckoner.Proofs.Token.Spelling

/-!
# Operations on quantities keep magnitudes

As long as nothing rounds, the magnitude in base units is what an operation on
quantities computes with: it is multiplied, divided, added and so on, and a
conversion leaves it alone.  Temperatures are left out, as their readings have
no size.

* `Dimensions.size_shiftExponent`: where powers meet under one category, they
  add up in the unit that was there first.
* `yields_absorb_exact` is the step that literals, products and quotients are
  made of, `yields_convertMagnitude_exact` the one of conversions.
* `baseMagnitude_of_unrounded` is the statement for all operations, as far as their powers fit
  into words of 32 bits (`Dimensions.InWords`).
-/

namespace Reckoner

variable {rates : RateTable} {offset : Nat}

/-! ## Sizes of dimensions -/

namespace Dimensions

open Denomination (sizeOf)

theorem size_none : none.size rates = 1 := rfl

theorem size_of_isEmpty {d : Dimensions} (h : d.isEmpty = true) : d.size rates = 1 := by
  rw [size, List.isEmpty_iff.1 h]
  rfl

theorem size_insert (d : Dimensions) (t : Term) :
    (d.insert t).size rates = d.size rates * sizeOf rates t.unit ^ t.exponent := by
  have hperm : (d.insert t).terms.Perm (t :: d.terms) := insertTerm_perm t d.terms
  rw [size, (hperm.map _).prod_eq, List.map_cons, List.prod_cons, mul_comm]
  rfl

theorem size_shiftExponent {ts : List Term} (h : (ts.map Term.category).Nodup) {c : Category}
    {p : Term} (hp : (Dimensions.mk ts).find? c = some p) (hne : sizeOf rates p.unit ≠ 0)
    (n : Int) :
    ((Dimensions.mk ts).shiftExponent c n).size rates =
      (Dimensions.mk ts).size rates * sizeOf rates p.unit ^ n := by
  induction ts with
  | nil => cases hp
  | cons t ts ih =>
    rw [List.map_cons, List.nodup_cons] at h
    simp only [find?, List.find?_cons] at hp
    simp only [size, shiftExponent, List.filterMap_cons, List.map_cons, List.prod_cons] at ih ⊢
    by_cases hc : t.category = c
    · simp only [hc, decide_true] at hp
      cases hp
      -- The other terms are of other categories.
      have hrest : ts.filterMap (fun u : Term =>
          if u.category = c then
            if u.exponent + n = 0 then .none else some { u with exponent := u.exponent + n }
          else some u) = ts := by
        have hid : ∀ u ∈ ts, (if u.category = c then
            if u.exponent + n = 0 then .none else some { u with exponent := u.exponent + n }
            else some u) = some u := by
          intro u hu
          refine if_neg fun heq => h.1 ?_
          rw [hc, ← heq]
          exact List.mem_map_of_mem hu
        rw [List.filterMap_congr hid, List.filterMap_some]
      rw [hrest, if_pos hc, mul_right_comm, ← zpow_add₀ hne]
      by_cases hz : p.exponent + n = 0
      · rw [if_pos hz, hz, zpow_zero, one_mul]
      · rw [if_neg hz]
        rfl
    · simp only [hc, decide_false] at hp
      rw [if_neg hc, mul_assoc, ← ih h.2 hp]
      rfl

theorem size_negated (d : Dimensions) : d.negated.size rates = (d.size rates)⁻¹ := by
  rw [size, size, negated, List.map_map, List.prod_inv, List.map_map]
  simp [Function.comp_def, zpow_neg]

theorem size_scaled (d : Dimensions) (n : Int) : (d.scaled n).size rates = d.size rates ^ n := by
  rcases d with ⟨ts⟩
  induction ts with
  | nil => simp [size, scaled]
  | cons t ts ih =>
    simp only [size, scaled, List.map_cons, List.prod_cons, List.filter_cons] at ih ⊢
    rw [mul_zpow, ← zpow_mul, ← ih]
    by_cases hz : t.exponent * n = 0
    · simp [hz]
    · simp [hz]

end Dimensions

/-- Well-formed units that all have a size. -/
structure Dimensions.Sized (rates : RateTable) (d : Dimensions) : Prop where
  wellFormed : d.WellFormed
  convertible : ∀ t ∈ d.terms, Convertible rates t.unit

theorem Quantity.baseMagnitude_toAmount (q : Quantity) :
    q.toAmount.baseMagnitude rates = q.baseMagnitude rates := by
  rw [toAmount]
  split
  · rename_i hempty
    rw [baseMagnitude, Dimensions.size_of_isEmpty hempty, mul_one]
    rfl
  · rfl

open Denomination (sizeOf)

/-- A unit power multiplied in is one factor more. -/
theorem yields_absorb_exact {q : Quantity} {d : Denomination} {spelling : String} {n : Int}
    (hq : q.dims.Sized rates) (hd : Denomination.ofName? spelling = some d)
    (hspelling : Convertible rates spelling) :
    Yields noCare offset
      (fun r => r.dims.Sized rates ∧
        r.baseMagnitude rates = q.baseMagnitude rates * sizeOf rates spelling ^ n)
      (Arithmetic.exact.absorb q d spelling n rates offset) := by
  have hsized := Denomination.sized_of_convertible hspelling hd
  unfold Arithmetic.absorb
  split
  · rename_i p hfind
    have hp := (Dimensions.mem_find? hfind).1
    refine (yields_ofName False.elim).bind fun target htarget => ?_
    have htargetSized := Denomination.sized_of_convertible (hq.convertible p hp) htarget
    refine (yields_ratio_exact hsized htargetSized).bind fun factor hfactor => ?_
    refine (yields_powFactor_exact factor n).bind fun power hpower => ?_
    refine yields_exact.bind fun magnitude hmagnitude => yields_pure ⟨⟨?_, ?_⟩, ?_⟩
    · exact hq.wellFormed.shiftExponent d.category n
    · intro t ht
      obtain ⟨u, hu, hut⟩ := List.mem_filterMap.1 ht
      have hunit : t.unit = u.unit := by
        split at hut
        · split at hut
          · cases hut
          · cases hut
            rfl
        · cases hut
          rfl
      exact hunit ▸ hq.convertible u hu
    · have hne : sizeOf rates p.unit ≠ 0 := by
        rw [Denomination.sizeOf_eq htarget]
        exact htargetSized.size_ne_zero
      have hshift : (q.dims.shiftExponent d.category n).size rates =
          q.dims.size rates * sizeOf rates p.unit ^ n :=
        Dimensions.size_shiftExponent hq.wellFormed.distinct hfind hne n
      show magnitude.toRat * (q.dims.shiftExponent d.category n).size rates = _
      rw [hshift, hmagnitude, hpower, hfactor, Denomination.sizeOf_eq hd,
        Denomination.sizeOf_eq htarget, Quantity.baseMagnitude, div_zpow]
      have hpow : target.size rates ^ n ≠ 0 := zpow_ne_zero n htargetSized.size_ne_zero
      field_simp
  · rename_i hfind
    split
    · rename_i hzero
      exact yields_pure ⟨hq, by rw [hzero, zpow_zero, mul_one]⟩
    · rename_i hexp
      refine yields_pure ⟨⟨hq.wellFormed.insert hfind hexp ⟨d, hd, rfl⟩, ?_⟩, ?_⟩
      · intro t ht
        rcases List.mem_cons.1 ((Dimensions.insertTerm_perm _ _).mem_iff.1 ht) with rfl | ht
        · exact hspelling
        · exact hq.convertible t ht
      · rw [Quantity.baseMagnitude, Dimensions.size_insert, ← mul_assoc]
        rfl

theorem yields_absorbTerms_exact {q : Quantity} {ts : List UnitTerm} (hq : q.dims.Sized rates)
    (hts : ∀ t ∈ ts, Convertible rates t.unit) :
    Yields noCare offset
      (fun r => r.baseMagnitude rates =
        q.baseMagnitude rates * (ts.map fun t => sizeOf rates t.unit ^ t.exponent).prod)
      (Arithmetic.exact.absorbTerms q ts rates offset) := by
  unfold Arithmetic.absorbTerms
  induction ts generalizing q with
  | nil => exact yields_pure (by simp)
  | cons t ts ih =>
    rw [List.foldlM_cons]
    have hname : Yields noCare offset (fun d => Denomination.ofName? t.unit = some d)
        (Denomination.ofName t.unit offset) := yields_ofName False.elim
    have hstep := hname.bind fun d hd =>
      yields_absorb_exact (n := t.exponent) hq hd (hts t List.mem_cons_self)
    refine hstep.bind fun r ⟨hr, hmagnitude⟩ => ?_
    refine (ih hr fun u hu => hts u (List.mem_cons_of_mem _ hu)).imp fun z hz => ?_
    rw [hz, hmagnitude, List.map_cons, List.prod_cons, mul_assoc]

/-! ## Conversions -/

/-- The term of a target that a term is converted to. -/
def Dimensions.goal (target : Dimensions) (t : Term) : Term := (target.find? t.category).getD t

/-- The goals of compatible units are the terms of the target in some order. -/
theorem Dimensions.goals_perm {d target : Dimensions} (hd : (d.terms.map Term.category).Nodup)
    (h : d.compatible target = true) :
    (d.terms.map target.goal).Perm target.terms ∧
      ∀ t ∈ d.terms, target.find? t.category = some (target.goal t) ∧
        (target.goal t).exponent = t.exponent := by
  simp only [compatible, Bool.and_eq_true, beq_iff_eq, List.all_eq_true] at h
  obtain ⟨hlength, hall⟩ := h
  have hgoal : ∀ t ∈ d.terms, target.find? t.category = some (target.goal t) ∧
      (target.goal t).exponent = t.exponent := by
    intro t ht
    have hexp := hall t ht
    unfold goal
    cases hfind : target.find? t.category with
    | none => simp [hfind] at hexp
    | some u => exact ⟨rfl, by simpa [hfind] using hexp⟩
  have hcategories : (d.terms.map target.goal).map Term.category = d.terms.map Term.category := by
    rw [List.map_map]
    exact List.map_congr_left fun t ht => (mem_find? (hgoal t ht).1).2
  have hnodup : (d.terms.map target.goal).Nodup := .of_map Term.category (hcategories ▸ hd)
  have hsubset : d.terms.map target.goal ⊆ target.terms := by
    intro u hu
    obtain ⟨t, ht, rfl⟩ := List.mem_map.1 hu
    exact (mem_find? (hgoal t ht).1).1
  exact ⟨(List.subperm_of_subset hnodup hsubset).perm_of_length_le (by simp [hlength]), hgoal⟩

theorem yields_convertMagnitude_exact {ts : List Term} {target : Dimensions}
    (hts : ∀ t ∈ ts, Convertible rates t.unit)
    (htarget : ∀ t ∈ target.terms, Convertible rates t.unit)
    (hgoal : ∀ t ∈ ts, target.find? t.category = some (target.goal t)) (x : Decimal) :
    Yields noCare offset
      (fun y => y.toRat * (ts.map fun t => sizeOf rates (target.goal t).unit ^ t.exponent).prod =
        x.toRat * (ts.map fun t => sizeOf rates t.unit ^ t.exponent).prod)
      (Arithmetic.exact.convertMagnitude ⟨x, ⟨ts⟩⟩ target rates offset) := by
  unfold Arithmetic.convertMagnitude
  induction ts generalizing x with
  | nil => exact yields_pure (by simp)
  | cons t ts ih =>
    rw [List.foldlM_cons, hgoal t List.mem_cons_self]
    have hunit := hts t List.mem_cons_self
    have hgoalUnit := htarget _ (Dimensions.mem_find? (hgoal t List.mem_cons_self)).1
    have hstep : Yields noCare offset
        (fun y => y.toRat * sizeOf rates (target.goal t).unit ^ t.exponent =
          x.toRat * sizeOf rates t.unit ^ t.exponent)
        (do
          let source ← Denomination.ofName t.unit offset
          let target ← Denomination.ofName (target.goal t).unit offset
          let factor ← Arithmetic.exact.ratio source target rates offset
          let factor ← Arithmetic.exact.powFactor factor t.exponent offset
          orOverflow offset (Arithmetic.exact.mul? x factor)) := by
      refine (yields_ofName False.elim).bind fun d hd => ?_
      refine (yields_ofName False.elim).bind fun e he => ?_
      have hdSized := Denomination.sized_of_convertible hunit hd
      have heSized := Denomination.sized_of_convertible hgoalUnit he
      refine (yields_ratio_exact hdSized heSized).bind fun factor hfactor => ?_
      refine (yields_powFactor_exact factor t.exponent).bind fun power hpower => ?_
      refine yields_exact.imp fun y hy => ?_
      have hne : e.size rates ^ t.exponent ≠ 0 := zpow_ne_zero _ heSized.size_ne_zero
      rw [hy, hpower, hfactor, Denomination.sizeOf_eq hd, Denomination.sizeOf_eq he, div_zpow]
      field_simp
    refine hstep.bind fun y hy => ?_
    refine (ih (fun u hu => hts u (List.mem_cons_of_mem _ hu))
      (fun u hu => hgoal u (List.mem_cons_of_mem _ hu)) y).imp fun z hz => ?_
    rw [List.map_cons, List.prod_cons, List.map_cons, List.prod_cons, mul_left_comm, hz,
      ← mul_assoc, mul_comm _ y.toRat, hy, mul_assoc]

/-- A conversion by factors leaves the magnitude in base units alone. -/
theorem yields_convert_exact {q : Quantity} {target : Dimensions} (hq : q.dims.Sized rates)
    (htarget : ∀ t ∈ target.terms, Convertible rates t.unit)
    (hcompatible : q.dims.compatible target = true) :
    Yields noCare offset
      (fun y => y.toRat * target.size rates = q.baseMagnitude rates)
      (Arithmetic.exact.convertMagnitude q target rates offset) := by
  obtain ⟨hperm, hgoal⟩ := Dimensions.goals_perm hq.wellFormed.distinct hcompatible
  refine (yields_convertMagnitude_exact hq.convertible htarget (fun t ht => (hgoal t ht).1)
    q.magnitude).imp fun y hy => ?_
  have hsize : target.size rates =
      (q.dims.terms.map fun t => sizeOf rates (target.goal t).unit ^ t.exponent).prod := by
    rw [Dimensions.size, ← (hperm.map _).prod_eq, List.map_map]
    refine congrArg List.prod (List.map_congr_left fun t ht => ?_)
    rw [Function.comp_apply, (hgoal t ht).2]
  rw [hsize, hy]
  rfl

theorem yields_convertLinear_exact {q : Quantity} {target : Dimensions}
    (hq : q.dims.Sized rates) (htarget : ∀ t ∈ target.terms, Convertible rates t.unit) :
    Yields noCare offset
      (fun r => r.magnitude.toRat * target.size rates = q.baseMagnitude rates)
      (Arithmetic.exact.convertLinear q target rates offset) := by
  unfold Arithmetic.convertLinear
  split
  · exact yields_failAt rfl
  · rename_i h
    exact (yields_convert_exact hq htarget (by simpa using h)).bind fun _ hy => yields_pure hy

/-- Among units with a size there is no lone temperature. -/
theorem temperaturePair?_eq_none {d target : Dimensions} (hd : d.Sized rates) :
    Quantity.temperaturePair? d target = none := by
  unfold Quantity.temperaturePair?
  split
  · rename_i s t hs _
    have hmem : s ∈ d.terms := by
      unfold Dimensions.single? at hs
      split at hs
      · rename_i hterms
        cases hs
        rw [hterms]
        exact List.mem_singleton_self _
      · cases hs
    obtain ⟨u, hu, hcategory⟩ := hd.wellFormed.resolves s hmem
    rw [if_neg]
    rintro ⟨htemperature, -⟩
    exact (hd.convertible s hmem u hu).1 (hcategory.trans htemperature)
  · rfl

theorem yields_convertTo_exact {q : Quantity} {target : Dimensions} (hq : q.dims.Sized rates)
    (htarget : ∀ t ∈ target.terms, Convertible rates t.unit) :
    Yields noCare offset (fun r => r.baseMagnitude rates = q.baseMagnitude rates)
      (Arithmetic.exact.convertTo q target rates offset) := by
  unfold Arithmetic.convertTo
  split
  · exact yields_failAt rfl
  · rename_i h
    rw [temperaturePair?_eq_none hq]
    exact (yields_convert_exact hq htarget (by simpa using h)).bind fun _ hy => yields_pure hy

/-! ## Arithmetic -/

section

variable {a b : Quantity}

theorem yields_mul_exact (ha : a.dims.Sized rates)
    (hb : ∀ t ∈ b.dims.terms, Convertible rates t.unit) :
    Yields noCare offset
      (fun r => r.baseMagnitude rates = a.baseMagnitude rates * b.baseMagnitude rates)
      (Arithmetic.exact.mul a b rates offset) := by
  have hterms : ∀ t ∈ b.dims.terms.map
      (fun t => ({ unit := t.unit, exponent := t.exponent } : UnitTerm)),
      Convertible rates t.unit := by
    intro u hu
    obtain ⟨t, ht, rfl⟩ := List.mem_map.1 hu
    exact hb t ht
  have hscale : Yields noCare offset
      (fun r => r.dims.Sized rates ∧
        r.baseMagnitude rates = a.baseMagnitude rates * b.magnitude.toRat)
      (Arithmetic.exact.scale a b.magnitude offset) := by
    refine yields_exact.bind fun z hz => yields_pure ⟨ha, ?_⟩
    rw [Quantity.baseMagnitude, hz, mul_right_comm]
    rfl
  refine hscale.bind fun product ⟨hsized, hproduct⟩ => ?_
  refine (yields_absorbTerms_exact hsized hterms).bind fun r hr => yields_pure ?_
  rw [Quantity.baseMagnitude_toAmount, hr, hproduct, List.map_map, mul_assoc]
  rfl

theorem yields_div_exact (ha : a.dims.Sized rates)
    (hb : ∀ t ∈ b.dims.terms, Convertible rates t.unit) :
    Yields noCare offset
      (fun r => r.baseMagnitude rates = a.baseMagnitude rates / b.baseMagnitude rates)
      (Arithmetic.exact.div a b rates offset) := by
  unfold Arithmetic.div
  split
  · exact yields_failAt rfl
  · refine yields_exact.bind fun inverse hinverse => ?_
    have hnegated : ∀ t ∈ b.dims.negated.terms, Convertible rates t.unit := by
      intro u hu
      obtain ⟨t, ht, rfl⟩ := List.mem_map.1 hu
      exact hb t ht
    refine (yields_mul_exact ha hnegated).imp fun r hr => ?_
    have hreciprocal :
        Quantity.baseMagnitude rates { magnitude := inverse, dims := b.dims.negated } =
          (b.baseMagnitude rates)⁻¹ := by
      rw [Quantity.baseMagnitude, hinverse, Dimensions.size_negated, Decimal.toRat_one, one_div,
        Quantity.baseMagnitude, mul_inv]
    rw [hr, hreciprocal, div_eq_mul_inv]

theorem yields_powInt_exact (a : Quantity) (n : Int) :
    Yields noCare offset (fun r => r.baseMagnitude rates = a.baseMagnitude rates ^ n)
      (Arithmetic.exact.powInt a n offset) := by
  refine (yields_powFactor_exact a.magnitude n).bind fun z hz => yields_pure ?_
  rw [Quantity.baseMagnitude_toAmount, Quantity.baseMagnitude, hz, Dimensions.size_scaled,
    Quantity.baseMagnitude, mul_zpow]

theorem yields_plus_exact (rates : RateTable) (a : Quantity) (delta : Decimal) :
    Yields noCare offset
      (fun r => r.baseMagnitude rates = a.baseMagnitude rates + delta.toRat * a.dims.size rates)
      (Arithmetic.exact.plus a delta offset) := by
  refine yields_exact.bind fun z hz => yields_pure ?_
  rw [Quantity.baseMagnitude, hz, add_mul]
  rfl

theorem yields_add_exact (ha : ∀ t ∈ a.dims.terms, Convertible rates t.unit)
    (hb : b.dims.Sized rates) :
    Yields noCare offset
      (fun r => r.baseMagnitude rates = a.baseMagnitude rates + b.baseMagnitude rates)
      (Arithmetic.exact.add a b rates offset) := by
  refine (yields_convertLinear_exact hb ha).bind fun c hc => ?_
  refine (yields_plus_exact rates a c.magnitude).imp fun r hr => ?_
  rw [hr, hc]

theorem yields_sub_exact (ha : ∀ t ∈ a.dims.terms, Convertible rates t.unit)
    (hb : b.dims.Sized rates) :
    Yields noCare offset
      (fun r => r.baseMagnitude rates = a.baseMagnitude rates - b.baseMagnitude rates)
      (Arithmetic.exact.sub a b rates offset) := by
  refine (yields_convertLinear_exact hb ha).bind fun c hc => ?_
  refine (yields_plus_exact rates a c.magnitude.neg).imp fun r hr => ?_
  rw [hr, Decimal.toRat_neg, neg_mul, hc, sub_eq_add_neg]

end

/-- What holds of a run that refuses to round holds of a run that does not
round. -/
theorem Unrounded.of_yields {α : Type} {run : Arithmetic → Checked α} {P : α → Prop} {r : α}
    (h : Unrounded run) (hr : run .decimal = .ok r) (hP : Yields noCare offset P (run .exact)) :
    P r :=
  hP.ok_of_eq (h.trans hr)

/-- The magnitude in base units under each operation, where it succeeds, nothing is rounded and
every power fits into a word of 32 bits.  No unit is a temperature, and currencies have rates other
than zero.  A literal changes one power after the other, so each beginning of its terms counts; a
product changes each power once, and a quotient is a product with the negated powers. -/
theorem baseMagnitude_of_unrounded (rates : RateTable) (offset : Nat) :
    (∀ x ts q, (∀ t ∈ ts, Convertible rates t.unit) →
      (∀ us, us <+: ts → (Dimensions.none.timesAll us).InWords) →
      Quantity.ofTerms x ts rates offset = .ok q →
      Unrounded (fun A => A.ofTerms x ts rates offset) →
      q.baseMagnitude rates =
        x.toRat * (ts.map fun t => Denomination.sizeOf rates t.unit ^ t.exponent).prod) ∧
    ∀ a b : Quantity, a.WellFormed → b.WellFormed →
      (∀ t ∈ a.dims.terms, Convertible rates t.unit) →
      (∀ t ∈ b.dims.terms, Convertible rates t.unit) →
      (∀ r, a.mul b rates offset = .ok r → r.InWords →
        Unrounded (fun A => A.mul a b rates offset) →
        r.baseMagnitude rates = a.baseMagnitude rates * b.baseMagnitude rates) ∧
      (∀ r, a.div b rates offset = .ok r → b.dims.negated.InWords → r.InWords →
        Unrounded (fun A => A.div a b rates offset) →
        r.baseMagnitude rates = a.baseMagnitude rates / b.baseMagnitude rates) ∧
      (∀ n r, a.powInt n offset = .ok r → r.InWords →
        Unrounded (fun A => A.powInt a n offset) →
        r.baseMagnitude rates = a.baseMagnitude rates ^ n) ∧
      (∀ target r, (∀ t ∈ target.terms, Convertible rates t.unit) →
        a.convertTo target rates offset = .ok r →
        Unrounded (fun A => A.convertTo a target rates offset) →
        r.baseMagnitude rates = a.baseMagnitude rates) ∧
      (∀ r, a.add b rates offset = .ok r → Unrounded (fun A => A.add a b rates offset) →
        r.baseMagnitude rates = a.baseMagnitude rates + b.baseMagnitude rates) ∧
      (∀ r, a.sub b rates offset = .ok r → Unrounded (fun A => A.sub a b rates offset) →
        r.baseMagnitude rates = a.baseMagnitude rates - b.baseMagnitude rates) := by
  refine ⟨fun x ts q hts _ hrun h => ?_, fun a b hwa hwb hca hcb => ?_⟩
  · have hnone : (Dimensions.none).Sized rates :=
      ⟨Dimensions.wellFormed_none, by simp [Dimensions.none]⟩
    have hofTerms := h.of_yields hrun
      (yields_absorbTerms_exact (q := { magnitude := x, dims := .none }) hnone hts)
    rw [hofTerms, Quantity.baseMagnitude, Dimensions.size_none, mul_one]
  · have ha : a.dims.Sized rates := ⟨hwa.dims, hca⟩
    have hb : b.dims.Sized rates := ⟨hwb.dims, hcb⟩
    exact ⟨fun r hrun _ h => h.of_yields hrun (yields_mul_exact ha hcb),
      fun r hrun _ _ h => h.of_yields hrun (yields_div_exact ha hcb),
      fun n r hrun _ h => h.of_yields hrun (yields_powInt_exact a n),
      fun target r htarget hrun h => h.of_yields hrun (yields_convertTo_exact ha htarget),
      fun r hrun h => h.of_yields hrun (yields_add_exact hca hb),
      fun r hrun h => h.of_yields hrun (yields_sub_exact hca hb)⟩

/-- A literal in `m^2/km` is one in metres.  Six euros for a kilometre, times 500 metres: the
lengths cancel, and three euros remain. -/
theorem baseMagnitude_of_unrounded_fare :
    let rates := RateTable.empty.insert "EUR" (.ofScaled 8 1)
    let terms : List UnitTerm := [⟨"m", 2⟩, ⟨"km", -1⟩]
    let merged : Quantity := { magnitude := .ofScaled 6000 3, dims := ⟨[⟨.length, "m", 1⟩]⟩ }
    let fare : Quantity :=
      { magnitude := .ofNat 6, dims := ⟨[⟨.length, "km", -1⟩, ⟨.currency, "EUR", 1⟩]⟩ }
    let way : Quantity := { magnitude := .ofNat 500, dims := ⟨[⟨.length, "m", 1⟩]⟩ }
    let paid : Quantity := { magnitude := .ofScaled 3000 3, dims := ⟨[⟨.currency, "EUR", 1⟩]⟩ }
    (∀ t ∈ terms, Convertible rates t.unit) ∧
      (∀ us, us <+: terms → (Dimensions.none.timesAll us).InWords) ∧
      Quantity.ofTerms (.ofNat 6000) terms rates 0 = .ok merged ∧
      Unrounded (fun A => A.ofTerms (.ofNat 6000) terms rates 0) ∧
      merged.baseMagnitude rates = (Decimal.ofNat 6000).toRat *
        (terms.map fun t => Denomination.sizeOf rates t.unit ^ t.exponent).prod ∧
      fare.WellFormed ∧ way.WellFormed ∧ (∀ t ∈ fare.dims.terms, Convertible rates t.unit) ∧
      (∀ t ∈ way.dims.terms, Convertible rates t.unit) ∧
      fare.mul way rates 0 = .ok (.quantity paid) ∧ (Amount.quantity paid).InWords ∧
      Unrounded (fun A => A.mul fare way rates 0) ∧
      paid.baseMagnitude rates = fare.baseMagnitude rates * way.baseMagnitude rates := by
  intro rates terms merged fare way paid
  have hct : ∀ t ∈ terms, Convertible rates t.unit := by decide +kernel
  have hwords : ∀ us, us <+: terms → (Dimensions.none.timesAll us).InWords := by
    intro us hus
    have hterms : ∀ us ∈ terms.inits, ∀ t ∈ (Dimensions.none.timesAll us).terms,
        FitsInt32 t.exponent := by
      decide +kernel
    exact Dimensions.inWords_of_terms (hterms us ((List.mem_inits us terms).2 hus))
  have hliteral : Quantity.ofTerms (.ofNat 6000) terms rates 0 = .ok merged := by decide +kernel
  have hexactLiteral : Unrounded (fun A => A.ofTerms (.ofNat 6000) terms rates 0) := by
    unfold Unrounded
    decide +kernel
  have heuro : Denomination.ofName? "EUR" = some (.currency "EUR") :=
    Denomination.ofName?_code (by decide)
  have hfare : fare.WellFormed := by
    refine ⟨⟨by decide, by decide, List.forall_mem_cons.2 ⟨by decide +kernel, ?_⟩⟩, rfl⟩
    exact List.forall_mem_singleton.2 ⟨_, heuro, rfl⟩
  have hcurrency : Convertible rates "EUR" := by
    intro d hd
    rw [heuro] at hd
    cases hd
    exact ⟨by decide, fun code hcode => ⟨.ofScaled 8 1, by cases hcode; rfl, rfl⟩⟩
  have hcf : ∀ t ∈ fare.dims.terms, Convertible rates t.unit :=
    List.forall_mem_cons.2 ⟨by decide +kernel, List.forall_mem_singleton.2 hcurrency⟩
  obtain ⟨hway, hcw⟩ : way.WellFormed ∧ ∀ t ∈ way.dims.terms, Convertible rates t.unit := by
    decide +kernel
  have hrun : fare.mul way rates 0 = .ok (.quantity paid) := by decide +kernel
  have hpaid : (Amount.quantity paid).InWords :=
    Dimensions.inWords_of_terms (d := paid.dims) (by decide)
  have hexact : Unrounded (fun A => A.mul fare way rates 0) := by
    unfold Unrounded
    decide +kernel
  obtain ⟨hterms, hops⟩ := baseMagnitude_of_unrounded rates 0
  exact ⟨hct, hwords, hliteral, hexactLiteral,
    hterms _ terms merged hct hwords hliteral hexactLiteral, hfare, hway, hcf, hcw, hrun, hpaid,
    hexact, (hops fare way hfare hway hcf hcw).1 _ hrun hpaid hexact⟩

end Reckoner
