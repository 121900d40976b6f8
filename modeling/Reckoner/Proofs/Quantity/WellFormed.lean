import Reckoner.Proofs.Outcome

/-!
# Well-formed quantities

A quantity is well formed if it has at least one unit, at most one for each
category, no power zero, and every unit belongs to the category it stands
under.

* The operations on dimensions keep `Dimensions.WellFormed`, which leaves out
  that there is a unit at all: powers may cancel.
* `yields_absorb` is the step that literals, products and quotients are made
  of.  From it `yields_absorbTerms` follows the terms one by one.
* Conversions take over the units of their target, which is why their result
  is well formed if the target is (`yields_convertTo`, `yields_convertLinear`).
* Where all powers cancel a plain number remains (`toAmount_wellFormed`).
-/

namespace Reckoner

/-- The unit of a term is one of the term's category. -/
def Term.Resolves (t : Term) : Prop :=
  ∃ d, Denomination.ofName? t.unit = some d ∧ d.category = t.category

/-- The unit that is written stands for something. -/
def UnitTerm.Resolves (t : UnitTerm) : Prop := ∃ d, Denomination.ofName? t.unit = some d

/-- At most one unit for each category, no power zero, and every unit of its
category. -/
structure Dimensions.WellFormed (d : Dimensions) : Prop where
  distinct : (d.terms.map Term.category).Nodup
  nonzero : ∀ t ∈ d.terms, t.exponent ≠ 0
  resolves : ∀ t ∈ d.terms, t.Resolves

/-- Well-formed units, and at least one of them. -/
structure Quantity.WellFormed (q : Quantity) : Prop where
  dims : q.dims.WellFormed
  nonempty : q.dims.isEmpty = false

instance (t : Term) : Decidable t.Resolves :=
  decidable_of_iff ((Denomination.ofName? t.unit).any fun d => d.category = t.category) <| by
    simp [Term.Resolves, Option.any_eq_true]

instance (d : Dimensions) : Decidable d.WellFormed :=
  decidable_of_iff ((d.terms.map Term.category).Nodup ∧ (∀ t ∈ d.terms, t.exponent ≠ 0) ∧
      ∀ t ∈ d.terms, t.Resolves)
    ⟨fun h => ⟨h.1, h.2.1, h.2.2⟩, fun h => ⟨h.distinct, h.nonzero, h.resolves⟩⟩

instance (q : Quantity) : Decidable q.WellFormed :=
  decidable_of_iff (q.dims.WellFormed ∧ q.dims.isEmpty = false)
    ⟨fun h => ⟨h.1, h.2⟩, fun h => ⟨h.dims, h.nonempty⟩⟩

/-- A quantity among amounts is well formed. -/
def Amount.WellFormed : Amount → Prop
  | .number _ => True
  | .quantity q => q.WellFormed

namespace Dimensions

/-! ## Operations on units -/

theorem wellFormed_none : none.WellFormed where
  distinct := List.nodup_nil
  nonzero := by simp [none]
  resolves := by simp [none]

theorem insertTerm_perm (t : Term) (ts : List Term) : (insertTerm t ts).Perm (t :: ts) := by
  induction ts with
  | nil => exact List.Perm.refl _
  | cons u ts ih =>
    rw [insertTerm]
    split
    · exact (ih.cons u).trans (List.Perm.swap t u ts)
    · exact List.Perm.refl _

theorem mem_find? {d : Dimensions} {c : Category} {t : Term} (h : d.find? c = some t) :
    t ∈ d.terms ∧ t.category = c :=
  ⟨List.mem_of_find?_eq_some h, by simpa using List.find?_some h⟩

theorem WellFormed.insert {d : Dimensions} (h : d.WellFormed) {t : Term}
    (hnew : d.find? t.category = .none) (hexp : t.exponent ≠ 0) (hres : t.Resolves) :
    (d.insert t).WellFormed := by
  have hperm : (d.insert t).terms.Perm (t :: d.terms) := insertTerm_perm t d.terms
  have habsent : t.category ∉ d.terms.map Term.category := by
    intro hmem
    obtain ⟨u, hu, hcat⟩ := List.mem_map.1 hmem
    have hall := List.find?_eq_none.1 hnew u hu
    exact hall (by simpa using hcat)
  refine ⟨?_, ?_, ?_⟩
  · rw [(hperm.map Term.category).nodup_iff, List.map_cons, List.nodup_cons]
    exact ⟨habsent, h.distinct⟩
  · intro u hu
    rcases List.mem_cons.1 (hperm.mem_iff.1 hu) with rfl | hu
    · exact hexp
    · exact h.nonzero u hu
  · intro u hu
    rcases List.mem_cons.1 (hperm.mem_iff.1 hu) with rfl | hu
    · exact hres
    · exact h.resolves u hu

/-- A change of one power keeps the order of the categories that remain. -/
theorem shiftExponent_categories (ts : List Term) (c : Category) (n : Int) :
    ((Dimensions.shiftExponent ⟨ts⟩ c n).terms.map Term.category).Sublist
      (ts.map Term.category) := by
  induction ts with
  | nil => exact List.Sublist.refl _
  | cons t ts ih =>
    simp only [shiftExponent, List.filterMap_cons] at ih ⊢
    by_cases hc : t.category = c
    · by_cases hz : t.exponent + n = 0
      · simp only [hc, hz, if_true]
        exact ih.cons _
      · simp only [hc, hz, if_true, if_false, List.map_cons]
        exact ih.cons_cons _
    · simp only [hc, if_false, List.map_cons]
      exact ih.cons_cons _

theorem WellFormed.shiftExponent {d : Dimensions} (h : d.WellFormed) (c : Category) (n : Int) :
    (d.shiftExponent c n).WellFormed := by
  have hterm : ∀ u ∈ (d.shiftExponent c n).terms,
      ∃ t ∈ d.terms, u.category = t.category ∧ u.unit = t.unit ∧ u.exponent ≠ 0 := by
    intro u hu
    obtain ⟨t, ht, hut⟩ := List.mem_filterMap.1 hu
    refine ⟨t, ht, ?_⟩
    split at hut
    · split at hut
      · cases hut
      · rename_i hz
        cases hut
        exact ⟨rfl, rfl, hz⟩
    · cases hut
      exact ⟨rfl, rfl, h.nonzero _ ht⟩
  refine ⟨h.distinct.sublist (shiftExponent_categories d.terms c n), ?_, ?_⟩
  · intro u hu
    obtain ⟨_, _, _, _, hexp⟩ := hterm u hu
    exact hexp
  · intro u hu
    obtain ⟨t, ht, hcat, hunit, _⟩ := hterm u hu
    obtain ⟨e, he, hecat⟩ := h.resolves t ht
    exact ⟨e, hunit ▸ he, hcat ▸ hecat⟩

theorem WellFormed.negated {d : Dimensions} (h : d.WellFormed) : d.negated.WellFormed := by
  refine ⟨?_, ?_, ?_⟩
  · simpa [Dimensions.negated, Function.comp_def] using h.distinct
  · intro u hu
    obtain ⟨t, ht, rfl⟩ := List.mem_map.1 hu
    exact Int.neg_ne_zero.2 (h.nonzero t ht)
  · intro u hu
    obtain ⟨t, ht, rfl⟩ := List.mem_map.1 hu
    exact h.resolves t ht

theorem WellFormed.scaled {d : Dimensions} (h : d.WellFormed) (n : Int) :
    (d.scaled n).WellFormed := by
  refine ⟨?_, ?_, ?_⟩
  · have hsub : ((d.scaled n).terms.map Term.category).Sublist (d.terms.map Term.category) := by
      have := (List.filter_sublist (p := fun t : Term => decide (t.exponent ≠ 0))
        (l := d.terms.map fun t => { t with exponent := t.exponent * n })).map Term.category
      simpa [Dimensions.scaled, Function.comp_def] using this
    exact h.distinct.sublist hsub
  · intro u hu
    simpa using (List.mem_filter.1 hu).2
  · intro u hu
    obtain ⟨t, ht, rfl⟩ := List.mem_map.1 (List.mem_filter.1 hu).1
    exact h.resolves t ht

/-- Units that fit together are all absent or none of them is. -/
theorem isEmpty_eq_of_compatible {d e : Dimensions} (h : d.compatible e = true) :
    e.isEmpty = d.isEmpty := by
  have hlen : d.terms.length = e.terms.length := by
    simp only [compatible, Bool.and_eq_true, beq_iff_eq] at h
    exact h.1
  rw [isEmpty, isEmpty, Bool.eq_iff_iff, List.isEmpty_iff_length_eq_zero,
    List.isEmpty_iff_length_eq_zero, hlen]

end Dimensions

/-! ## Building -/

section

variable {care : Care} {offset : Nat} {rates : RateTable}

theorem ofName_eq_ok {name : String} {e : Denomination} (h : Denomination.ofName? name = some e) :
    Denomination.ofName name offset = .ok e := by
  rw [Denomination.ofName, h]
  rfl

theorem yields_ofName {name : String}
    (h : care.known → ∃ d, Denomination.ofName? name = some d) :
    Yields care offset (fun d => Denomination.ofName? name = some d)
      (Denomination.ofName name offset) := by
  rw [Denomination.ofName]
  cases hname : Denomination.ofName? name with
  | some d => exact yields_ok rfl
  | none =>
    refine .error ⟨rfl, fun hknown => ?_, rfl⟩
    obtain ⟨d, hd⟩ := h hknown
    rw [hname] at hd
    cases hd

theorem yields_rate (code : String) :
    Yields care offset (fun _ => True) (rates.rate code offset) :=
  yields_orFail rfl fun _ _ => trivial

theorem yields_baseFactor (d : Denomination) :
    Yields care offset (fun _ => True) (baseFactor d rates offset) := by
  cases d with
  | unit u =>
    simp only [baseFactor]
    split
    · split
      · exact yields_orOverflow
      · exact yields_pure trivial
    · exact yields_pure trivial
  | currency code =>
    refine (yields_rate code).bind fun rate _ => ?_
    split
    · exact yields_failAt rfl
    · exact yields_orOverflow

theorem yields_ratio (source target : Denomination) :
    Yields care offset (fun _ => True) (ratio source target rates offset) := by
  rw [ratio.eq_def]
  split
  · exact yields_pure trivial
  · split
    · refine (yields_rate _).bind fun rateA _ => (yields_rate _).bind fun rateB _ => ?_
      split
      · exact yields_failAt rfl
      · exact yields_orOverflow
    · exact (yields_baseFactor _).bind fun _ _ => (yields_baseFactor _).bind fun _ _ =>
        yields_orOverflow

theorem yields_powFactor (x : Decimal) (n : Int) :
    Yields care offset (fun _ => True) (Quantity.powFactor x n offset) := by
  rw [Quantity.powFactor]
  split
  · exact yields_pure trivial
  · exact yields_orOverflow

namespace Quantity

/-- One unit power multiplied in. -/
theorem yields_absorb {q : Quantity} {d : Denomination} {spelling : String} {exponent : Int}
    (hq : care.units → q.dims.WellFormed) (hd : Denomination.ofName? spelling = some d) :
    Yields care offset (fun r => care.units → r.dims.WellFormed)
      (q.absorb d spelling exponent rates offset) := by
  rw [absorb]
  split
  · rename_i present hfind
    have hpresent : care.known → ∃ e, Denomination.ofName? present.unit = some e := by
      intro hknown
      have hwf := hq (care.units_of_known hknown)
      obtain ⟨e, he, _⟩ := hwf.resolves present (Dimensions.mem_find? hfind).1
      exact ⟨e, he⟩
    refine (yields_ofName hpresent).bind fun target _ => ?_
    refine (yields_ratio d target).bind fun factor _ => ?_
    refine (yields_powFactor factor exponent).bind fun factor _ => ?_
    refine yields_orOverflow.bind fun magnitude _ => yields_pure fun hunits => ?_
    exact (hq hunits).shiftExponent d.category exponent
  · rename_i hfind
    split
    · exact yields_pure hq
    · rename_i hexp
      exact yields_pure fun hunits => (hq hunits).insert hfind hexp ⟨d, hd, rfl⟩

theorem yields_absorbTerms {q : Quantity} {terms : List UnitTerm}
    (hq : care.units → q.dims.WellFormed) (hterms : care.known → ∀ t ∈ terms, t.Resolves) :
    Yields care offset (fun r => care.units → r.dims.WellFormed)
      (q.absorbTerms terms rates offset) := by
  refine yields_foldlM (fun r t ht hr => ?_) hq
  refine (yields_ofName fun hknown => hterms hknown t ht).bind fun d hd => ?_
  exact yields_absorb hr hd

theorem yields_ofTerms {x : Decimal} {terms : List UnitTerm}
    (hterms : care.known → ∀ t ∈ terms, t.Resolves) :
    Yields care offset (fun r => care.units → r.dims.WellFormed)
      (ofTerms x terms rates offset) :=
  yields_absorbTerms (fun _ => Dimensions.wellFormed_none) hterms

theorem yields_targetDims {terms : List UnitTerm}
    (hterms : care.known → ∀ t ∈ terms, t.Resolves) :
    Yields care offset (fun d => care.units → d.WellFormed) (targetDims terms rates offset) :=
  (yields_ofTerms hterms).bind fun _ hq => yields_pure hq

/-- A quantity whose units are left after all powers have cancelled, and else a
plain number. -/
theorem toAmount_wellFormed {q : Quantity} (h : q.dims.WellFormed) : q.toAmount.WellFormed := by
  rw [toAmount]
  split
  · trivial
  · rename_i hne
    exact ⟨h, by simpa using hne⟩

/-! ## Converting -/

theorem yields_convertMagnitude {q : Quantity} {target : Dimensions}
    (hq : care.known → q.dims.WellFormed) (htarget : care.known → target.WellFormed) :
    Yields care offset (fun _ => True) (q.convertMagnitude target rates offset) := by
  refine yields_foldlM (fun x t ht _ => ?_) trivial
  split
  · exact yields_pure trivial
  · rename_i goal hgoal
    have hsource : care.known → ∃ e, Denomination.ofName? t.unit = some e := fun hknown =>
      ((hq hknown).resolves t ht).imp fun _ he => he.1
    have hgoalRes : care.known → ∃ e, Denomination.ofName? goal.unit = some e := fun hknown =>
      ((htarget hknown).resolves goal (Dimensions.mem_find? hgoal).1).imp fun _ he => he.1
    refine (yields_ofName hsource).bind fun source _ => ?_
    refine (yields_ofName hgoalRes).bind fun target _ => ?_
    refine (yields_ratio source target).bind fun factor _ => ?_
    exact (yields_powFactor factor _).bind fun factor _ => yields_orOverflow

/-- A converted quantity has the units of the target, and as many of them as
it had before. -/
theorem yields_convertTo {q : Quantity} {target : Dimensions}
    (hq : care.known → q.dims.WellFormed) (htarget : care.known → target.WellFormed) :
    Yields care offset (fun r => r.dims = target ∧ target.isEmpty = q.dims.isEmpty)
      (q.convertTo target rates offset) := by
  rw [convertTo]
  split
  · exact yields_failAt rfl
  · rename_i hcompat
    have hempty := Dimensions.isEmpty_eq_of_compatible (by simpa using hcompat)
    split
    · refine Yields.bind (P := fun _ => True) ?_ fun _ _ => yields_pure ⟨rfl, hempty⟩
      exact yields_orOverflow
    · exact (yields_convertMagnitude hq htarget).bind fun _ _ => yields_pure ⟨rfl, hempty⟩

theorem yields_convertLinear {q : Quantity} {target : Dimensions}
    (hq : care.known → q.dims.WellFormed) (htarget : care.known → target.WellFormed) :
    Yields care offset (fun _ => True) (q.convertLinear target rates offset) := by
  rw [convertLinear]
  split
  · exact yields_failAt rfl
  · exact (yields_convertMagnitude hq htarget).bind fun _ _ => yields_pure trivial

/-! ## Arithmetic -/

theorem yields_plus (q : Quantity) (delta : Decimal) :
    Yields care offset (fun r => r.dims = q.dims) (q.plus delta offset) :=
  yields_orOverflow.bind fun _ _ => yields_pure rfl

theorem yields_scale (q : Quantity) (factor : Decimal) :
    Yields care offset (fun r => r.dims = q.dims) (q.scale factor offset) :=
  yields_orOverflow.bind fun _ _ => yields_pure rfl

theorem yields_add {a b : Quantity} (ha : care.known → a.dims.WellFormed)
    (hb : care.known → b.dims.WellFormed) :
    Yields care offset (fun r => r.dims = a.dims) (a.add b rates offset) :=
  (yields_convertLinear hb ha).bind fun b' _ => yields_plus a b'.magnitude

theorem yields_sub {a b : Quantity} (ha : care.known → a.dims.WellFormed)
    (hb : care.known → b.dims.WellFormed) :
    Yields care offset (fun r => r.dims = a.dims) (a.sub b rates offset) :=
  (yields_convertLinear hb ha).bind fun b' _ => yields_plus a b'.magnitude.neg

theorem yields_rem {a b : Quantity} (ha : care.known → a.dims.WellFormed)
    (hb : care.known → b.dims.WellFormed) :
    Yields care offset (fun r => r.dims = a.dims) (a.rem b rates offset) := by
  refine (yields_convertLinear hb ha).bind fun b' _ => ?_
  split
  · exact yields_failAt rfl
  · exact yields_orOverflow.bind fun _ _ => yields_pure rfl

theorem yields_mul {a b : Quantity} (ha : care.units → a.dims.WellFormed)
    (hb : care.units → b.dims.WellFormed) :
    Yields care offset (fun r => care.units → r.WellFormed) (a.mul b rates offset) := by
  have hterms : care.known → ∀ t ∈ b.dims.terms.map
      (fun t => ({ unit := t.unit, exponent := t.exponent } : UnitTerm)), t.Resolves := by
    intro hknown u hu
    obtain ⟨t, ht, rfl⟩ := List.mem_map.1 hu
    obtain ⟨d, hd, _⟩ := (hb (care.units_of_known hknown)).resolves t ht
    exact ⟨d, hd⟩
  refine (yields_scale a b.magnitude).bind fun product hdims => ?_
  have hproduct : care.units → product.dims.WellFormed := fun hunits => hdims ▸ ha hunits
  refine (yields_absorbTerms hproduct hterms).bind fun r hr => yields_pure fun hunits => ?_
  exact toAmount_wellFormed (hr hunits)

theorem yields_div {a b : Quantity} (ha : care.units → a.dims.WellFormed)
    (hb : care.units → b.dims.WellFormed) :
    Yields care offset (fun r => care.units → r.WellFormed) (a.div b rates offset) := by
  rw [div]
  split
  · exact yields_failAt rfl
  · exact yields_orOverflow.bind fun _ _ => yields_mul ha fun hunits => (hb hunits).negated

theorem yields_powInt {q : Quantity} (hq : care.units → q.dims.WellFormed) (n : Int) :
    Yields care offset (fun r => care.units → r.WellFormed) (q.powInt n offset) :=
  (yields_powFactor q.magnitude n).bind fun _ _ => yields_pure fun hunits =>
    toAmount_wellFormed ((hq hunits).scaled n)

end Quantity

end

end Reckoner
