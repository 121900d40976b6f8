import Mathlib.Algebra.BigOperators.Group.List.Basic
import Mathlib.Algebra.Order.Ring.Int
import Reckoner.Proofs.Decimal.Whole
import Reckoner.Proofs.Quantity.Size

/-!
# Powers add up

The powers of a quantity, category by category, are a vector: a product adds
the vectors of its factors, a quotient subtracts them, a whole power multiplies
one, and the terms of a literal add up in each category.  What happens to the
magnitude has no part in it.

* `Dimensions.find?_filterMap` is how a change of each term shows in a lookup:
  shifts of one power, the other sign and multiples are all of this form.
* `Dimensions.times` is the step that literals, products and quotients are made
  of, without the magnitude.  `exponent_times` says that it adds to one power,
  `unit_times` that it leaves units alone, and `exponent_timesAll`,
  `unit_timesAll` follow a list of terms from left to right.
* Powers stand in words of 32 bits.  All those on the way through a product fit there
  (`Dimensions.InWords`) if the first and the last ones do (`Quantity.inWords_timesAll_of_mul`).
* `Quantity.ofPower` is what a literal with one unit stands for (`ofTerms_power`).
* `powers_combine` is the statement for all operations.
-/

namespace Reckoner

variable {rates : RateTable} {offset : Nat}

/-- The category of the unit that is written. -/
def UnitTerm.category? (t : UnitTerm) : Option Category :=
  (Denomination.ofName? t.unit).map Denomination.category

namespace Dimensions

/-! ## Lookups -/

theorem find?_insert (d : Dimensions) (t : Term) (c : Category) :
    (d.insert t).find? c = if t.category = c then some t else d.find? c := by
  rcases d with ⟨ts⟩
  simp only [insert, find?]
  induction ts with
  | nil => by_cases hc : t.category = c <;> simp [insertTerm, hc]
  | cons u ts ih =>
    rw [insertTerm]
    split
    · rename_i hrank
      have hne : u.category ≠ t.category := by
        intro heq
        rw [heq] at hrank
        exact Nat.lt_irrefl _ hrank
      rw [List.find?_cons, List.find?_cons, ih]
      by_cases hc : t.category = c
      · have hu : u.category ≠ c := fun heq => hne (heq.trans hc.symm)
        simp [hc, hu]
      · simp [hc]
    · rw [List.find?_cons]
      by_cases hc : t.category = c <;> simp [hc]

/-- What is changed term by term, each staying in its category, is found changed. -/
theorem find?_filterMap {ts : List Term} (hts : (ts.map Term.category).Nodup)
    {f : Term → Option Term} (hf : ∀ t u, f t = some u → u.category = t.category) (c : Category) :
    (Dimensions.mk (ts.filterMap f)).find? c = ((Dimensions.mk ts).find? c).bind f := by
  simp only [find?]
  induction ts with
  | nil => rfl
  | cons t ts ih =>
    rw [List.map_cons, List.nodup_cons] at hts
    have ih := ih hts.2
    rw [List.filterMap_cons, List.find?_cons]
    by_cases hc : t.category = c
    · -- No other term is of this category.
      have hrest : ts.find? (fun u => u.category = c) = .none := by
        refine List.find?_eq_none.2 fun u hu heq => hts.1 ?_
        rw [hc, ← of_decide_eq_true heq]
        exact List.mem_map_of_mem hu
      rw [hrest, Option.bind_none] at ih
      cases hft : f t with
      | none => simp [hc, hft, ih]
      | some u =>
        have hu : u.category = c := (hf t u hft).trans hc
        simp [hc, hft, hu]
    · cases hft : f t with
      | none => simp [hc, ih]
      | some u =>
        have hu : u.category ≠ c := fun heq => hc ((hf t u hft).symm.trans heq)
        simp [hc, hu, ih]

theorem find?_shiftExponent {d : Dimensions} (hd : (d.terms.map Term.category).Nodup)
    (c : Category) (n : Int) (c' : Category) :
    (d.shiftExponent c n).find? c' = (d.find? c').bind fun t =>
      if t.category = c then
        if t.exponent + n = 0 then .none else some { t with exponent := t.exponent + n }
      else some t := by
  refine find?_filterMap hd (fun t u h => ?_) c'
  split at h
  · split at h
    · cases h
    · cases h
      rfl
  · cases h
    rfl

theorem find?_negated {d : Dimensions} (hd : (d.terms.map Term.category).Nodup) (c : Category) :
    d.negated.find? c = (d.find? c).bind fun t => some { t with exponent := -t.exponent } := by
  rw [negated, ← List.filterMap_eq_map]
  refine find?_filterMap hd (fun t u h => ?_) c
  cases h
  rfl

theorem find?_scaled {d : Dimensions} (hd : (d.terms.map Term.category).Nodup) (n : Int)
    (c : Category) :
    (d.scaled n).find? c = (d.find? c).bind fun t =>
      Option.guard (fun u => u.exponent ≠ 0) { t with exponent := t.exponent * n } := by
  have hterms : (d.scaled n).terms = d.terms.filterMap fun t =>
      Option.guard (fun u => u.exponent ≠ 0) { t with exponent := t.exponent * n } := by
    rw [scaled, ← List.filterMap_eq_filter, List.filterMap_map]
    rfl
  have hcategory : ∀ t u : Term, Option.guard (fun u : Term => u.exponent ≠ 0)
      { t with exponent := t.exponent * n } = some u → u.category = t.category := by
    intro t u h
    rw [← (Option.guard_eq_some_iff.1 h).1]
  rw [show d.scaled n = ⟨(d.scaled n).terms⟩ from rfl, hterms]
  exact find?_filterMap hd hcategory c

/-! ## Powers -/

theorem exponent_eq_zero_iff {d : Dimensions} (hd : d.WellFormed) (c : Category) :
    d.exponent c = 0 ↔ d.find? c = .none := by
  rw [exponent]
  cases h : d.find? c with
  | none => simp
  | some t => simpa using hd.nonzero t (mem_find? h).1

/-- Nothing is left of units exactly if all powers are zero. -/
theorem isEmpty_iff_exponent {d : Dimensions} (hd : d.WellFormed) :
    d.isEmpty = true ↔ ∀ c, d.exponent c = 0 := by
  rw [isEmpty, List.isEmpty_iff]
  constructor
  · intro h c
    rw [exponent, find?, h]
    rfl
  · intro h
    rw [List.eq_nil_iff_forall_not_mem]
    intro t ht
    have hnone := (exponent_eq_zero_iff hd t.category).1 (h t.category)
    have habsent := List.find?_eq_none.1 hnone t ht
    simp at habsent

theorem exponent_negated {d : Dimensions} (hd : d.WellFormed) (c : Category) :
    d.negated.exponent c = -d.exponent c := by
  rw [exponent, exponent, find?_negated hd.distinct]
  cases d.find? c <;> rfl

theorem exponent_scaled {d : Dimensions} (hd : d.WellFormed) (n : Int) (c : Category) :
    (d.scaled n).exponent c = n * d.exponent c := by
  rw [exponent, exponent, find?_scaled hd.distinct]
  cases d.find? c with
  | none => simp
  | some t =>
    rw [Option.bind_some, Option.guard]
    by_cases hzero : t.exponent * n = 0
    · have hgone : ¬decide (t.exponent * n ≠ 0) = true := by rw [hzero]; decide
      rw [if_neg hgone, Int.mul_comm, hzero]
    · rw [if_pos (decide_eq_true hzero), Int.mul_comm]

/-- The power of a category is that of its only term. -/
theorem exponent_eq_sum {d : Dimensions} (hd : (d.terms.map Term.category).Nodup) (c : Category) :
    d.exponent c = ((d.terms.filter fun t => t.category = c).map Term.exponent).sum := by
  rcases d with ⟨ts⟩
  simp only [exponent, find?]
  induction ts with
  | nil => rfl
  | cons t ts ih =>
    rw [List.map_cons, List.nodup_cons] at hd
    rw [List.find?_cons, List.filter_cons]
    by_cases hc : t.category = c
    · have hrest : ts.filter (fun u => u.category = c) = [] := by
        refine List.filter_eq_nil_iff.2 fun u hu heq => hd.1 ?_
        rw [hc, ← of_decide_eq_true heq]
        exact List.mem_map_of_mem hu
      simp [hc, hrest]
    · simpa [hc] using ih hd.2

/-! ## Terms multiplied in -/

/-- The units after a unit power is multiplied in. -/
def times (d : Dimensions) (category : Category) (spelling : String) (n : Int) : Dimensions :=
  match d.find? category with
  | some _ => d.shiftExponent category n
  | .none => if n = 0 then d else d.insert { category, unit := spelling, exponent := n }

/-- The units after terms are multiplied in, from left to right. -/
def timesAll (d : Dimensions) (ts : List UnitTerm) : Dimensions :=
  ts.foldl (fun d t => t.category?.elim d fun c => d.times c t.unit t.exponent) d

variable {d : Dimensions} {t : UnitTerm} {ts : List UnitTerm} {c : Category}

theorem WellFormed.times (hd : d.WellFormed) (ht : t.category? = some c) (n : Int) :
    (d.times c t.unit n).WellFormed := by
  obtain ⟨e, he, hcategory⟩ := Option.map_eq_some_iff.1 ht
  rw [Dimensions.times]
  split
  · exact hd.shiftExponent c n
  · rename_i hfind
    split
    · exact hd
    · rename_i hn
      exact hd.insert hfind hn ⟨e, he, hcategory⟩

theorem find?_times_of_ne (hd : d.WellFormed) {c' : Category} (hc : c ≠ c') (spelling : String)
    (n : Int) : (d.times c spelling n).find? c' = d.find? c' := by
  rw [times]
  split
  · rw [find?_shiftExponent hd.distinct]
    cases hfind : d.find? c' with
    | none => rfl
    | some u =>
      have hu : u.category ≠ c := fun heq => hc (heq.symm.trans (mem_find? hfind).2)
      simp [hu]
  · split
    · rfl
    · rw [find?_insert, if_neg hc]

theorem exponent_times (hd : d.WellFormed) (spelling : String) (n : Int) (c' : Category) :
    (d.times c spelling n).exponent c' = d.exponent c' + if c = c' then n else 0 := by
  by_cases hc : c = c'
  · subst hc
    rw [if_pos rfl, times]
    split
    · rename_i u hfind
      have hu := (mem_find? hfind).2
      rw [exponent, exponent, find?_shiftExponent hd.distinct, hfind]
      by_cases hzero : u.exponent + n = 0
      · simp [hu, hzero]
      · simp [hu, hzero]
    · rename_i hfind
      split
      · rename_i hn
        rw [hn, Int.add_zero]
      · rw [(exponent_eq_zero_iff hd c).2 hfind, Int.zero_add, exponent, find?_insert, if_pos rfl]
  · rw [if_neg hc, Int.add_zero, exponent, exponent, find?_times_of_ne hd hc]

/-- A unit that is there stays, as long as its power does. -/
theorem unit_times (hd : d.WellFormed) {spelling : String} {n : Int} {c' : Category} {p u : Term}
    (hp : d.find? c' = some p) (hu : (d.times c spelling n).find? c' = some u) :
    u.unit = p.unit := by
  by_cases hc : c = c'
  · subst hc
    have hcategory := (mem_find? hp).2
    rw [times, hp, find?_shiftExponent hd.distinct, hp, Option.bind_some, if_pos hcategory] at hu
    split at hu
    · cases hu
    · cases hu
      rfl
  · rw [find?_times_of_ne hd hc, hp] at hu
    cases hu
    rfl

theorem timesAll_cons_of_none (ht : t.category? = .none) : d.timesAll (t :: ts) = d.timesAll ts := by
  rw [timesAll, List.foldl_cons, ht]
  rfl

theorem timesAll_cons (ht : t.category? = some c) :
    d.timesAll (t :: ts) = (d.times c t.unit t.exponent).timesAll ts := by
  rw [timesAll, List.foldl_cons, ht]
  rfl

theorem WellFormed.timesAll (hd : d.WellFormed) (ts : List UnitTerm) :
    (d.timesAll ts).WellFormed := by
  induction ts generalizing d with
  | nil => exact hd
  | cons t ts ih =>
    cases ht : t.category? with
    | none =>
      rw [timesAll_cons_of_none ht]
      exact ih hd
    | some c =>
      rw [timesAll_cons ht]
      exact ih (hd.times ht t.exponent)

/-- Terms add up in every category. -/
theorem exponent_timesAll (hd : d.WellFormed) (ts : List UnitTerm) (c : Category) :
    (d.timesAll ts).exponent c =
      d.exponent c + ((ts.filter fun t => t.category? = some c).map UnitTerm.exponent).sum := by
  induction ts generalizing d with
  | nil => simp [timesAll]
  | cons t ts ih =>
    cases ht : t.category? with
    | none =>
      rw [timesAll_cons_of_none ht, ih hd]
      simp [ht]
    | some c' =>
      rw [timesAll_cons ht, ih (hd.times ht t.exponent), exponent_times hd]
      by_cases hc : c' = c
      · simp [ht, hc, Int.add_assoc]
      · simp [ht, hc]

/-- Terms of other categories do not touch the unit of a category. -/
theorem find?_timesAll_of_absent (hd : d.WellFormed) (h : some c ∉ ts.map UnitTerm.category?) :
    (d.timesAll ts).find? c = d.find? c := by
  induction ts generalizing d with
  | nil => rfl
  | cons t ts ih =>
    rw [List.map_cons, List.mem_cons, not_or] at h
    cases ht : t.category? with
    | none =>
      rw [timesAll_cons_of_none ht]
      exact ih hd h.2
    | some c' =>
      have hc : c' ≠ c := fun heq => h.1 (heq ▸ ht.symm)
      rw [timesAll_cons ht, ih (hd.times ht t.exponent) h.2, find?_times_of_ne hd hc]

/-- With one term for each category no unit that has gone comes back in another spelling. -/
theorem unit_timesAll (hd : d.WellFormed) (hts : (ts.map UnitTerm.category?).Nodup) {p u : Term}
    (hp : d.find? c = some p) (hu : (d.timesAll ts).find? c = some u) : u.unit = p.unit := by
  induction ts generalizing d p with
  | nil =>
    cases hp.symm.trans hu
    rfl
  | cons t ts ih =>
    rw [List.map_cons, List.nodup_cons] at hts
    cases ht : t.category? with
    | none =>
      rw [timesAll_cons_of_none ht] at hu
      exact ih hd hts.2 hp hu
    | some c' =>
      rw [timesAll_cons ht] at hu
      have hd' := hd.times ht t.exponent
      cases hnext : (d.times c' t.unit t.exponent).find? c with
      | some v => exact (ih hd' hts.2 hnext hu).trans (unit_times hd hp hnext)
      | none =>
        -- The head has taken the unit away, and so no later term is of this category.
        have hc : c' = c := by
          by_contra hne
          rw [find?_times_of_ne hd hne, hp] at hnext
          cases hnext
        have habsent : some c ∉ ts.map UnitTerm.category? := by
          rw [← hc, ← ht]
          exact hts.1
        rw [find?_timesAll_of_absent hd' habsent, hnext] at hu
        cases hu

/-! ## Words of 32 bits -/

/-- All powers fit into words of 32 bits. -/
def InWords (d : Dimensions) : Prop := ∀ c, FitsInt32 (d.exponent c)

theorem inWords_of_terms (h : ∀ t ∈ d.terms, FitsInt32 t.exponent) : d.InWords := by
  intro c
  rw [exponent]
  cases hfind : d.find? c with
  | none => decide
  | some t => exact h t (mem_find? hfind).1

/-- With one term for each category every power changes once at most, and so it has its first or
its last value all the way. -/
theorem inWords_timesAll_of_prefix (hd : d.WellFormed) {us : List UnitTerm}
    (hts : (ts.map UnitTerm.category?).Nodup) (hus : us <+: ts) (hfirst : d.InWords)
    (hlast : (d.timesAll ts).InWords) : (d.timesAll us).InWords := by
  intro c
  obtain ⟨rest, rfl⟩ := hus
  have hall := hlast c
  rw [exponent_timesAll hd, List.filter_append, List.map_append, List.sum_append] at hall
  rw [exponent_timesAll hd]
  rw [List.map_append, List.nodup_append] at hts
  by_cases hc : some c ∈ us.map UnitTerm.category?
  · have hrest : rest.filter (fun t => t.category? = some c) = [] := by
      refine List.filter_eq_nil_iff.2 fun t ht heq => ?_
      exact hts.2.2 _ hc _ (List.mem_map_of_mem ht) (of_decide_eq_true heq).symm
    rwa [hrest, List.map_nil, List.sum_nil, Int.add_zero] at hall
  · have hnone : us.filter (fun t => t.category? = some c) = [] := by
      refine List.filter_eq_nil_iff.2 fun t ht heq => hc ?_
      rw [← of_decide_eq_true heq]
      exact List.mem_map_of_mem ht
    rw [hnone, List.map_nil, List.sum_nil, Int.add_zero]
    exact hfirst c

end Dimensions

/-! ## Quantities -/

namespace Quantity

theorem yields_absorb_dims (q : Quantity) (d : Denomination) (spelling : String) (n : Int) :
    Yields noCare offset (fun r => r.dims = q.dims.times d.category spelling n)
      (q.absorb d spelling n rates offset) := by
  rw [absorb, Dimensions.times]
  cases q.dims.find? d.category with
  | some present =>
    refine (yields_ofName False.elim).bind fun target _ => ?_
    refine (yields_ratio d target).bind fun factor _ => ?_
    refine (yields_powFactor factor n).bind fun factor _ => ?_
    exact yields_orOverflow.bind fun magnitude _ => yields_pure rfl
  | none =>
    by_cases hn : n = 0
    · rw [if_pos hn, if_pos hn]
      exact yields_pure rfl
    · rw [if_neg hn, if_neg hn]
      exact yields_pure rfl

theorem yields_absorbTerms_dims (q : Quantity) (ts : List UnitTerm) :
    Yields noCare offset (fun r => r.dims = q.dims.timesAll ts)
      (q.absorbTerms ts rates offset) := by
  unfold absorbTerms
  induction ts generalizing q with
  | nil => exact yields_pure rfl
  | cons t ts ih =>
    rw [List.foldlM_cons]
    have hname : Yields noCare offset (fun d => Denomination.ofName? t.unit = some d)
        (Denomination.ofName t.unit offset) := yields_ofName False.elim
    have hstep : Yields noCare offset
        (fun r => ∃ c, t.category? = some c ∧ r.dims = q.dims.times c t.unit t.exponent)
        (do
          let d ← Denomination.ofName t.unit offset
          q.absorb d t.unit t.exponent rates offset) := by
      refine hname.bind fun d hd => ?_
      refine (yields_absorb_dims q d t.unit t.exponent).imp fun r hr => ⟨d.category, ?_, hr⟩
      rw [UnitTerm.category?, hd, Option.map_some]
    refine hstep.bind fun r hr => ?_
    obtain ⟨c, hc, hdims⟩ := hr
    refine (ih r).imp fun r' hr' => ?_
    rw [hr', hdims, Dimensions.timesAll_cons hc]

/-- A magnitude in a power of one unit, as a literal gives it. -/
def ofPower (x : Decimal) (c : Category) (spelling : String) (e : Int) : Quantity :=
  { magnitude := x, dims := Dimensions.none.times c spelling e }

theorem ofPower_of_ne_zero (x : Decimal) (c : Category) (spelling : String) {e : Int} (he : e ≠ 0) :
    ofPower x c spelling e = { magnitude := x, dims := ⟨[⟨c, spelling, e⟩]⟩ } :=
  congrArg (Quantity.mk x) (if_neg he)

theorem ofTerms_power {u : Denomination} {spelling : String}
    (h : Denomination.ofName? spelling = some u) (x : Decimal) (e : Int) :
    ofTerms x [⟨spelling, e⟩] rates offset = .ok (ofPower x u.category spelling e) := by
  have habsorb : absorb { magnitude := x, dims := .none } u spelling e rates offset =
      .ok (ofPower x u.category spelling e) := by
    by_cases he : e = 0
    · subst he
      rfl
    · rw [ofPower_of_ne_zero x u.category spelling he]
      exact if_neg he
  unfold ofTerms absorbTerms
  rw [List.foldlM_cons]
  dsimp only
  rw [ofName_eq_ok h]
  show absorb { magnitude := x, dims := .none } u spelling e rates offset >>= _ = _
  rw [habsorb]
  rfl

/-- The terms of a product's right factor. -/
def factors (q : Quantity) : List UnitTerm :=
  q.dims.terms.map fun t => { unit := t.unit, exponent := t.exponent }

theorem category?_factors {q : Quantity} (hq : q.dims.WellFormed) :
    q.factors.map UnitTerm.category? = q.dims.terms.map fun t => some t.category := by
  rw [factors, List.map_map, List.map_inj_left]
  intro t ht
  obtain ⟨d, hd, hcategory⟩ := hq.resolves t ht
  rw [Function.comp_apply, UnitTerm.category?, hd, Option.map_some, hcategory]

theorem nodup_factors {q : Quantity} (hq : q.dims.WellFormed) :
    (q.factors.map UnitTerm.category?).Nodup := by
  have hsome : (q.dims.terms.map fun t => some t.category) =
      (q.dims.terms.map Term.category).map some := by
    rw [List.map_map]
    rfl
  rw [category?_factors hq, hsome]
  exact hq.distinct.map (Option.some_injective _)

/-- The factors of a category are one, or none. -/
theorem sum_factors {q : Quantity} (hq : q.dims.WellFormed) (c : Category) :
    ((q.factors.filter fun t => t.category? = some c).map UnitTerm.exponent).sum =
      q.dims.exponent c := by
  have hfilter : q.dims.terms.filter (fun t =>
      decide (UnitTerm.category? { unit := t.unit, exponent := t.exponent } = some c)) =
      q.dims.terms.filter fun t => t.category = c := by
    refine List.filter_congr fun t ht => ?_
    obtain ⟨d, hd, hcategory⟩ := hq.resolves t ht
    simp [UnitTerm.category?, hd, hcategory]
  rw [Dimensions.exponent_eq_sum hq.distinct, factors, List.filter_map, List.map_map, ← hfilter]
  rfl

theorem yields_mul_dims (a b : Quantity) :
    Yields noCare offset (fun r => ∃ q : Quantity, r = q.toAmount ∧ q.dims = a.dims.timesAll b.factors)
      (a.mul b rates offset) := by
  refine (yields_scale a b.magnitude).bind fun product hproduct => ?_
  refine (yields_absorbTerms_dims product b.factors).bind fun q hq => yields_pure ⟨q, rfl, ?_⟩
  rw [hq, hproduct]

theorem yields_div_dims (a b : Quantity) :
    Yields noCare offset
      (fun r => ∃ q inverse : Quantity, r = q.toAmount ∧ inverse.dims = b.dims.negated ∧
        q.dims = a.dims.timesAll inverse.factors)
      (a.div b rates offset) := by
  rw [div]
  split
  · exact yields_failAt rfl
  · refine yields_orOverflow.bind fun x _ => (yields_mul_dims a _).imp fun r hr => ?_
    obtain ⟨q, hr, hq⟩ := hr
    exact ⟨q, _, hr, rfl, hq⟩

theorem yields_powInt_dims (q : Quantity) (n : Int) :
    Yields noCare offset (fun r => ∃ p : Quantity, r = p.toAmount ∧ p.dims = q.dims.scaled n)
      (q.powInt n offset) :=
  (yields_powFactor q.magnitude n).bind fun _ _ => yields_pure ⟨_, rfl, rfl⟩

end Quantity

/-! ## Amounts -/

/-- The power of a category in an amount.  A plain number has none. -/
def Amount.exponent : Amount → Category → Int
  | .number _, _ => 0
  | .quantity q, c => q.dims.exponent c

/-- The spelling of the unit of a category. -/
def Dimensions.unit? (d : Dimensions) (c : Category) : Option String := (d.find? c).map Term.unit

/-- The spelling of the unit of a category in an amount. -/
def Amount.unit? : Amount → Category → Option String
  | .number _, _ => none
  | .quantity q, c => q.dims.unit? c

/-- All powers of an amount fit into words of 32 bits. -/
def Amount.InWords (r : Amount) : Prop := ∀ c, FitsInt32 (r.exponent c)

/-- An amount has certain powers, and it is a plain number exactly if they are all zero. -/
structure Amount.HasPowers (r : Amount) (e : Category → Int) : Prop where
  exponent : ∀ c, r.exponent c = e c
  isNumber : (∃ x, r = .number x) ↔ ∀ c, e c = 0

/-- In every category in which a quantity and an amount both have a power, the amount has the unit
of the quantity as it is written there. -/
def Amount.KeepsUnits (r : Amount) (q : Quantity) : Prop :=
  ∀ c, q.dims.exponent c ≠ 0 → r.exponent c ≠ 0 → r.unit? c = q.dims.unit? c

namespace Quantity

theorem exponent_toAmount (q : Quantity) (c : Category) : q.toAmount.exponent c = q.dims.exponent c := by
  rw [toAmount]
  split
  · rename_i hempty
    rw [Amount.exponent, Dimensions.exponent, Dimensions.find?, List.isEmpty_iff.1 hempty]
    rfl
  · rfl

/-- Where the powers of a left factor and of a product fit into words, so do those on the way from
one to the other. -/
theorem inWords_timesAll_of_mul {a b : Quantity} (ha : a.WellFormed) (hb : b.WellFormed)
    {r : Amount} (hr : a.mul b rates offset = .ok r) (hfirst : a.dims.InWords) (hlast : r.InWords)
    {us : List UnitTerm} (hus : us <+: b.factors) : (a.dims.timesAll us).InWords := by
  obtain ⟨q, rfl, hq⟩ := (yields_mul_dims a b).ok_of_eq hr
  refine Dimensions.inWords_timesAll_of_prefix ha.dims (nodup_factors hb.dims) hus hfirst
    fun c => ?_
  rw [← hq, ← exponent_toAmount]
  exact hlast c

theorem hasPowers_toAmount {q : Quantity} (hq : q.dims.WellFormed) {e : Category → Int}
    (he : ∀ c, q.dims.exponent c = e c) : q.toAmount.HasPowers e where
  exponent c := (exponent_toAmount q c).trans (he c)
  isNumber := by
    simp only [← he]
    rw [← Dimensions.isEmpty_iff_exponent hq, toAmount]
    cases q.dims.isEmpty <;> simp

/-- The units of a left factor are kept in a product. -/
theorem keepsUnits_toAmount {a p q : Quantity} (ha : a.dims.WellFormed) (hp : p.dims.WellFormed)
    (hq : q.dims = a.dims.timesAll p.factors) : q.toAmount.KeepsUnits a := by
  intro c hexponent hresult
  rw [exponent_toAmount] at hresult
  have hne : q.toAmount = .quantity q := by
    rw [toAmount, if_neg]
    intro hempty
    refine hresult ?_
    rw [Dimensions.exponent, Dimensions.find?, List.isEmpty_iff.1 hempty]
    rfl
  rw [hne, Amount.unit?, Dimensions.unit?, Dimensions.unit?]
  cases hfind : a.dims.find? c with
  | none => exact absurd ((Dimensions.exponent_eq_zero_iff ha c).2 hfind) hexponent
  | some t =>
    cases hfind' : q.dims.find? c with
    | none =>
      refine absurd ?_ hresult
      rw [Dimensions.exponent, hfind']
    | some u =>
      rw [hq] at hfind'
      have hunit := Dimensions.unit_timesAll ha (nodup_factors hp) hfind hfind'
      rw [Option.map_some, Option.map_some, hunit]

/-- The powers of a product are the sums of those of its factors, those of a quotient the
differences, those of a whole power the multiples, and those of a literal the sums over its terms,
whatever the magnitudes and rates are.  A product and a quotient keep the units of the left
operand. -/
theorem powers_combine {a b : Quantity} (ha : a.WellFormed) (hb : b.WellFormed)
    (rates : RateTable) (offset : Nat) :
    (∀ r, a.mul b rates offset = .ok r →
      r.HasPowers (fun c => a.dims.exponent c + b.dims.exponent c) ∧ r.KeepsUnits a) ∧
    (∀ r, a.div b rates offset = .ok r →
      r.HasPowers (fun c => a.dims.exponent c - b.dims.exponent c) ∧ r.KeepsUnits a) ∧
    (∀ n r, a.powInt n offset = .ok r → r.HasPowers fun c => n * a.dims.exponent c) ∧
    ∀ x ts q, ofTerms x ts rates offset = .ok q → ∀ c, q.dims.exponent c =
      ((ts.filter fun t => t.category? = some c).map UnitTerm.exponent).sum := by
  refine ⟨?_, ?_, ?_, ?_⟩
  · intro r hr
    obtain ⟨q, rfl, hq⟩ := (yields_mul_dims a b).ok_of_eq hr
    refine ⟨hasPowers_toAmount ?_ fun c => ?_, keepsUnits_toAmount ha.dims hb.dims hq⟩
    · rw [hq]
      exact ha.dims.timesAll _
    · rw [hq, Dimensions.exponent_timesAll ha.dims, sum_factors hb.dims]
  · intro r hr
    obtain ⟨q, inverse, rfl, hinverse, hq⟩ := (yields_div_dims a b).ok_of_eq hr
    have hwf : inverse.dims.WellFormed := hinverse ▸ hb.dims.negated
    refine ⟨hasPowers_toAmount ?_ fun c => ?_, keepsUnits_toAmount ha.dims hwf hq⟩
    · rw [hq]
      exact ha.dims.timesAll _
    · rw [hq, Dimensions.exponent_timesAll ha.dims, sum_factors hwf, hinverse,
        Dimensions.exponent_negated hb.dims, Int.sub_eq_add_neg]
  · intro n r hr
    obtain ⟨p, rfl, hp⟩ := (yields_powInt_dims a n).ok_of_eq hr
    refine hasPowers_toAmount ?_ fun c => ?_
    · rw [hp]
      exact ha.dims.scaled n
    · rw [hp, Dimensions.exponent_scaled ha.dims]
  · intro x ts q hq c
    have hdims : q.dims = Dimensions.none.timesAll ts :=
      (yields_absorbTerms_dims { magnitude := x, dims := .none } ts).ok_of_eq hq
    rw [hdims, Dimensions.exponent_timesAll Dimensions.wellFormed_none]
    simp [Dimensions.exponent, Dimensions.find?, Dimensions.none]

/-- Six kilometres and kilograms an hour. -/
def hourly : Quantity :=
  { magnitude := .ofNat 6,
    dims := ⟨[⟨.length, "km", 1⟩, ⟨.mass, "kg", 1⟩, ⟨.time, "h", -1⟩]⟩ }

/-- Three kilograms for a metre. -/
def perLength : Quantity :=
  { magnitude := .ofNat 3, dims := ⟨[⟨.length, "m", -1⟩, ⟨.mass, "kg", 1⟩]⟩ }

theorem hourly_wellFormed : hourly.WellFormed := by decide +kernel

theorem perLength_wellFormed : perLength.WellFormed := by decide +kernel

/-- The product has lost its length, and the quotient its mass. -/
theorem powers_combine_hourly :
    hourly.WellFormed ∧ perLength.WellFormed ∧
      ∃ r s, hourly.mul perLength .empty 0 = .ok r ∧ hourly.div perLength .empty 0 = .ok s ∧
        r.HasPowers (fun c => hourly.dims.exponent c + perLength.dims.exponent c) ∧
        s.HasPowers (fun c => hourly.dims.exponent c - perLength.dims.exponent c) ∧
        r.unit? .length = none ∧ s.unit? .length = some "km" ∧ s.KeepsUnits hourly := by
  have hmul : hourly.mul perLength .empty 0 = .ok (.quantity
      { magnitude := .ofNat 18000, dims := ⟨[⟨.mass, "kg", 2⟩, ⟨.time, "h", -1⟩]⟩ }) := by
    decide
  have hdiv : hourly.div perLength .empty 0 = .ok (.quantity
      { magnitude := .ofScaled (2 * 10 ^ 25) 28,
        dims := ⟨[⟨.length, "km", 2⟩, ⟨.time, "h", -1⟩]⟩ }) := by
    decide +kernel
  obtain ⟨hproduct, hquotient, -, -⟩ :=
    powers_combine hourly_wellFormed perLength_wellFormed .empty 0
  exact ⟨hourly_wellFormed, perLength_wellFormed, _, _, hmul, hdiv, (hproduct _ hmul).1,
    (hquotient _ hdiv).1, rfl, rfl, (hquotient _ hdiv).2⟩

end Quantity

end Reckoner
