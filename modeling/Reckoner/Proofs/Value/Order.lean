import Mathlib.Data.Prod.Lex
import Mathlib.Data.String.Basic
import Mathlib.Order.Compare
import Reckoner.Eval.Builtin.Number
import Reckoner.Proofs.Quantity.Standing
import Reckoner.Proofs.Value.Sorting

/-!
# The order of values

Quantities are converted before they are compared, and a plain number is
compared with the number of units.  If no conversion is rounded, and plain
numbers stand only beside quantities on one scale (`Comparable`), the order of
values is that of their keys (`Comparable.exists_keyed`): where quantities
stand, their magnitudes beside plain numbers, characters, moments, truth values.

Whatever goes by keys (`Keyed`) is a total preorder, and sorting, extremes and
clamping come to tied results in whatever order the values are given
(`Keyed.orderLaws`).  `orderLaws_of_comparable` puts the two together.
-/

namespace Reckoner

/-- Units of one size on scales with one zero. -/
def Dimensions.SameScale (rates : RateTable) (d e : Dimensions) : Prop :=
  d.weight rates = e.weight rates ∧ d.origin = e.origin

/-! ## Keys -/

namespace Value

/-- The number, or the number of units. -/
def magnitude : Value → ℚ
  | number x => x.toRat
  | quantity q => q.magnitude.toRat
  | _ => 0

/-- Where a quantity stands. -/
def standing (rates : RateTable) : Value → ℚ
  | quantity q => q.standing rates
  | _ => 0

/-- The characters of a string. -/
def text : Value → String
  | string t => t
  | _ => ""

/-- When a date is. -/
def moment : Value → Int ×ₗ Nat
  | date d => toLex (d.instant.seconds, d.instant.nanos)
  | _ => toLex (0, 0)

/-- A truth value. -/
def truth : Value → Bool
  | bool b => b
  | _ => false

end Value

namespace Eval

/-- Values each two of which compare, with no conversion between them that is
rounded, and with plain numbers only beside quantities on one scale. -/
structure Comparable (ctx : Context) (offset : Nat) (S : Value → Prop) : Prop where
  succeeds : ∀ v w, S v → S w → ∃ o, compareValues ctx v w offset = .ok o
  faithful : ∀ p q, S (.quantity p) → S (.quantity q) → q.Faithful p.dims ctx.rates offset
  sameScale : ∀ x p q, S (.number x) → S (.quantity p) → S (.quantity q) →
    p.dims.SameScale ctx.rates q.dims

/-- The order of values is that of their keys. -/
def Keyed {β : Type} [LinearOrder β] (ctx : Context) (offset : Nat) (S : Value → Prop)
    (key : Value → β) : Prop :=
  ∀ v w, S v → S w → compareValues ctx v w offset = .ok (cmp (key v) (key w))

variable {ctx : Context} {offset : Nat} {S : Value → Prop} {p q : Quantity}

/-! ## Comparisons -/

theorem compareValues_quantity (h : q.Faithful p.dims ctx.rates offset) {o : Ordering}
    (ho : compareValues ctx (.quantity p) (.quantity q) offset = .ok o) :
    ∃ r : Quantity, r.dims = p.dims ∧ r.standing ctx.rates = q.standing ctx.rates ∧
      o = cmp p.magnitude.toRat r.magnitude.toRat := by
  rw [compareValues] at ho
  cases hr : q.convertTo p.dims ctx.rates offset with
  | error e =>
    rw [hr] at ho
    cases ho
  | ok r =>
    rw [hr] at ho
    cases ho
    exact ⟨r, Quantity.dims_convertTo hr, h r hr, Decimal.compare_eq_cmp _ _⟩

/-- A conversion to units on the same scale leaves the magnitude alone. -/
theorem magnitude_eq_of_sameScale {rates : RateTable} {r : Quantity} (hdims : r.dims = p.dims)
    (hstanding : r.standing rates = q.standing rates) (h : p.dims.SameScale rates q.dims) :
    r.magnitude.toRat = q.magnitude.toRat := by
  rw [Quantity.standing, Quantity.standing, hdims, h.1, h.2, add_left_inj] at hstanding
  exact mul_right_cancel₀ (q.dims.weight_ne_zero rates) hstanding

theorem compare_instant (i j : Instant) :
    i.compare j = cmp (toLex (i.seconds, i.nanos)) (toLex (j.seconds, j.nanos)) := by
  rw [cmp_eq_compare, Prod.Lex.compare_def]
  rfl

theorem isNumeric_of_compareValues {v w : Value} {o : Ordering}
    (h : compareValues ctx v w offset = .ok o) : v.isNumeric = w.isNumeric := by
  cases v <;> cases w <;> first | rfl | cases h

theorem exists_string_of_compareValues {t : String} {v : Value} {o : Ordering}
    (h : compareValues ctx (.string t) v offset = .ok o) : ∃ u, v = .string u := by
  cases v with
  | string u => exact ⟨u, rfl⟩
  | _ => cases h

theorem exists_date_of_compareValues {d : Date} {v : Value} {o : Ordering}
    (h : compareValues ctx (.date d) v offset = .ok o) : ∃ e, v = .date e := by
  cases v with
  | date e => exact ⟨e, rfl⟩
  | _ => cases h

/-! ## Every kind has its key -/

namespace Comparable

variable (h : Comparable ctx offset S)

include h

theorem isNumeric_eq {v w : Value} (hv : S v) (hw : S w) : v.isNumeric = w.isNumeric := by
  obtain ⟨o, ho⟩ := h.succeeds v w hv hw
  exact isNumeric_of_compareValues ho

/-- Beside a plain number everything is in the order of magnitudes. -/
theorem keyed_magnitude {x : Decimal} (hx : S (.number x)) :
    Keyed ctx offset S Value.magnitude := by
  intro v w hv hw
  have hvn := h.isNumeric_eq hx hv
  have hwn := h.isNumeric_eq hx hw
  cases v with
  | number y =>
    cases w with
    | number z => exact congrArg _ (Decimal.compare_eq_cmp y z)
    | quantity q => exact congrArg _ (Decimal.compare_eq_cmp y q.magnitude)
    | _ => cases hwn
  | quantity p =>
    cases w with
    | number z => exact congrArg _ (Decimal.compare_eq_cmp p.magnitude z)
    | quantity q =>
      obtain ⟨o, ho⟩ := h.succeeds _ _ hv hw
      obtain ⟨r, hdims, hstanding, rfl⟩ := compareValues_quantity (h.faithful p q hv hw) ho
      rw [ho, magnitude_eq_of_sameScale hdims hstanding (h.sameScale x p q hx hv hw)]
      rfl
    | _ => cases hwn
  | _ => cases hvn

/-- Quantities among themselves are in the order in which they stand. -/
theorem keyed_standing (hrates : ctx.rates.Nonnegative) (hnone : ∀ x, ¬S (.number x))
    (hq : S (.quantity q)) : Keyed ctx offset S (Value.standing ctx.rates) := by
  have hquantity (v : Value) (hv : S v) : ∃ p, v = .quantity p := by
    have hnumeric := h.isNumeric_eq hq hv
    cases v with
    | number x => exact absurd hv (hnone x)
    | quantity p => exact ⟨p, rfl⟩
    | _ => cases hnumeric
  intro v w hv hw
  obtain ⟨p, rfl⟩ := hquantity v hv
  obtain ⟨r, rfl⟩ := hquantity w hw
  obtain ⟨o, ho⟩ := h.succeeds _ _ hv hw
  obtain ⟨r', hdims, hstanding, rfl⟩ := compareValues_quantity (h.faithful p r hv hw) ho
  rw [ho, Quantity.cmp_standing hrates hdims.symm, hstanding]
  rfl

theorem keyed_text {t : String} (ht : S (.string t)) : Keyed ctx offset S Value.text := by
  intro v w hv hw
  obtain ⟨_, ho⟩ := h.succeeds _ _ ht hv
  obtain ⟨u, rfl⟩ := exists_string_of_compareValues ho
  obtain ⟨_, ho⟩ := h.succeeds _ _ ht hw
  obtain ⟨u', rfl⟩ := exists_string_of_compareValues ho
  exact congrArg _ (cmp_eq_compare u u').symm

theorem keyed_moment {d : Date} (hd : S (.date d)) : Keyed ctx offset S Value.moment := by
  intro v w hv hw
  obtain ⟨_, ho⟩ := h.succeeds _ _ hd hv
  obtain ⟨e, rfl⟩ := exists_date_of_compareValues ho
  obtain ⟨_, ho⟩ := h.succeeds _ _ hd hw
  obtain ⟨e', rfl⟩ := exists_date_of_compareValues ho
  exact congrArg _ (compare_instant e.instant e'.instant)

/-- The values are all of one kind, or numbers and quantities, and each kind has
its key. -/
theorem exists_keyed (hrates : ctx.rates.Nonnegative) :
    ∃ (β : Type) (_ : LinearOrder β) (key : Value → β), Keyed ctx offset S key := by
  by_cases hnumber : ∃ x, S (.number x)
  · obtain ⟨x, hx⟩ := hnumber
    exact ⟨ℚ, inferInstance, _, h.keyed_magnitude hx⟩
  by_cases hquantity : ∃ q, S (.quantity q)
  · obtain ⟨q, hq⟩ := hquantity
    exact ⟨ℚ, inferInstance, _, h.keyed_standing hrates (fun x hx => hnumber ⟨x, hx⟩) hq⟩
  by_cases hstring : ∃ t, S (.string t)
  · obtain ⟨t, ht⟩ := hstring
    exact ⟨String, inferInstance, _, h.keyed_text ht⟩
  by_cases hdate : ∃ d, S (.date d)
  · obtain ⟨d, hd⟩ := hdate
    exact ⟨Int ×ₗ Nat, inferInstance, _, h.keyed_moment hd⟩
  have hbool (v : Value) (hv : S v) : ∃ b, v = .bool b := by
    obtain ⟨o, ho⟩ := h.succeeds v v hv hv
    cases v with
    | number x => exact absurd ⟨x, hv⟩ hnumber
    | quantity q => exact absurd ⟨q, hv⟩ hquantity
    | string t => exact absurd ⟨t, hv⟩ hstring
    | date d => exact absurd ⟨d, hv⟩ hdate
    | bool b => exact ⟨b, rfl⟩
    | _ => cases ho
  refine ⟨Bool, inferInstance, Value.truth, fun v w hv hw => ?_⟩
  obtain ⟨a, rfl⟩ := hbool v hv
  obtain ⟨b, rfl⟩ := hbool w hw
  exact congrArg _ (cmp_eq_compare a b).symm

end Comparable

/-! ## What goes by keys -/

/-- A value does not come behind another one. -/
def Precedes (ctx : Context) (offset : Nat) (v w : Value) : Prop :=
  ∃ o, compareValues ctx v w offset = .ok o ∧ o ≠ .gt

/-- Two values have the same place in the order. -/
def Ties (ctx : Context) (offset : Nat) (v w : Value) : Prop :=
  compareValues ctx v w offset = .ok .eq

namespace Keyed

variable {β : Type} [LinearOrder β] {key : Value → β} {u v w : Value} {s t : Session}

section

variable (h : Keyed ctx offset S key)

include h

theorem swap (hv : S v) (hw : S w) {o : Ordering} (ho : compareValues ctx v w offset = .ok o) :
    compareValues ctx w v offset = .ok o.swap := by
  rw [h v w hv hw] at ho
  cases ho
  rw [h w v hw hv, cmp_swap]

theorem precedes_iff (hv : S v) (hw : S w) : Precedes ctx offset v w ↔ key v ≤ key w := by
  rw [Precedes, h v w hv hw, ← not_lt, ← cmp_eq_gt_iff]
  constructor
  · rintro ⟨o, ho, hne⟩
    cases ho
    exact hne
  · exact fun hne => ⟨_, rfl, hne⟩

theorem ties_iff (hv : S v) (hw : S w) : Ties ctx offset v w ↔ key v = key w := by
  rw [Ties, h v w hv hw, Except.ok.injEq, cmp_eq_eq_iff]

theorem trans (hu : S u) (hv : S v) (hw : S w) (huv : Precedes ctx offset u v)
    (hvw : Precedes ctx offset v w) : Precedes ctx offset u w := by
  rw [h.precedes_iff hu hv] at huv
  rw [h.precedes_iff hv hw] at hvw
  exact (h.precedes_iff hu hw).2 (huv.trans hvw)

/-! ### Sorting -/

theorem follows : Follows (naturalOrder ctx offset) S fun v w => key v ≤ key w := by
  intro v w hv hw
  refine ⟨cmp (key v) (key w), ?_, ?_⟩
  · rw [naturalOrder, h v w hv hw]
    rfl
  · rw [cmp_eq_gt_iff, decide_eq_false_iff_not, not_le]

/-- Values of an array in order. -/
theorem exists_sort (call : Caller) {c : Nat} (hs : ∀ v ∈ (s.items c).toList, S v) :
    ∃ vs : Array Value, sort ctx call (.array c) none offset s =
        .ok (.array s.cells.size) (s.newCell (.array vs)) ∧
      vs.toList.Perm (s.items c).toList ∧ vs.toList.Pairwise fun v w => key v ≤ key w := by
  obtain ⟨vs, hrun, hperm, hsorted⟩ := exists_mergeSort_of_follows h.follows
    (fun u v w huv hvw => by simpa using (of_decide_eq_true huv).trans (of_decide_eq_true hvw))
    (fun v w => by simpa using le_total (key v) (key w)) hs
  refine ⟨vs.toArray, ?_, hperm, hsorted.imp of_decide_eq_true⟩
  show (mergeSort (naturalOrder ctx offset) (s.items c).toList >>= newList) s = _
  rw [hrun, pure_bind]
  rfl

/-- Arrays with the same items are sorted to the same order. -/
theorem sort_perm (call : Caller) {c d : Nat} (hs : ∀ v ∈ (s.items c).toList, S v)
    (hperm : (s.items c).toList.Perm (t.items d).toList) :
    ∃ vs ws : Array Value,
      sort ctx call (.array c) none offset s =
        .ok (.array s.cells.size) (s.newCell (.array vs)) ∧
      sort ctx call (.array d) none offset t =
        .ok (.array t.cells.size) (t.newCell (.array ws)) ∧
      vs.toList.Perm (s.items c).toList ∧ vs.toList.Pairwise (Precedes ctx offset) ∧
      List.Forall₂ (Ties ctx offset) vs.toList ws.toList := by
  have ht : ∀ v ∈ (t.items d).toList, S v := fun v hv => hs v (hperm.mem_iff.2 hv)
  obtain ⟨vs, hrun, hvs, hsorted⟩ := h.exists_sort call hs
  obtain ⟨ws, hrun', hws, hsorted'⟩ := h.exists_sort call ht
  have hv : ∀ v ∈ vs.toList, S v := fun v hv => hs v (hvs.mem_iff.1 hv)
  have hw : ∀ w ∈ ws.toList, S w := fun w hw => ht w (hws.mem_iff.1 hw)
  have hkeys := map_eq_of_sorted (hvs.trans (hperm.trans hws.symm)) hsorted hsorted'
  refine ⟨vs, ws, hrun, hrun', hvs, ?_, ?_⟩
  · exact hsorted.imp_of_mem fun hx hy hle => (h.precedes_iff (hv _ hx) (hv _ hy)).2 hle
  · exact forall₂_of_map_eq hkeys fun v hv' w hw' heq => (h.ties_iff (hv v hv') (hw w hw')).2 heq

end

/-! ### Extremes -/

theorem spread_pair (v w : Value) (s : Session) : spread [v, w] s = .ok [v, w] s := by
  cases v <;> rfl

/-- Each candidate that comes before the best one so far is the next best. -/
theorem exists_extremeFrom {wanted : Ordering}
    (h : ∀ v w, S v → S w →
      ∃ o, compareValues ctx v w offset = .ok o ∧ (o = wanted ↔ key v < key w))
    {best : Value} {rest : List Value} (hbest : S best) (hrest : ∀ v ∈ rest, S v) (s : Session) :
    ∃ v, (rest.foldlM (fun best candidate => do
        let order ← compareValues ctx candidate best offset
        return if order = wanted then candidate else best) best : EvalM Value) s = .ok v s ∧
      v ∈ best :: rest ∧ ∀ w ∈ best :: rest, key v ≤ key w := by
  induction rest generalizing best with
  | nil => exact ⟨best, rfl, List.mem_singleton_self best, by simp⟩
  | cons candidate rest ih =>
    have hcandidate := hrest candidate List.mem_cons_self
    obtain ⟨o, ho, hwanted⟩ := h candidate best hcandidate hbest
    obtain ⟨next, hnext⟩ : ∃ next, next = if o = wanted then candidate else best := ⟨_, rfl⟩
    have hmember : next = best ∨ next = candidate := by
      rw [hnext]
      split
      · exact .inr rfl
      · exact .inl rfl
    have hbefore : key next ≤ key best ∧ key next ≤ key candidate := by
      rw [hnext]
      split
      · exact ⟨(hwanted.1 ‹_›).le, le_rfl⟩
      · exact ⟨le_rfl, not_lt.1 (mt hwanted.2 ‹_›)⟩
    have hnextS : S next := by rcases hmember with rfl | rfl <;> assumption
    obtain ⟨v, hrun, hmem, hle⟩ := ih hnextS fun w hw => hrest w (List.mem_cons_of_mem _ hw)
    refine ⟨v, ?_, ?_, ?_⟩
    · rw [List.foldlM_cons, ho]
      rw [hnext] at hrun
      exact hrun
    · rcases List.mem_cons.1 hmem with rfl | hmem
      · rcases hmember with rfl | rfl
        · exact List.mem_cons_self
        · exact List.mem_cons_of_mem _ List.mem_cons_self
      · exact List.mem_cons_of_mem _ (List.mem_cons_of_mem _ hmem)
    · have hv := hle next List.mem_cons_self
      intro w hw
      rcases List.mem_cons.1 hw with rfl | hw
      · exact hv.trans hbefore.1
      rcases List.mem_cons.1 hw with rfl | hw
      · exact hv.trans hbefore.2
      · exact hle w (List.mem_cons_of_mem _ hw)

theorem exists_extreme (key : Value → β) {wanted : Ordering}
    (h : ∀ v w, S v → S w →
      ∃ o, compareValues ctx v w offset = .ok o ∧ (o = wanted ↔ key v < key w))
    {args items : List Value} (hspread : spread args s = .ok items s) (hne : items ≠ [])
    (hitems : ∀ v ∈ items, S v) :
    ∃ v, extreme ctx wanted args offset s = .ok v s ∧ v ∈ items ∧ ∀ w ∈ items, key v ≤ key w := by
  cases items with
  | nil => exact absurd rfl hne
  | cons best rest =>
    obtain ⟨v, hrun, hv⟩ := exists_extremeFrom h (hitems best List.mem_cons_self)
      (fun w hw => hitems w (List.mem_cons_of_mem _ hw)) s
    refine ⟨v, ?_, hv⟩
    rw [extreme]
    dsimp only [bind, EStateM.bind]
    rw [hspread]
    exact hrun

section

variable (h : Keyed ctx offset S key)

include h

theorem exists_least {args items : List Value} (hspread : spread args s = .ok items s)
    (hne : items ≠ []) (hitems : ∀ v ∈ items, S v) :
    ∃ v, extreme ctx .lt args offset s = .ok v s ∧ v ∈ items ∧ ∀ w ∈ items, key v ≤ key w :=
  exists_extreme key (fun v w hv hw => ⟨_, h v w hv hw, cmp_eq_lt_iff _ _⟩) hspread hne hitems

/-- The greatest value is the least one in the opposite order. -/
theorem exists_greatest {args items : List Value} (hspread : spread args s = .ok items s)
    (hne : items ≠ []) (hitems : ∀ v ∈ items, S v) :
    ∃ v, extreme ctx .gt args offset s = .ok v s ∧ v ∈ items ∧ ∀ w ∈ items, key w ≤ key v :=
  exists_extreme (fun v => OrderDual.toDual (key v))
    (fun v w hv hw => ⟨_, h v w hv hw, cmp_eq_gt_iff _ _⟩) hspread hne hitems

theorem exists_min (hv : S v) (hw : S w) (s : Session) :
    ∃ u, extreme ctx .lt [v, w] offset s = .ok u s ∧ S u ∧ key u = min (key v) (key w) := by
  have hitems : ∀ u ∈ [v, w], S u := by simpa using ⟨hv, hw⟩
  obtain ⟨u, hrun, hmem, hle⟩ := h.exists_least (spread_pair v w s) (by simp) hitems
  refine ⟨u, hrun, hitems u hmem, le_antisymm (le_min (hle v (by simp)) (hle w (by simp))) ?_⟩
  rcases List.mem_pair.1 hmem with rfl | rfl
  · exact min_le_left _ _
  · exact min_le_right _ _

theorem exists_max (hv : S v) (hw : S w) (s : Session) :
    ∃ u, extreme ctx .gt [v, w] offset s = .ok u s ∧ S u ∧ key u = max (key v) (key w) := by
  have hitems : ∀ u ∈ [v, w], S u := by simpa using ⟨hv, hw⟩
  obtain ⟨u, hrun, hmem, hle⟩ := h.exists_greatest (spread_pair v w s) (by simp) hitems
  refine ⟨u, hrun, hitems u hmem, le_antisymm ?_ (max_le (hle v (by simp)) (hle w (by simp)))⟩
  rcases List.mem_pair.1 hmem with rfl | rfl
  · exact le_max_left _ _
  · exact le_max_right _ _

theorem exists_clamp {low high : Value} (hv : S v) (hlow : S low) (hhigh : S high)
    (hle : key low ≤ key high) (s : Session) :
    ∃ u, clamp ctx v low high offset s = .ok u s ∧ S u ∧
      key u = max (key low) (min (key v) (key high)) := by
  have hbounds : cmp (key low) (key high) ≠ .gt := by rwa [ne_eq, cmp_eq_gt_iff, not_lt]
  rw [clamp, h low high hlow hhigh, h v low hv hlow, h v high hv hhigh]
  dsimp only [liftM, monadLift, MonadLift.monadLift]
  rw [pure_bind, if_neg hbounds, pure_bind]
  by_cases hlt : key v < key low
  · rw [if_pos ((cmp_eq_lt_iff _ _).2 hlt)]
    exact ⟨low, rfl, hlow, (max_eq_left ((min_le_left _ _).trans hlt.le)).symm⟩
  · rw [if_neg fun h => hlt ((cmp_eq_lt_iff _ _).1 h), pure_bind]
    rw [not_lt] at hlt
    by_cases hgt : key high < key v
    · rw [if_pos ((cmp_eq_gt_iff _ _).2 hgt)]
      exact ⟨high, rfl, hhigh, by rw [min_eq_right hgt.le, max_eq_right hle]⟩
    · rw [if_neg fun h => hgt ((cmp_eq_gt_iff _ _).1 h)]
      rw [not_lt] at hgt
      exact ⟨v, rfl, hv, by rw [min_eq_left hgt, max_eq_right hlt]⟩

end

end Keyed

/-! ## The laws -/

/-- The order of values is a total preorder on `S`, and what is built on it does
not depend on the order in which the values come: sorted arrays have tied items
in the same places, the least and the greatest values are tied, and a value is
clamped to the same place whichever bound is looked at first. -/
structure OrderLaws (ctx : Context) (offset : Nat) (S : Value → Prop) : Prop where
  swap : ∀ v w, S v → S w → ∀ o, compareValues ctx v w offset = .ok o →
    compareValues ctx w v offset = .ok o.swap
  trans : ∀ u v w, S u → S v → S w → Precedes ctx offset u v → Precedes ctx offset v w →
    Precedes ctx offset u w
  sort : ∀ (call : Caller) (s t : Session) (c d : Nat), (∀ v ∈ (s.items c).toList, S v) →
    (s.items c).toList.Perm (t.items d).toList →
    ∃ vs ws : Array Value,
      Eval.sort ctx call (.array c) none offset s =
        .ok (.array s.cells.size) (s.newCell (.array vs)) ∧
      Eval.sort ctx call (.array d) none offset t =
        .ok (.array t.cells.size) (t.newCell (.array ws)) ∧
      vs.toList.Perm (s.items c).toList ∧ vs.toList.Pairwise (Precedes ctx offset) ∧
      List.Forall₂ (Ties ctx offset) vs.toList ws.toList
  least : ∀ (s t : Session) (args args' items items' : List Value),
    spread args s = .ok items s → spread args' t = .ok items' t → items ≠ [] →
    (∀ v ∈ items, S v) → items.Perm items' →
    ∃ v w, extreme ctx .lt args offset s = .ok v s ∧ extreme ctx .lt args' offset t = .ok w t ∧
      v ∈ items ∧ (∀ u ∈ items, Precedes ctx offset v u) ∧ Ties ctx offset v w
  greatest : ∀ (s t : Session) (args args' items items' : List Value),
    spread args s = .ok items s → spread args' t = .ok items' t → items ≠ [] →
    (∀ v ∈ items, S v) → items.Perm items' →
    ∃ v w, extreme ctx .gt args offset s = .ok v s ∧ extreme ctx .gt args' offset t = .ok w t ∧
      v ∈ items ∧ (∀ u ∈ items, Precedes ctx offset u v) ∧ Ties ctx offset v w
  clamp : ∀ (s : Session) (v low high : Value), S v → S low → S high →
    Precedes ctx offset low high →
    ∃ u, Eval.clamp ctx v low high offset s = .ok u s ∧
      Precedes ctx offset low u ∧ Precedes ctx offset u high ∧
      (∃ x y, extreme ctx .gt [v, low] offset s = .ok x s ∧
        extreme ctx .lt [x, high] offset s = .ok y s ∧ Ties ctx offset u y) ∧
      ∃ x y, extreme ctx .lt [v, high] offset s = .ok x s ∧
        extreme ctx .gt [x, low] offset s = .ok y s ∧ Ties ctx offset u y

namespace Keyed

variable {β : Type} [LinearOrder β] {key : Value → β}

/-- Whatever goes by keys has the laws of an order. -/
theorem orderLaws (h : Keyed ctx offset S key) : OrderLaws ctx offset S where
  swap _ _ hv hw _ ho := h.swap hv hw ho
  trans _ _ _ hu hv hw huv hvw := h.trans hu hv hw huv hvw
  sort call _ _ _ _ hs hperm := h.sort_perm call hs hperm
  least s t args args' items items' hs ht hne hitems hperm := by
    have hitems' : ∀ v ∈ items', S v := fun v hv => hitems v (hperm.mem_iff.2 hv)
    obtain ⟨v, hrun, hv, hle⟩ := h.exists_least hs hne hitems
    obtain ⟨w, hrun', hw, hle'⟩ := h.exists_least ht (fun heq => hne (heq ▸ hperm).eq_nil) hitems'
    refine ⟨v, w, hrun, hrun', hv, fun u hu => ?_, ?_⟩
    · exact (h.precedes_iff (hitems v hv) (hitems u hu)).2 (hle u hu)
    · exact (h.ties_iff (hitems v hv) (hitems' w hw)).2
        (le_antisymm (hle w (hperm.mem_iff.2 hw)) (hle' v (hperm.mem_iff.1 hv)))
  greatest s t args args' items items' hs ht hne hitems hperm := by
    have hitems' : ∀ v ∈ items', S v := fun v hv => hitems v (hperm.mem_iff.2 hv)
    obtain ⟨v, hrun, hv, hle⟩ := h.exists_greatest hs hne hitems
    obtain ⟨w, hrun', hw, hle'⟩ :=
      h.exists_greatest ht (fun heq => hne (heq ▸ hperm).eq_nil) hitems'
    refine ⟨v, w, hrun, hrun', hv, fun u hu => ?_, ?_⟩
    · exact (h.precedes_iff (hitems u hu) (hitems v hv)).2 (hle u hu)
    · exact (h.ties_iff (hitems v hv) (hitems' w hw)).2
        (le_antisymm (hle' v (hperm.mem_iff.1 hv)) (hle w (hperm.mem_iff.2 hw)))
  clamp s v low high hv hlow hhigh hbounds := by
    have hle := (h.precedes_iff hlow hhigh).1 hbounds
    obtain ⟨u, hrun, hu, hkey⟩ := h.exists_clamp hv hlow hhigh hle s
    obtain ⟨x, hx, hxS, hxkey⟩ := h.exists_max hv hlow s
    obtain ⟨y, hy, hyS, hykey⟩ := h.exists_min hxS hhigh s
    obtain ⟨x', hx', hxS', hxkey'⟩ := h.exists_min hv hhigh s
    obtain ⟨y', hy', hyS', hykey'⟩ := h.exists_max hxS' hlow s
    refine ⟨u, hrun, ?_, ?_, ⟨x, y, hx, hy, ?_⟩, ⟨x', y', hx', hy', ?_⟩⟩
    · exact (h.precedes_iff hlow hu).2 (hkey ▸ le_max_left _ _)
    · exact (h.precedes_iff hu hhigh).2 (hkey ▸ max_le hle (min_le_right _ _))
    · rw [h.ties_iff hu hyS, hkey, hykey, hxkey, max_comm (key v), max_min_distrib_left,
        max_eq_right hle]
    · rw [h.ties_iff hu hyS', hkey, hykey', hxkey', max_comm]

end Keyed

/-- Values that compare have the laws of an order. -/
theorem orderLaws_of_comparable (hrates : ctx.rates.Nonnegative)
    (h : Comparable ctx offset S) : OrderLaws ctx offset S := by
  obtain ⟨β, order, key, hkeyed⟩ := h.exists_keyed hrates
  exact hkeyed.orderLaws

/-- Quantities that are converted to one another exactly are comparable. -/
theorem comparable_of_convertsExactly {T : Quantity → Prop}
    (h : ∀ p, T p → ∀ q, T q → q.ConvertsExactly p.dims ctx.rates offset) :
    Comparable ctx offset fun v => ∃ q, T q ∧ v = .quantity q where
  succeeds := by
    rintro _ _ ⟨p, hp, rfl⟩ ⟨q, hq, rfl⟩
    obtain ⟨r, hr, -⟩ := h p hp q hq
    exact ⟨_, by rw [compareValues, hr]; rfl⟩
  faithful := by
    rintro _ _ ⟨p, hp, ⟨rfl⟩⟩ ⟨q, hq, ⟨rfl⟩⟩
    exact (Quantity.convertsExactly_iff.1 (h _ hp _ hq)).2
  sameScale := by
    rintro x _ _ ⟨_, _, hx⟩
    cases hx

theorem orderLaws_of_comparable_lengths :
    let ctx := Context.ofClock ⟨0, 0⟩ (.fixed 0)
    let lengths : List Quantity := [.ofUnit .one .length "km", .ofUnit (.ofNat 800) .length "m",
      .ofUnit (.ofNat 90000) .length "cm"]
    let S := fun v => ∃ q ∈ lengths, v = .quantity q
    ctx.rates.Nonnegative ∧ Comparable ctx 0 S ∧ OrderLaws ctx 0 S := by
  intro ctx lengths S
  have hrates : ctx.rates.Nonnegative := fun _ _ h => by cases h
  have hcomparable : Comparable ctx 0 S := comparable_of_convertsExactly (by decide +kernel)
  exact ⟨hrates, hcomparable, orderLaws_of_comparable hrates hcomparable⟩

/-- A plain number is compared with the number of units, whatever they are, so it
may stand between a quantity and a smaller one; a seventh of a week is rounded
up, so a week is less than seven of them from one side only; and with a negative
rate either of two amounts exceeds the other one. -/
theorem compareValues_cycle :
    let ctx := Context.ofClock ⟨0, 0⟩ (.fixed 0)
    let km := Value.quantity (.ofUnit .one .length "km")
    let n := Value.number (.ofNat 500)
    let m := Value.quantity (.ofUnit (.ofNat 600) .length "m")
    let week := Value.quantity (.ofUnit .one .time "week")
    let days := Value.quantity (.ofUnit (.ofNat 7) .time "days")
    let debt := { ctx with rates := (RateTable.empty.insert "USD" (.ofInt (-1))).insert "EUR" .one }
    let usd := Value.quantity (.ofUnit .one .currency "USD")
    let eur := Value.quantity (.ofUnit .one .currency "EUR")
    (∀ v ∈ [km, n, m], ∀ w ∈ [km, n, m], ∃ o, compareValues ctx v w 0 = .ok o) ∧
      compareValues ctx km n 0 = .ok .lt ∧ compareValues ctx n m 0 = .ok .lt ∧
      compareValues ctx km m 0 = .ok .gt ∧
      compareValues ctx week days 0 = .ok .lt ∧ compareValues ctx days week 0 = .ok .eq ∧
      compareValues debt usd eur 0 = .ok .gt ∧ compareValues debt eur usd 0 = .ok .gt := by
  dsimp only
  refine ⟨?_, by decide +kernel⟩
  intro v hv w hw
  simp only [List.mem_cons, List.not_mem_nil, or_false] at hv hw
  rcases hv with rfl | rfl | rfl <;> rcases hw with rfl | rfl | rfl <;> exact ⟨_, rfl⟩

end Eval

end Reckoner
