import Mathlib.Data.List.Forall2
import Reckoner.Eval.Compare
import Reckoner.Proofs.Quantity.Invariant
import Reckoner.Proofs.Quantity.Standing
import Reckoner.Proofs.Value.Entries

/-!
# Laws of equality

Equality by content is an equivalence, at every depth of nesting
(`Session.equivalence_sameTo`).  The equality that `==` tests differs from it
in one case, that of two quantities with compatible units: the right one is
converted first.  Unless it is rounded there, the two are equal if they stand at
the same place (`Eval.equals_quantity_iff`), and that is an equivalence again.
`Eval.comparison_equal_laws` is the statement for `==`.

A conversion that is rounded can make quantities equal from one side only.
-/

namespace Reckoner

/-! ## Equality by content -/

namespace Value

/-- All that equality sees of a value that is no array and no object. -/
inductive Face where
  | number (x : ℚ)
  | quantity (x : ℚ) (dims : Dimensions)
  | string (t : String)
  | markdown (t : String)
  | bool (b : Bool)
  | null
  | date (i : Instant)
  | closure (identity : Nat)
  | builtin (identity : Nat)
  | applied (identity : Nat)

/-- What equality sees of a value at once. -/
def face? : Value → Option Face
  | number x => some (.number x.toRat)
  | quantity q => some (.quantity q.magnitude.toRat q.dims)
  | string t => some (.string t)
  | markdown t => some (.markdown t)
  | bool b => some (.bool b)
  | null => some .null
  | date d => some (.date d.instant)
  | closure i _ => some (.closure i)
  | builtin i _ => some (.builtin i)
  | applied i _ _ => some (.applied i)
  | array _ | object _ => none

end Value

theorem Quantity.sameValue_iff {p q : Quantity} :
    p.sameValue q = true ↔ p.magnitude.toRat = q.magnitude.toRat ∧ p.dims = q.dims := by
  rw [sameValue, Bool.and_eq_true, Decimal.sameValue_iff, decide_eq_true_iff]

/-- As many entries, and the same keys with related values. -/
structure Entries.Matches {α : Type} (R : α → α → Prop) (es fs : Entries α) : Prop where
  length_eq : es.length = fs.length
  found {key : String} {v : α} (h : es.find? key = some v) : ∃ w, fs.find? key = some w ∧ R v w

namespace Entries.Matches

variable {α : Type} {R : α → α → Prop} {es fs gs : Entries α}

theorem keys_subset (hes : es.keys.Nodup) (h : Matches R es fs) : es.keys ⊆ fs.keys := by
  intro key hkey
  obtain ⟨⟨k, v⟩, hmem, rfl⟩ := List.mem_map.1 hkey
  obtain ⟨w, hw, -⟩ := h.found (find?_of_mem hes hmem)
  exact mem_keys_of_find? hw

/-- There are as many keys on either side, so none is left over. -/
theorem symm (hR : ∀ v w, R v w → R w v) (hes : es.keys.Nodup) (h : Matches R es fs) :
    Matches R fs es := by
  refine ⟨h.length_eq.symm, fun {key w} hw => ?_⟩
  have hperm : es.keys.Perm fs.keys :=
    (List.subperm_of_subset hes (h.keys_subset hes)).perm_of_length_le (by simp [keys, h.length_eq])
  obtain ⟨⟨k, v⟩, hmem, rfl⟩ := List.mem_map.1 (hperm.mem_iff.2 (mem_keys_of_find? hw))
  have hv := find?_of_mem hes hmem
  obtain ⟨w', hw', hvw⟩ := h.found hv
  cases hw.symm.trans hw'
  exact ⟨v, hv, hR v w hvw⟩

theorem trans (hR : ∀ u v w, R u v → R v w → R u w) (h : Matches R es fs) (h' : Matches R fs gs) :
    Matches R es gs := by
  refine ⟨h.length_eq.trans h'.length_eq, fun {key u} hu => ?_⟩
  obtain ⟨v, hv, huv⟩ := h.found hu
  obtain ⟨w, hw, hvw⟩ := h'.found hv
  exact ⟨w, hw, hR u v w huv hvw⟩

end Entries.Matches

namespace Session

/-- No object has a key twice. -/
def KeysDistinct (s : Session) : Prop := ∀ c, (s.entries c).keys.Nodup

variable {s : Session} {n : Nat} {v w : Value}

/-- Of a value that is no array and no object equality sees the face alone. -/
theorem sameTo_iff_face?_eq (h : v.face?.isSome = true) :
    s.sameTo n v w = true ↔ v.face? = w.face? := by
  cases v with
  | array c | object c => cases h
  | _ =>
    cases w <;> cases n <;>
      simp [sameTo, Value.face?, Decimal.sameValue_iff, Quantity.sameValue_iff, Date.sameInstant]

theorem sameTo_array_iff {c : Nat} :
    s.sameTo n (.array c) w = true ↔
      ∃ d, w = .array d ∧ (c = d ∨ ∃ m, n = m + 1 ∧
        List.Forall₂ (fun v w => s.sameTo m v w = true) (s.items c).toList (s.items d).toList) := by
  cases w with
  | array d =>
    cases n with
    | zero => simp [sameTo]
    | succ n =>
      simp [sameTo, List.forall₂_iff_zip]
  | _ => cases n <;> simp [sameTo]

/-- The values of the left object stand on the right of each comparison. -/
theorem sameTo_object_iff (hs : s.KeysDistinct) {c : Nat} :
    s.sameTo n (.object c) w = true ↔
      ∃ d, w = .object d ∧ (c = d ∨ ∃ m, n = m + 1 ∧
        Entries.Matches (fun v w => s.sameTo m w v = true) (s.entries c) (s.entries d)) := by
  cases w with
  | object d =>
    cases n with
    | zero => simp [sameTo]
    | succ n =>
      simp only [sameTo, Bool.or_eq_true, Bool.and_eq_true, beq_iff_eq, List.all_eq_true]
      constructor
      · rintro (rfl | ⟨hlength, hall⟩)
        · exact ⟨c, rfl, .inl rfl⟩
        · refine ⟨d, rfl, .inr ⟨n, rfl, hlength, fun hv => ?_⟩⟩
          have hfound := hall _ (Entries.mem_of_find? hv)
          dsimp only at hfound
          split at hfound
          · exact ⟨_, ‹_›, hfound⟩
          · cases hfound
      · rintro ⟨_, ⟨rfl⟩, rfl | ⟨_, ⟨rfl⟩, h⟩⟩
        · exact .inl rfl
        · refine .inr ⟨h.length_eq, fun e he => ?_⟩
          obtain ⟨w, hw, hsame⟩ := h.found (Entries.find?_of_mem (hs c) he)
          rw [hw]
          exact hsame
  | _ => cases n <;> simp [sameTo]

theorem sameTo_refl (s : Session) (n : Nat) (v : Value) : s.sameTo n v v = true := by
  cases v with
  | array c => exact sameTo_array_iff.2 ⟨c, rfl, .inl rfl⟩
  | object c => cases n <;> simp [sameTo]
  | _ => exact (sameTo_iff_face?_eq rfl).2 rfl

theorem forall₂_trans {α : Type} {R : α → α → Prop} (hR : Equivalence R) {xs ys zs : List α}
    (h : List.Forall₂ R xs ys) (h' : List.Forall₂ R ys zs) : List.Forall₂ R xs zs := by
  induction h generalizing zs with
  | nil => exact h'
  | cons hxy _ ih =>
    cases h' with
    | cons hyz h' => exact .cons (hR.trans hxy hyz) (ih h')

/-- Equality by content is an equivalence at every depth.  The items of arrays
and the values of objects are compared at a smaller one. -/
theorem equivalence_sameTo (hs : s.KeysDistinct) (n : Nat) :
    Equivalence fun v w => s.sameTo n v w = true := by
  induction n using Nat.strongRecOn with
  | ind n ih =>
    refine ⟨s.sameTo_refl n, fun {v w} h => ?_, fun {u v w} huv hvw => ?_⟩
    · cases v with
      | array c =>
        obtain ⟨d, rfl, hcd⟩ := sameTo_array_iff.1 h
        refine sameTo_array_iff.2 ⟨c, rfl, hcd.imp Eq.symm ?_⟩
        rintro ⟨m, rfl, hall⟩
        exact ⟨m, rfl, hall.flip.imp fun _ _ => (ih m m.lt_succ_self).symm⟩
      | object c =>
        obtain ⟨d, rfl, hcd⟩ := (sameTo_object_iff hs).1 h
        refine (sameTo_object_iff hs).2 ⟨c, rfl, hcd.imp Eq.symm ?_⟩
        rintro ⟨m, rfl, hmatches⟩
        exact ⟨m, rfl, hmatches.symm (fun _ _ => (ih m m.lt_succ_self).symm) (hs c)⟩
      | _ =>
        have hface := (sameTo_iff_face?_eq rfl).1 h
        exact (sameTo_iff_face?_eq (hface ▸ rfl)).2 hface.symm
    · cases u with
      | array c =>
        obtain ⟨d, rfl, hcd⟩ := sameTo_array_iff.1 huv
        obtain ⟨e, rfl, hde⟩ := sameTo_array_iff.1 hvw
        rcases hcd with rfl | ⟨m, rfl, hcd⟩
        · exact hvw
        rcases hde with rfl | ⟨_, ⟨rfl⟩, hde⟩
        · exact huv
        have hcontent := ih m m.lt_succ_self
        exact sameTo_array_iff.2 ⟨e, rfl, .inr ⟨m, rfl, forall₂_trans hcontent hcd hde⟩⟩
      | object c =>
        obtain ⟨d, rfl, hcd⟩ := (sameTo_object_iff hs).1 huv
        obtain ⟨e, rfl, hde⟩ := (sameTo_object_iff hs).1 hvw
        rcases hcd with rfl | ⟨m, rfl, hcd⟩
        · exact hvw
        rcases hde with rfl | ⟨_, ⟨rfl⟩, hde⟩
        · exact huv
        exact (sameTo_object_iff hs).2 ⟨e, rfl, .inr ⟨m, rfl,
          hcd.trans (fun _ _ _ h h' => (ih m m.lt_succ_self).trans h' h) hde⟩⟩
      | _ =>
        have hface := (sameTo_iff_face?_eq rfl).1 huv
        have hface' := (sameTo_iff_face?_eq (hface ▸ rfl)).1 hvw
        exact (sameTo_iff_face?_eq rfl).2 (hface.trans hface')

end Session

/-! ## The equality of values -/

namespace Value

/-- Quantities with compatible units. -/
def Commensurable (v w : Value) : Prop :=
  ∃ p q, v = quantity p ∧ w = quantity q ∧ p.dims.compatible q.dims = true

/-- The conversion for the comparison of two values is exact, if there is any. -/
def MeetsExactly (v w : Value) (rates : RateTable) (offset : Nat) : Prop :=
  ∀ p q, v = quantity p → w = quantity q → p.dims.compatible q.dims = true →
    q.ConvertsExactly p.dims rates offset

/-- No conversion between two values is rounded, and where they stand at the
same place both conversions succeed or none does. -/
def Interchangeable (v w : Value) (rates : RateTable) (offset : Nat) : Prop :=
  ∀ p q, v = quantity p → w = quantity q → p.dims.compatible q.dims = true →
    p.Faithful q.dims rates offset ∧ q.Faithful p.dims rates offset ∧
      (p.standing rates = q.standing rates →
        (p.Converts q.dims rates offset ↔ q.Converts p.dims rates offset))

/-- A reading of a temperature is converted to its own unit exactly. -/
def ReadsExactly (v : Value) (rates : RateTable) (offset : Nat) : Prop :=
  ∀ q, v = quantity q → q.dims.reading?.isSome = true → q.ConvertsExactly q.dims rates offset

section

variable {v w : Value} {p q : Quantity} {rates : RateTable} {offset : Nat}

theorem meetsExactly_quantity (h : q.ConvertsExactly p.dims rates offset) :
    (quantity p).MeetsExactly (quantity q) rates offset := by
  rintro _ _ ⟨rfl⟩ ⟨rfl⟩ -
  exact h

theorem interchangeable_quantity (hp : p.ConvertsExactly q.dims rates offset)
    (hq : q.ConvertsExactly p.dims rates offset) :
    (quantity p).Interchangeable (quantity q) rates offset := by
  rintro _ _ ⟨rfl⟩ ⟨rfl⟩ -
  obtain ⟨hp, hpf⟩ := Quantity.convertsExactly_iff.1 hp
  obtain ⟨hq, hqf⟩ := Quantity.convertsExactly_iff.1 hq
  exact ⟨hpf, hqf, fun _ => iff_of_true hp hq⟩

theorem readsExactly_quantity (h : q.ConvertsExactly q.dims rates offset) :
    (quantity q).ReadsExactly rates offset := by
  rintro _ ⟨rfl⟩ -
  exact h

theorem Commensurable.symm (hv : v.WellFormed) (h : v.Commensurable w) : w.Commensurable v := by
  obtain ⟨p, q, rfl, rfl, hpq⟩ := h
  exact ⟨q, p, rfl, rfl, (wellFormed_quantity.1 hv).dims.compatible_symm hpq⟩

/-- A quantity has the same content as commensurable ones only. -/
theorem commensurable_of_same {s : Session} {q : Quantity} (hq : (quantity q).WellFormed)
    (h : s.same (quantity q) w = true) : (quantity q).Commensurable w := by
  have hface : (quantity q).face? = w.face? := (Session.sameTo_iff_face?_eq rfl).1 h
  cases w with
  | quantity r =>
    obtain ⟨-, hdims⟩ := Face.quantity.inj (Option.some.inj hface)
    exact ⟨q, r, rfl, rfl, hdims ▸ (wellFormed_quantity.1 hq).dims.compatible_self⟩
  | array c | object c => cases hface
  | _ => cases Option.some.inj hface

end

end Value

namespace Eval

variable {ctx : Context} {s : Session} {offset : Nat} {a b c : Value} {p q : Quantity}

theorem comparison_equal_iff {t : Bool} :
    comparison ctx .equal a b offset s = .ok (.bool t) s ↔ equals ctx s a b offset = t := by
  have hrun : comparison ctx .equal a b offset s = .ok (.bool (equals ctx s a b offset)) s := rfl
  rw [hrun]
  constructor
  · intro h
    cases h
    rfl
  · rintro rfl
    rfl

/-- Unless compatible units meet, equality goes by content. -/
theorem equals_eq_same (h : ¬a.Commensurable b) : equals ctx s a b offset = s.same a b := by
  unfold equals
  split
  · exact if_neg fun hcompatible => h ⟨_, _, rfl, rfl, hcompatible⟩
  · rfl

/-- Quantities are equal if the right one can be converted and the two stand at
the same place. -/
theorem equals_quantity_iff (hcompatible : p.dims.compatible q.dims = true)
    (h : q.Faithful p.dims ctx.rates offset) :
    equals ctx s (.quantity p) (.quantity q) offset = true ↔
      q.Converts p.dims ctx.rates offset ∧ p.standing ctx.rates = q.standing ctx.rates := by
  rw [equals, if_pos hcompatible]
  cases hr : q.convertTo p.dims ctx.rates offset with
  | error e =>
    refine iff_of_false Bool.false_ne_true ?_
    rintro ⟨⟨r, hr'⟩, -⟩
    cases hr.symm.trans hr'
  | ok r =>
    rw [← h r hr, ← Quantity.toRat_eq_iff_standing (Quantity.dims_convertTo hr).symm,
      and_iff_right ⟨r, hr⟩]
    exact Decimal.sameValue_iff.trans eq_comm

theorem equals_of_exact (hcompatible : p.dims.compatible q.dims = true)
    (h : q.ConvertsExactly p.dims ctx.rates offset) :
    equals ctx s (.quantity p) (.quantity q) offset = true ↔
      p.standing ctx.rates = q.standing ctx.rates := by
  obtain ⟨hconverts, hfaithful⟩ := Quantity.convertsExactly_iff.1 h
  rw [equals_quantity_iff hcompatible hfaithful, and_iff_right hconverts]

theorem equals_refl (ha : a.WellFormed) (h : a.ReadsExactly ctx.rates offset) :
    equals ctx s a a offset = true := by
  by_cases hmeet : a.Commensurable a
  · obtain ⟨q, -, rfl, -, -⟩ := hmeet
    have hq := Value.wellFormed_quantity.1 ha
    have hexact : q.ConvertsExactly q.dims ctx.rates offset := by
      cases hreading : q.dims.reading? with
      | none => exact Quantity.convertsExactly_self hq hreading
      | some u => exact h q rfl (by rw [hreading]; rfl)
    exact (equals_of_exact hq.dims.compatible_self hexact).2 rfl
  · exact (equals_eq_same hmeet).trans (s.sameTo_refl _ a)

theorem equals_symm (hs : s.KeysDistinct) (ha : a.WellFormed) (hb : b.WellFormed)
    (h : a.Interchangeable b ctx.rates offset) :
    equals ctx s a b offset = equals ctx s b a offset := by
  by_cases hmeet : a.Commensurable b
  · obtain ⟨p, q, rfl, rfl, hpq⟩ := hmeet
    have hqp := (Value.wellFormed_quantity.1 ha).dims.compatible_symm hpq
    obtain ⟨hp, hq, htogether⟩ := h p q rfl rfl hpq
    rw [Bool.eq_iff_iff, equals_quantity_iff hpq hq, equals_quantity_iff hqp hp,
      eq_comm (a := q.standing ctx.rates)]
    exact and_congr_left fun hstanding => (htogether hstanding).symm
  · have hequivalence := Session.equivalence_sameTo hs s.nesting
    rw [equals_eq_same hmeet, equals_eq_same fun h => hmeet (h.symm hb), Bool.eq_iff_iff]
    exact ⟨hequivalence.symm, hequivalence.symm⟩

/-- Where the units of two of the three values are compatible, so are those of
the third. -/
theorem equals_trans (hs : s.KeysDistinct) (ha : a.WellFormed) (hb : b.WellFormed)
    (hab : a.MeetsExactly b ctx.rates offset) (hbc : b.MeetsExactly c ctx.rates offset)
    (hac : a.MeetsExactly c ctx.rates offset) (h : equals ctx s a b offset = true)
    (h' : equals ctx s b c offset = true) : equals ctx s a c offset = true := by
  have hequivalence := Session.equivalence_sameTo hs s.nesting
  by_cases hmeet : a.Commensurable b
  · obtain ⟨p, q, rfl, rfl, hpq⟩ := hmeet
    have hmeet' : (Value.quantity q).Commensurable c := by
      by_contra hnot
      exact hnot (Value.commensurable_of_same hb ((equals_eq_same hnot).symm.trans h'))
    obtain ⟨_, r, ⟨rfl⟩, rfl, hqr⟩ := hmeet'
    have hpr := Dimensions.compatible_trans hpq hqr
    rw [equals_of_exact hpq (hab p q rfl rfl hpq)] at h
    rw [equals_of_exact hqr (hbc q r rfl rfl hqr)] at h'
    exact (equals_of_exact hpr (hac p r rfl rfl hpr)).2 (h.trans h')
  · rw [equals_eq_same hmeet] at h
    have hmeet' : ¬b.Commensurable c := by
      rintro ⟨q, r, rfl, rfl, -⟩
      exact hmeet ((Value.commensurable_of_same hb (hequivalence.symm h)).symm hb)
    have hmeet'' : ¬a.Commensurable c := by
      rintro ⟨p, r, rfl, rfl, -⟩
      exact hmeet (Value.commensurable_of_same ha h)
    rw [equals_eq_same hmeet'] at h'
    exact (equals_eq_same hmeet'').trans (hequivalence.trans h h')

/-- The laws of `==`, where no conversion is rounded: a value equals itself, a
reading of a temperature if it is converted to its own unit exactly; the order
of the operands is of no account; and what equals the same value is equal. -/
theorem comparison_equal_laws (ctx : Context) (offset : Nat) (c : Value) (hs : s.KeysDistinct)
    (ha : a.WellFormed) (hb : b.WellFormed) :
    (a.ReadsExactly ctx.rates offset →
      comparison ctx .equal a a offset s = .ok (.bool true) s) ∧
    (a.Interchangeable b ctx.rates offset →
      ∃ t, comparison ctx .equal a b offset s = .ok (.bool t) s ∧
        comparison ctx .equal b a offset s = .ok (.bool t) s) ∧
    (a.MeetsExactly b ctx.rates offset → b.MeetsExactly c ctx.rates offset →
      a.MeetsExactly c ctx.rates offset → comparison ctx .equal a b offset s = .ok (.bool true) s →
      comparison ctx .equal b c offset s = .ok (.bool true) s →
      comparison ctx .equal a c offset s = .ok (.bool true) s) := by
  simp only [comparison_equal_iff]
  refine ⟨equals_refl ha, fun h => ?_, equals_trans hs ha hb⟩
  exact ⟨_, rfl, (equals_symm hs ha hb h).symm⟩

theorem comparison_equal_laws_temperatures :
    let ctx := Context.ofClock ⟨0, 0⟩ (.fixed 0)
    let a := Value.quantity (.ofUnit (.ofNat 10) .temperature "celsius")
    let b := Value.quantity (.ofUnit (.ofNat 50) .temperature "fahrenheit")
    let c := Value.quantity (.ofUnit (.ofScaled 28315 2) .temperature "kelvin")
    Session.empty.KeysDistinct ∧ a.WellFormed ∧ b.WellFormed ∧
      comparison ctx .equal a a 0 .empty = .ok (.bool true) .empty ∧
      (∃ t, comparison ctx .equal a b 0 .empty = .ok (.bool t) .empty ∧
        comparison ctx .equal b a 0 .empty = .ok (.bool t) .empty) ∧
      comparison ctx .equal a c 0 .empty = .ok (.bool true) .empty := by
  intro ctx a b c
  have hkeys : Session.empty.KeysDistinct := fun _ => List.nodup_nil
  have ha : a.WellFormed := Value.wellFormed_quantity.2 (by decide)
  have hb : b.WellFormed := Value.wellFormed_quantity.2 (by decide)
  obtain ⟨hrefl, hsymm, htrans⟩ := comparison_equal_laws ctx 0 c hkeys ha hb
  refine ⟨hkeys, ha, hb, hrefl ?_, hsymm ?_, htrans ?_ ?_ ?_ ?_ ?_⟩
  · exact Value.readsExactly_quantity (by decide +kernel)
  · exact Value.interchangeable_quantity (by decide +kernel) (by decide +kernel)
  · exact Value.meetsExactly_quantity (by decide +kernel)
  · exact Value.meetsExactly_quantity (by decide +kernel)
  · exact Value.meetsExactly_quantity (by decide +kernel)
  · exact comparison_equal_iff.2 (by decide)
  · exact comparison_equal_iff.2 (by decide +kernel)

/-- A seventh of a week is rounded up, so seven of them are more than a week and
a little less than seven are one.  A reading in degrees Fahrenheit does not equal
itself if the way by kelvin is rounded. -/
theorem equality_of_rounded :
    let ctx := Context.ofClock ⟨0, 0⟩ (.fixed 0)
    let week := Value.quantity (.ofUnit .one .time "week")
    let days := Value.quantity (.ofUnit (.ofNat 7) .time "days")
    let fewer := Value.quantity (.ofUnit (.ofScaled 6999999999999999999999999998 27) .time "days")
    let reading := Value.quantity (.ofUnit .one .temperature "fahrenheit")
    comparison ctx .equal days week 0 .empty = .ok (.bool true) .empty ∧
      comparison ctx .equal week days 0 .empty = .ok (.bool false) .empty ∧
      comparison ctx .equal week fewer 0 .empty = .ok (.bool true) .empty ∧
      comparison ctx .equal days fewer 0 .empty = .ok (.bool false) .empty ∧
      comparison ctx .equal reading reading 0 .empty = .ok (.bool false) .empty := by
  simp only [comparison_equal_iff]
  decide +kernel

end Eval

end Reckoner
