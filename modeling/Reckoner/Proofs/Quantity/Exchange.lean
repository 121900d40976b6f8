import Reckoner.Proofs.Quantity.Causes
import Reckoner.Proofs.Quantity.Exponents
import Reckoner.Proofs.Quantity.Standing
import Reckoner.Proofs.Token.Spelling

/-!
# Rates of exchange

A currency has a size in the common base if there is a rate for it that is not zero
(`RateTable.Usable`).  The factor between two currencies asks for both rates, but only the rate of
the first one must not be zero; where the second one is zero, the factor is zero and the amount is
lost (`RateTable.Loses`).

* `Exchange` is what the factor between two currencies comes to, and `ratio_exchange` that it is
  always one of these.  What sizes and factors lack is `lacksRate_baseFactor_iff` and
  `lacksRate_ratio_iff`.
* `exists_convertTo_inCurrency`: a conversion that changes the currency only is that factor, to the
  currency's power.
* `convertTo_of_kept`: a conversion that keeps the currency never looks at the rates.
* `exchange_lacks_rate_iff` puts these together.
-/

namespace Reckoner

/-- Whether a cause is a rate that is missing or zero. -/
def Cause.isRate : Cause → Bool
  | .missingRate _ | .domain (.zeroRate _) => true
  | _ => false

/-- Whether a cause is a result without room. -/
def Cause.isOverflow : Cause → Bool
  | .domain .overflow => true
  | _ => false

theorem Cause.isRate_eq_false {cause : Cause} (h : cause.isOverflow = true) :
    cause.isRate = false := by
  unfold isOverflow at h
  split at h
  · rfl
  · cases h

/-- A computation fails because a rate is missing or zero. -/
def LacksRate {α : Type} (c : Checked α) : Prop := ∃ e, c = .error e ∧ e.cause.isRate = true

namespace RateTable

/-- There is a rate for a code, and it is not zero. -/
def Usable (rates : RateTable) (code : String) : Prop :=
  ∃ rate, rates.rate? code = some rate ∧ rate.isZero = false

/-- There is a rate for a code, but it is zero. -/
def Worthless (rates : RateTable) (code : String) : Prop :=
  ∃ rate, rates.rate? code = some rate ∧ rate.isZero = true

/-- An exchange of `a` for `b` loses the amount: there is a usable rate for `a`, and that for `b` is
zero. -/
def Loses (rates : RateTable) (a b : String) : Prop := rates.Usable a ∧ rates.Worthless b

variable {rates : RateTable} {code : String}

theorem Usable.rate?_ne_none (h : rates.Usable code) : rates.rate? code ≠ none := by
  obtain ⟨rate, hrate, -⟩ := h
  rw [hrate]
  nofun

theorem Usable.not_worthless (h : rates.Usable code) : ¬rates.Worthless code := by
  rintro ⟨rate, hrate, hzero⟩
  obtain ⟨rate', hrate', hnonzero⟩ := h
  rw [hrate, Option.some.injEq] at hrate'
  rw [hrate', hnonzero] at hzero
  cases hzero

theorem usable_or_worthless (h : rates.rate? code ≠ none) :
    rates.Usable code ∨ rates.Worthless code := by
  obtain ⟨rate, hrate⟩ := Option.ne_none_iff_exists'.1 h
  cases hzero : rate.isZero with
  | true => exact .inr ⟨rate, hrate, hzero⟩
  | false => exact .inl ⟨rate, hrate, hzero⟩

end RateTable

variable {α β : Type} {rates : RateTable} {a b code : String} {offset : Nat}

/-! ## Computations that lack a rate -/

theorem lacksRate_failAt {cause : Cause} (h : cause.isRate = true) :
    LacksRate (failAt offset cause : Checked α) := ⟨_, rfl, h⟩

theorem FailsBy.not_lacksRate {c : Checked α} (h : FailsBy Cause.isOverflow c) : ¬LacksRate c := by
  rintro ⟨e, he, hrate⟩
  rw [Cause.isRate_eq_false (h e he)] at hrate
  cases hrate

theorem failsBy_overflow (x? : Option Decimal) : FailsBy Cause.isOverflow (orOverflow offset x?) :=
  failsBy_orFail rfl x?

theorem failsBy_power (x : Decimal) (n : Int) :
    FailsBy Cause.isOverflow (Quantity.powFactor x n offset) := by
  rw [Quantity.powFactor]
  split
  · exact failsBy_pure x
  · exact failsBy_overflow _

/-! ## Sizes and factors -/

/-- What the factor between two currencies can come to. -/
inductive Exchange (rates : RateTable) (a b : String) (offset : Nat) : Checked Decimal → Prop where
  | missingSource (ha : rates.rate? a = none) :
    Exchange rates a b offset (failAt offset (.missingRate a))
  | missingTarget {x : Decimal} (ha : rates.rate? a = some x) (hb : rates.rate? b = none) :
    Exchange rates a b offset (failAt offset (.missingRate b))
  | zeroSource {x y : Decimal} (ha : rates.rate? a = some x) (hb : rates.rate? b = some y)
    (hx : x.isZero = true) : Exchange rates a b offset (failAt offset (.domain (.zeroRate a)))
  | divided {x y : Decimal} (ha : rates.rate? a = some x) (hb : rates.rate? b = some y)
    (hx : x.isZero = false) : Exchange rates a b offset (orOverflow offset (y.div? x))

theorem ratio_currency (hab : a ≠ b) :
    ratio (.currency a) (.currency b) rates offset = (do
      let rateA ← rates.rate a offset
      let rateB ← rates.rate b offset
      if rateA.isZero then failAt offset (.domain (.zeroRate a))
      else orOverflow offset (rateB.div? rateA)) := by
  rw [ratio, if_neg (by simpa [Denomination.canonical] using hab)]

theorem rate_of_some {x : Decimal} (h : rates.rate? code = some x) :
    rates.rate code offset = .ok x := by
  rw [RateTable.rate, h]
  rfl

theorem rate_of_none (h : rates.rate? code = none) :
    rates.rate code offset = failAt offset (.missingRate code) := by
  rw [RateTable.rate, h]
  rfl

theorem ratio_exchange (hab : a ≠ b) :
    Exchange rates a b offset (ratio (.currency a) (.currency b) rates offset) := by
  rw [ratio_currency hab]
  cases ha : rates.rate? a with
  | none =>
    rw [rate_of_none ha]
    exact .missingSource ha
  | some x =>
    rw [rate_of_some ha]
    cases hb : rates.rate? b with
    | none =>
      rw [rate_of_none hb]
      exact .missingTarget ha hb
    | some y =>
      rw [rate_of_some hb]
      show Exchange rates a b offset (if x.isZero = true then _ else _)
      split
      · exact .zeroSource ha hb (by assumption)
      · exact .divided ha hb (Bool.eq_false_iff.2 (by assumption))

/-- A size is lacking exactly for a code without a usable rate. -/
theorem lacksRate_baseFactor_iff :
    LacksRate (baseFactor (.currency code) rates offset) ↔ ¬rates.Usable code := by
  show LacksRate (rates.rate code offset >>= fun rate =>
    if rate.isZero then failAt offset (.domain (.zeroRate code))
    else orOverflow offset (Decimal.one.div? rate)) ↔ _
  by_cases hnone : rates.rate? code = none
  · rw [rate_of_none hnone]
    exact iff_of_true ⟨_, rfl, rfl⟩ fun h => h.rate?_ne_none hnone
  · rcases RateTable.usable_or_worthless hnone with husable | hworthless
    · refine iff_of_false ?_ (not_not.2 husable)
      obtain ⟨x, hx, hnonzero⟩ := husable
      rw [rate_of_some hx]
      show ¬LacksRate (if x.isZero = true then _ else _)
      rw [if_neg (by simp [hnonzero])]
      exact (failsBy_overflow _).not_lacksRate
    · refine iff_of_true ?_ fun h => h.not_worthless hworthless
      obtain ⟨x, hx, hzero⟩ := hworthless
      rw [rate_of_some hx]
      show LacksRate (if x.isZero = true then _ else _)
      rw [if_pos hzero]
      exact lacksRate_failAt rfl

/-- A factor is lacking if the first rate is not usable or the second one is missing. -/
theorem lacksRate_ratio_iff (hab : a ≠ b) :
    LacksRate (ratio (.currency a) (.currency b) rates offset) ↔
      ¬rates.Usable a ∨ rates.rate? b = none := by
  have hratio : Exchange rates a b offset (ratio (.currency a) (.currency b) rates offset) :=
    ratio_exchange hab
  generalize ratio (.currency a) (.currency b) rates offset = c at hratio ⊢
  cases hratio with
  | missingSource ha => exact iff_of_true (lacksRate_failAt rfl) (.inl fun h => h.rate?_ne_none ha)
  | missingTarget ha hb => exact iff_of_true (lacksRate_failAt rfl) (.inr hb)
  | zeroSource ha hb hx =>
    exact iff_of_true (lacksRate_failAt rfl) (.inl fun h => h.not_worthless ⟨_, ha, hx⟩)
  | divided ha hb hx =>
    refine iff_of_false (failsBy_overflow _).not_lacksRate ?_
    rintro (hunusable | hnone)
    · exact hunusable ⟨_, ha, hx⟩
    · rw [hb] at hnone
      cases hnone

theorem usable_of_ratio_eq_ok (hab : a ≠ b) {r : Decimal}
    (h : ratio (.currency a) (.currency b) rates offset = .ok r) :
    rates.Usable a ∧ (rates.Usable b ∨ rates.Worthless b) := by
  have hlacks : ¬LacksRate (ratio (.currency a) (.currency b) rates offset) := by
    rintro ⟨e, he, -⟩
    rw [h] at he
    cases he
  rw [lacksRate_ratio_iff hab, not_or, not_not] at hlacks
  exact ⟨hlacks.1, RateTable.usable_or_worthless hlacks.2⟩

/-- The second rate is zero, and so is the factor. -/
theorem ratio_of_loses (hab : a ≠ b) (h : rates.Loses a b) :
    ratio (.currency a) (.currency b) rates offset = .ok .zero := by
  obtain ⟨⟨x, hx, hnonzero⟩, y, hy, hzero⟩ := h
  rw [ratio_currency hab, rate_of_some hx, rate_of_some hy]
  show (if x.isZero = true then _ else _) = _
  rw [if_neg (by simp [hnonzero]), Decimal.div?, if_neg (by simp [hnonzero]), if_pos hzero]
  rfl

/-- A factor stands for two usable rates unless the second one is zero. -/
theorem usable_of_ratio_iff (hab : a ≠ b) :
    ((∃ r, ratio (.currency a) (.currency b) rates offset = .ok r) →
      rates.Usable a ∧ rates.Usable b) ↔ ¬rates.Loses a b := by
  constructor
  · intro h hloses
    exact (h ⟨_, ratio_of_loses hab hloses⟩).2.not_worthless hloses.2
  · rintro hloses ⟨r, hr⟩
    obtain ⟨ha, hb⟩ := usable_of_ratio_eq_ok hab hr
    exact ⟨ha, hb.resolve_right fun hworthless => hloses ⟨ha, hworthless⟩⟩

/-- A factor lacks what one of the sizes lacks unless the second rate is zero. -/
theorem lacksRate_ratio_iff_baseFactor (hab : a ≠ b) :
    (LacksRate (ratio (.currency a) (.currency b) rates offset) ↔
      LacksRate (baseFactor (.currency a) rates offset) ∨
        LacksRate (baseFactor (.currency b) rates offset)) ↔ ¬rates.Loses a b := by
  rw [lacksRate_ratio_iff hab, lacksRate_baseFactor_iff, lacksRate_baseFactor_iff]
  constructor
  · rintro h ⟨ha, hb⟩
    rcases h.2 (.inr fun husable => husable.not_worthless hb) with hunusable | hnone
    · exact hunusable ha
    · obtain ⟨y, hy, -⟩ := hb
      rw [hnone] at hy
      cases hy
  · intro hloses
    refine ⟨fun h => h.imp_right fun hnone husable => husable.rate?_ne_none hnone, ?_⟩
    rintro (hunusable | hunusable)
    · exact .inl hunusable
    · by_contra hneither
      rw [not_or, not_not] at hneither
      obtain ⟨ha, hb⟩ := hneither
      rcases RateTable.usable_or_worthless hb with husable | hworthless
      · exact hunusable husable
      · exact hloses ⟨ha, hworthless⟩

/-! ## Changing the currency -/

/-- The same power of another currency; other units stay as they are. -/
def Term.inCurrency (t : Term) (code : String) : Term :=
  if t.category = .currency then { t with unit := code } else t

/-- The same units with another currency. -/
def Dimensions.inCurrency (d : Dimensions) (code : String) : Dimensions :=
  ⟨d.terms.map fun t => t.inCurrency code⟩

/-- An amount in another currency, the currency having the power `n`. -/
def exchanged (rates : RateTable) (a b : String) (n : Int) (x : Decimal) (offset : Nat) :
    Checked Decimal := do
  let factor ← ratio (.currency a) (.currency b) rates offset
  let power ← Quantity.powFactor factor n offset
  orOverflow offset (x.mul? power)

@[simp] theorem Term.inCurrency_category (t : Term) (code : String) :
    (t.inCurrency code).category = t.category := by
  unfold inCurrency
  split <;> rfl

@[simp] theorem Term.inCurrency_exponent (t : Term) (code : String) :
    (t.inCurrency code).exponent = t.exponent := by
  unfold inCurrency
  split <;> rfl

theorem find?_inCurrency (d : Dimensions) (code : String) (c : Category) :
    (d.inCurrency code).find? c = (d.find? c).map fun t => t.inCurrency code := by
  rw [Dimensions.find?, Dimensions.inCurrency, List.find?_map, Dimensions.find?]
  simp only [Function.comp_def, Term.inCurrency_category]

theorem failsBy_exchanged_ok {factor : Decimal}
    (h : ratio (.currency a) (.currency b) rates offset = .ok factor) (n : Int) (x : Decimal) :
    FailsBy Cause.isOverflow (exchanged rates a b n x offset) := by
  rw [exchanged, h]
  exact (failsBy_power factor n).bind fun power => failsBy_overflow _

/-- Only a factor that is lacking makes an exchange lack a rate. -/
theorem exchanged_eq_failAt_iff {n : Int} {x : Decimal} {cause : Cause} (h : cause.isRate = true) :
    exchanged rates a b n x offset = failAt offset cause ↔
      ratio (.currency a) (.currency b) rates offset = failAt offset cause := by
  cases hratio : ratio (.currency a) (.currency b) rates offset with
  | error e =>
    rw [exchanged, hratio]
    exact ⟨fun heq => by cases heq; rfl, fun heq => by cases heq; rfl⟩
  | ok factor =>
    refine iff_of_false (fun heq => ?_) nofun
    exact (failsBy_exchanged_ok hratio n x).not_lacksRate ⟨_, heq, h⟩

/-- An exchange into a currency without worth leaves nothing, or has no result where the currency
is divided by. -/
theorem exchanged_of_loses (hab : a ≠ b) (h : rates.Loses a b) {n : Int} (hn : n ≠ 0)
    (x : Decimal) : exchanged rates a b n x offset =
      if n < 0 then failAt offset (.domain .overflow) else .ok .zero := by
  have hpower : Quantity.powFactor .zero n offset =
      if n < 0 then failAt offset (.domain .overflow) else .ok .zero := by
    unfold Quantity.powFactor
    rw [Decimal.powInt?_of_isZero rfl hn]
    by_cases hone : n = 1
    · rw [if_pos hone, if_neg (by omega)]
      rfl
    · rw [if_neg hone]
      split <;> rfl
  have hproduct : x.mul? .zero = some .zero := by
    rw [Decimal.mul?, if_pos (by simp [show Decimal.zero.isZero = true from rfl])]
  rw [exchanged, ratio_of_loses hab h]
  show Quantity.powFactor .zero n offset >>= _ = _
  rw [hpower]
  split
  · rfl
  · show orOverflow offset (x.mul? .zero) = _
    rw [hproduct]
    rfl

section

variable {q : Quantity}

theorem compatible_inCurrency (hq : q.dims.WellFormed) (code : String) :
    q.dims.compatible (q.dims.inCurrency code) = true := by
  refine Dimensions.compatible_iff.2 ⟨List.length_map _ |>.symm, fun t ht => ?_⟩
  exact ⟨t.inCurrency code, by rw [find?_inCurrency, hq.find?_of_mem ht, Option.map_some],
    t.inCurrency_exponent code⟩

/-- A currency is no temperature. -/
theorem temperaturePair?_of_currency {d target : Dimensions} {t : Term} (ht : t ∈ d.terms)
    (hc : t.category = .currency) : Quantity.temperaturePair? d target = none := by
  obtain ⟨terms⟩ := d
  unfold Quantity.temperaturePair? Dimensions.single?
  match terms, ht with
  | [_], .head _ =>
    dsimp only
    split
    · rename_i heq _
      cases heq
      rw [if_neg (by simp [hc])]
    · rfl
  | _ :: _ :: _, _ => rfl

theorem convertMagnitude_append {target : Dimensions} {x : Decimal} {ts us : List Term} :
    Quantity.convertMagnitude ⟨x, ⟨ts ++ us⟩⟩ target rates offset =
      Quantity.convertMagnitude ⟨x, ⟨ts⟩⟩ target rates offset >>= fun y =>
        Quantity.convertMagnitude ⟨y, ⟨us⟩⟩ target rates offset :=
  List.foldlM_append

/-- A term of the currency comes to an exchange. -/
theorem convertMagnitude_cons_currency {target : Dimensions} {x : Decimal} {t goal : Term}
    {ts : List Term} (hgoal : target.find? t.category = some goal)
    (ha : Denomination.ofName? t.unit = some (.currency a))
    (hb : Denomination.ofName? goal.unit = some (.currency b)) :
    Quantity.convertMagnitude ⟨x, ⟨t :: ts⟩⟩ target rates offset =
      exchanged rates a b t.exponent x offset >>= fun y =>
        Quantity.convertMagnitude ⟨y, ⟨ts⟩⟩ target rates offset := by
  show List.foldlM _ _ _ = _
  rw [List.foldlM_cons, hgoal]
  dsimp only
  rw [ofName_eq_ok ha, ofName_eq_ok hb]
  rfl

theorem convertTo_of_currency {target : Dimensions} {t : Term}
    (hcompatible : q.dims.compatible target = true) (ht : t ∈ q.dims.terms)
    (hc : t.category = .currency) : q.convertTo target rates offset =
      q.convertMagnitude target rates offset >>= fun m =>
        pure { magnitude := m, dims := target } := by
  rw [Quantity.convertTo, if_neg (by simp [hcompatible]), temperaturePair?_of_currency ht hc]

/-- Units that are no currency stay, and their factors are one. -/
theorem exists_convertMagnitude_others (hq : q.dims.WellFormed) {ts : List Term}
    (hts : ∀ u ∈ ts, u ∈ q.dims.terms) (hnone : .currency ∉ ts.map Term.category) (code : String)
    (x : Decimal) :
    ∃ y, Quantity.convertMagnitude ⟨x, ⟨ts⟩⟩ (q.dims.inCurrency code) rates offset = .ok y ∧
      y.toRat = x.toRat := by
  refine Quantity.exists_convertMagnitude_self (fun u hu => ?_)
    (fun u hu => hq.resolves u (hts u hu)) x
  have hne : u.category ≠ .currency := fun h => hnone (h ▸ List.mem_map_of_mem hu)
  rw [find?_inCurrency, hq.find?_of_mem (hts u hu), Option.map_some, Term.inCurrency, if_neg hne]

/-- A conversion that changes the currency only is an exchange: the units in front of the currency
and behind it leave the magnitude as it is. -/
theorem exists_convertTo_inCurrency (hq : q.dims.WellFormed) {t : Term}
    (ht : q.dims.find? .currency = some t) (ha : t.unit = a) (hacode : Currency.isCode a = true)
    (hbcode : Currency.isCode b = true) :
    ∃ y, y.toRat = q.magnitude.toRat ∧
      (∀ e, exchanged rates a b t.exponent y offset = .error e →
        q.convertTo (q.dims.inCurrency b) rates offset = .error e) ∧
      ∀ z, exchanged rates a b t.exponent y offset = .ok z →
        ∃ w, w.toRat = z.toRat ∧ q.convertTo (q.dims.inCurrency b) rates offset =
          .ok { magnitude := w, dims := q.dims.inCurrency b } := by
  obtain ⟨hmem, hc⟩ := Dimensions.mem_find? ht
  obtain ⟨front, back, hterms⟩ := List.append_of_mem hmem
  have hdistinct := hq.distinct
  rw [hterms, List.map_append, List.map_cons, List.nodup_middle, List.nodup_cons,
    List.mem_append, not_or, hc] at hdistinct
  obtain ⟨⟨hfront, hback⟩, -⟩ := hdistinct
  have hgoal : (q.dims.inCurrency b).find? t.category = some (t.inCurrency b) := by
    rw [find?_inCurrency, hc, ht, Option.map_some]
  have hcode : (t.inCurrency b).unit = b := by rw [Term.inCurrency, if_pos hc]
  obtain ⟨y, hy, hyx⟩ : ∃ y, Quantity.convertMagnitude ⟨q.magnitude, ⟨front⟩⟩
      (q.dims.inCurrency b) rates offset = .ok y ∧ y.toRat = q.magnitude.toRat :=
    exists_convertMagnitude_others hq (fun u hu => by simp [hterms, hu]) hfront b q.magnitude
  have hconvert : q.convertTo (q.dims.inCurrency b) rates offset =
      (exchanged rates a b t.exponent y offset >>= fun z =>
        Quantity.convertMagnitude ⟨z, ⟨back⟩⟩ (q.dims.inCurrency b) rates offset) >>= fun m =>
          pure { magnitude := m, dims := q.dims.inCurrency b } := by
    rw [convertTo_of_currency (compatible_inCurrency hq b) hmem hc]
    show Quantity.convertMagnitude ⟨_, ⟨q.dims.terms⟩⟩ _ rates offset >>= _ = _
    rw [hterms, convertMagnitude_append, hy]
    show Quantity.convertMagnitude ⟨y, ⟨t :: back⟩⟩ _ rates offset >>= _ = _
    rw [convertMagnitude_cons_currency hgoal (by rw [ha, Denomination.ofName?_code hacode])
      (by rw [hcode, Denomination.ofName?_code hbcode])]
  refine ⟨y, hyx, fun e he => by rw [hconvert, he]; rfl, fun z hz => ?_⟩
  obtain ⟨w, hw, hwz⟩ : ∃ w, Quantity.convertMagnitude ⟨z, ⟨back⟩⟩
      (q.dims.inCurrency b) rates offset = .ok w ∧ w.toRat = z.toRat :=
    exists_convertMagnitude_others hq (fun u hu => by simp [hterms, hu]) hback b z
  refine ⟨w, hwz, ?_⟩
  rw [hconvert, hz]
  show Quantity.convertMagnitude ⟨z, ⟨back⟩⟩ _ rates offset >>= _ = _
  rw [hw]
  rfl

/-- A conversion from one currency to another lacks the rate that the factor lacks. -/
theorem convertTo_inCurrency_eq_failAt_iff (hq : q.dims.WellFormed) {t : Term}
    (ht : q.dims.find? .currency = some t) (ha : t.unit = a) (hacode : Currency.isCode a = true)
    (hbcode : Currency.isCode b = true) {cause : Cause} (hcause : cause.isRate = true) :
    q.convertTo (q.dims.inCurrency b) rates offset = failAt offset cause ↔
      ratio (.currency a) (.currency b) rates offset = failAt offset cause := by
  obtain ⟨y, -, herror, hok⟩ := exists_convertTo_inCurrency hq ht ha hacode hbcode
  rw [← exchanged_eq_failAt_iff hcause]
  constructor
  · intro h
    cases hrun : exchanged rates a b t.exponent y offset with
    | error e =>
      have heq := (herror e hrun).symm.trans h
      cases heq
      rfl
    | ok z =>
      obtain ⟨w, -, hw⟩ := hok z hrun
      rw [hw] at h
      cases h
  · exact herror _

/-- Amounts of a currency without worth are nothing, and have no result where the currency is
divided by. -/
theorem convertTo_of_loses (hq : q.dims.WellFormed) {t : Term}
    (ht : q.dims.find? .currency = some t) (ha : t.unit = a) (hacode : Currency.isCode a = true)
    (hbcode : Currency.isCode b = true) (hab : a ≠ b) (hloses : rates.Loses a b) :
    (0 < t.exponent → ∃ r, q.convertTo (q.dims.inCurrency b) rates offset = .ok r ∧
      r.magnitude.toRat = 0) ∧
    (t.exponent < 0 →
      q.convertTo (q.dims.inCurrency b) rates offset = failAt offset (.domain .overflow)) := by
  obtain ⟨y, -, herror, hok⟩ := exists_convertTo_inCurrency hq ht ha hacode hbcode
  rw [exchanged_of_loses hab hloses (hq.nonzero t (Dimensions.mem_find? ht).1)] at herror hok
  constructor
  · intro hpositive
    obtain ⟨w, hw, hconvert⟩ := hok .zero (if_neg hpositive.not_gt)
    exact ⟨_, hconvert, hw.trans ((Decimal.toRat_eq_zero_iff .zero).2 rfl)⟩
  · intro hnegative
    exact herror _ (if_pos hnegative)

end

/-! ## Keeping the currency -/

/-- The same denomination, or two units of measure. -/
inductive Kept : Denomination → Denomination → Prop where
  | same (d : Denomination) : Kept d d
  | units (u v : MeasureUnit) : Kept (.unit u) (.unit v)

theorem failsBy_baseFactor_unit (u : MeasureUnit) :
    FailsBy Cause.isOverflow (baseFactor (.unit u) rates offset) := by
  rw [baseFactor]
  split
  · split
    · exact failsBy_overflow _
    · exact failsBy_pure _
  · exact failsBy_pure _

/-- The factor between two units of measure has nothing to do with rates. -/
theorem Kept.ratio_eq {d e : Denomination} (h : Kept d e) :
    ratio d e rates offset = ratio d e .empty offset := by
  cases h with
  | same d => rw [Quantity.ratio_self, Quantity.ratio_self]
  | units u v => rfl

theorem Kept.failsBy_ratio {d e : Denomination} (h : Kept d e) :
    FailsBy Cause.isOverflow (ratio d e rates offset) := by
  cases h with
  | same d =>
    rw [Quantity.ratio_self]
    exact failsBy_pure _
  | units u v =>
    rw [ratio.eq_def]
    split
    · exact failsBy_pure _
    · exact (failsBy_baseFactor_unit u).bind fun _ =>
        (failsBy_baseFactor_unit v).bind fun _ => failsBy_overflow _

section

variable {q : Quantity} {target : Dimensions}

/-- A unit and the one it is converted to are the same or no currencies. -/
theorem exists_kept (hq : q.dims.WellFormed) (htarget : target.WellFormed)
    (h : q.dims.unit? .currency = target.unit? .currency) {t goal : Term} (ht : t ∈ q.dims.terms)
    (hgoal : target.find? t.category = some goal) :
    ∃ d e, Denomination.ofName? t.unit = some d ∧ Denomination.ofName? goal.unit = some e ∧
      Kept d e := by
  obtain ⟨hmem, hcategory⟩ := Dimensions.mem_find? hgoal
  obtain ⟨d, hd, hdc⟩ := hq.resolves t ht
  obtain ⟨e, he, hec⟩ := htarget.resolves goal hmem
  refine ⟨d, e, hd, he, ?_⟩
  by_cases hc : t.category = .currency
  · have hunit : t.unit = goal.unit := by
      have hfind := hq.find?_of_mem ht
      rw [hc] at hfind hgoal
      simpa [Dimensions.unit?, hfind, hgoal] using h
    rw [← hunit, hd, Option.some.injEq] at he
    rw [he]
    exact .same e
  · cases d with
    | currency code => exact absurd hdc.symm hc
    | unit u =>
      cases e with
      | currency code => exact absurd (hcategory.symm.trans hec.symm) hc
      | unit v => exact .units u v

/-- Factors between units that are kept come from no rate and fail by overflow only. -/
theorem convertMagnitude_of_kept {ts : List Term}
    (hts : ∀ t ∈ ts, ∀ goal, target.find? t.category = some goal →
      ∃ d e, Denomination.ofName? t.unit = some d ∧ Denomination.ofName? goal.unit = some e ∧
        Kept d e) (x : Decimal) :
    (∀ rates, Quantity.convertMagnitude ⟨x, ⟨ts⟩⟩ target rates offset =
      Quantity.convertMagnitude ⟨x, ⟨ts⟩⟩ target .empty offset) ∧
    FailsBy Cause.isOverflow (Quantity.convertMagnitude ⟨x, ⟨ts⟩⟩ target .empty offset) := by
  induction ts generalizing x with
  | nil => exact ⟨fun rates => rfl, failsBy_pure x⟩
  | cons t ts ih =>
    have hrest := ih fun u hu => hts u (List.mem_cons_of_mem _ hu)
    have hstep : ∃ c : Checked Decimal, FailsBy Cause.isOverflow c ∧ ∀ rates,
        Quantity.convertMagnitude ⟨x, ⟨t :: ts⟩⟩ target rates offset =
          c >>= fun y => Quantity.convertMagnitude ⟨y, ⟨ts⟩⟩ target rates offset := by
      cases hgoal : target.find? t.category with
      | none =>
        refine ⟨pure x, failsBy_pure x, fun rates => ?_⟩
        show List.foldlM _ _ _ = _
        rw [List.foldlM_cons, hgoal]
        rfl
      | some goal =>
        obtain ⟨d, e, hd, he, hkept⟩ := hts t List.mem_cons_self goal hgoal
        refine ⟨ratio d e .empty offset >>= fun factor =>
          Quantity.powFactor factor t.exponent offset >>= fun power =>
            orOverflow offset (x.mul? power), ?_, fun rates => ?_⟩
        · exact hkept.failsBy_ratio.bind fun factor => (failsBy_power factor _).bind fun power =>
            failsBy_overflow _
        · show List.foldlM _ _ _ = _
          rw [List.foldlM_cons, hgoal]
          dsimp only
          rw [ofName_eq_ok hd, ofName_eq_ok he, ← hkept.ratio_eq]
          rfl
    obtain ⟨c, hc, hstep⟩ := hstep
    refine ⟨fun rates => ?_, ?_⟩
    · rw [hstep, hstep]
      exact congrArg (c >>= ·) (funext fun y => (hrest y).1 rates)
    · rw [hstep]
      exact hc.bind fun y => (hrest y).2

/-- Whether and where a conversion that keeps the currency succeeds does not depend on rates, and
units that fit fail by overflow only. -/
theorem convertTo_of_kept (hq : q.dims.WellFormed) (htarget : target.WellFormed)
    (h : q.dims.unit? .currency = target.unit? .currency) :
    (∀ rates, q.convertTo target rates offset = q.convertTo target .empty offset) ∧
    (q.dims.compatible target = true →
      FailsBy Cause.isOverflow (q.convertTo target .empty offset)) := by
  have hkept : (∀ rates, q.convertMagnitude target rates offset =
      q.convertMagnitude target .empty offset) ∧
        FailsBy Cause.isOverflow (q.convertMagnitude target .empty offset) :=
    convertMagnitude_of_kept (fun t ht goal hgoal => exists_kept hq htarget h ht hgoal) q.magnitude
  refine ⟨fun rates => ?_, fun hcompatible => ?_⟩
  · unfold Quantity.convertTo
    rw [hkept.1 rates]
  · unfold Quantity.convertTo
    rw [if_neg (by simp [hcompatible])]
    split
    · exact (failsBy_overflow _).bind fun _ => failsBy_pure _
    · exact hkept.2.bind fun _ => failsBy_pure _

theorem exists_convertTo_self (hq : q.dims.WellFormed) {t : Term} (ht : t ∈ q.dims.terms)
    (hc : t.category = .currency) :
    ∃ r, q.convertTo q.dims rates offset = .ok r ∧ r.magnitude.toRat = q.magnitude.toRat := by
  obtain ⟨y, hy, hyx⟩ := Quantity.exists_convertMagnitude_self
    (fun u hu => hq.find?_of_mem hu) hq.resolves q.magnitude
  refine ⟨{ magnitude := y, dims := q.dims }, ?_, hyx⟩
  rw [convertTo_of_currency hq.compatible_self ht hc]
  show Quantity.convertMagnitude ⟨_, ⟨q.dims.terms⟩⟩ _ rates offset >>= _ = _
  rw [hy]
  rfl

end

/-! ## All together -/

/-- The factor between two currencies asks for two usable rates, the sizes of both currencies and
conversions from one to the other lack a rate exactly where the factor does, unless the second rate
is zero and the first one is not.  In that case the factor is zero: amounts are lost, and what is
counted for each unit of the currency has no result.  A conversion that keeps the currency is the
same for all rates, fails by overflow only, and succeeds where it keeps all units. -/
theorem exchange_lacks_rate_iff {a b : String} (hacode : Currency.isCode a = true)
    (hbcode : Currency.isCode b = true) (hab : a ≠ b) (rates : RateTable) (o : Nat) :
    (((∃ r, ratio (.currency a) (.currency b) rates o = .ok r) →
      rates.Usable a ∧ rates.Usable b) ↔ ¬rates.Loses a b) ∧
    ((LacksRate (ratio (.currency a) (.currency b) rates o) ↔
      LacksRate (baseFactor (.currency a) rates o) ∨
        LacksRate (baseFactor (.currency b) rates o)) ↔ ¬rates.Loses a b) ∧
    (∀ {q : Quantity}, q.dims.WellFormed → q.dims.unit? .currency = some a →
      (∀ {cause : Cause}, cause.isRate = true →
        (q.convertTo (q.dims.inCurrency b) rates o = failAt o cause ↔
          ratio (.currency a) (.currency b) rates o = failAt o cause)) ∧
      (rates.Loses a b → 0 < q.dims.exponent .currency →
        ∃ r, q.convertTo (q.dims.inCurrency b) rates o = .ok r ∧ r.magnitude.toRat = 0) ∧
      (rates.Loses a b → q.dims.exponent .currency < 0 →
        q.convertTo (q.dims.inCurrency b) rates o = failAt o (.domain .overflow)) ∧
      ∃ r, q.convertTo q.dims .empty o = .ok r ∧ r.magnitude.toRat = q.magnitude.toRat) ∧
    ∀ {q : Quantity} {target : Dimensions}, q.dims.WellFormed → target.WellFormed →
      q.dims.unit? .currency = target.unit? .currency →
      q.convertTo target rates o = q.convertTo target .empty o ∧
      (q.dims.compatible target = true →
        FailsBy Cause.isOverflow (q.convertTo target .empty o)) := by
  refine ⟨usable_of_ratio_iff hab, lacksRate_ratio_iff_baseFactor hab, fun {q} hq hunit => ?_,
    fun {q target} hq htarget h => ?_⟩
  · obtain ⟨t, ht, ha⟩ := Option.map_eq_some_iff.1 hunit
    obtain ⟨hmem, hc⟩ := Dimensions.mem_find? ht
    have hexponent : q.dims.exponent .currency = t.exponent := by
      rw [Dimensions.exponent, ht]
    rw [hexponent]
    refine ⟨convertTo_inCurrency_eq_failAt_iff hq ht ha hacode hbcode, fun hloses => ?_,
      fun hloses => ?_, exists_convertTo_self hq hmem hc⟩
    · exact (convertTo_of_loses hq ht ha hacode hbcode hab hloses).1
    · exact (convertTo_of_loses hq ht ha hacode hbcode hab hloses).2
  · obtain ⟨hsame, hfails⟩ := convertTo_of_kept hq htarget h
    exact ⟨hsame rates, hfails⟩

/-- Five dollars an hour. -/
def wage : Quantity :=
  { magnitude := .ofNat 5, dims := ⟨[⟨.time, "h", -1⟩, ⟨.currency, "USD", 1⟩]⟩ }

/-- Two hours for a dollar. -/
def perDollar : Quantity :=
  { magnitude := .ofNat 2, dims := ⟨[⟨.time, "h", 1⟩, ⟨.currency, "USD", -1⟩]⟩ }

/-- A currency for each unit of time, or the other way round. -/
theorem wellFormed_timed {unit code : String} {m n : Int}
    (hunit : Term.Resolves ⟨.time, unit, m⟩) (hcode : Currency.isCode code = true) (hm : m ≠ 0)
    (hn : n ≠ 0) : Dimensions.WellFormed ⟨[⟨.time, unit, m⟩, ⟨.currency, code, n⟩]⟩ where
  distinct := (by decide : [Category.time, Category.currency].Nodup)
  nonzero := by simp [hm, hn]
  resolves := by
    have hcurrency : Term.Resolves ⟨.currency, code, n⟩ := ⟨_, Denomination.ofName?_code hcode, rfl⟩
    simp [hunit, hcurrency]

/-- With a rate of zero for euros, a wage in euros is nothing and the hours for a euro overflow;
without any rate for euros both lack it, and minutes for a dollar need no rate. -/
theorem exchange_lacks_rate_iff_wage :
    let worthless : RateTable := ⟨[("USD", .one), ("EUR", .zero)]⟩
    let missing : RateTable := ⟨[("USD", .one)]⟩
    let minutes : Dimensions := ⟨[⟨.time, "min", 1⟩, ⟨.currency, "USD", -1⟩]⟩
    Currency.isCode "USD" = true ∧ Currency.isCode "EUR" = true ∧ "USD" ≠ "EUR" ∧
      wage.dims.WellFormed ∧ perDollar.dims.WellFormed ∧ minutes.WellFormed ∧
      worthless.Loses "USD" "EUR" ∧ ¬missing.Loses "USD" "EUR" ∧
      wage.dims.unit? .currency = some "USD" ∧ perDollar.dims.unit? .currency = some "USD" ∧
      (∃ r, wage.convertTo (wage.dims.inCurrency "EUR") worthless 0 = .ok r ∧
        r.magnitude.toRat = 0) ∧
      perDollar.convertTo (perDollar.dims.inCurrency "EUR") worthless 0 =
        failAt 0 (.domain .overflow) ∧
      wage.convertTo (wage.dims.inCurrency "EUR") missing 0 = failAt 0 (.missingRate "EUR") ∧
      perDollar.convertTo minutes missing 0 = perDollar.convertTo minutes .empty 0 ∧
      ∃ r, wage.convertTo wage.dims .empty 0 = .ok r := by
  intro worthless missing minutes
  have husd : Currency.isCode "USD" = true := by decide
  have heur : Currency.isCode "EUR" = true := by decide
  have hne : "USD" ≠ "EUR" := by decide
  have hwage : wage.dims.WellFormed :=
    wellFormed_timed (by decide +kernel) husd (by decide) (by decide)
  have hper : perDollar.dims.WellFormed :=
    wellFormed_timed (by decide +kernel) husd (by decide) (by decide)
  have hminutes : minutes.WellFormed :=
    wellFormed_timed (by decide +kernel) husd (by decide) (by decide)
  have hloses : worthless.Loses "USD" "EUR" := ⟨⟨.one, rfl, rfl⟩, .zero, rfl, rfl⟩
  have hnot : ¬missing.Loses "USD" "EUR" := by
    rintro ⟨-, y, hy, -⟩
    cases hy
  obtain ⟨-, -, hchange, -⟩ := exchange_lacks_rate_iff husd heur hne worthless 0
  obtain ⟨-, -, hchange', hkeep⟩ := exchange_lacks_rate_iff husd heur hne missing 0
  refine ⟨husd, heur, hne, hwage, hper, hminutes, hloses, hnot, rfl, rfl, ?_, ?_, ?_, ?_, ?_⟩
  · exact (hchange hwage rfl).2.1 hloses (by decide)
  · exact (hchange hper rfl).2.2.1 hloses (by decide)
  · exact ((hchange' hwage rfl).1 rfl).2 rfl
  · exact (hkeep hper hminutes rfl).1
  · obtain ⟨r, hr, -⟩ := (hchange hwage rfl).2.2.2
    exact ⟨r, hr⟩

/-- With a rate of zero for euros there is a factor from dollars to euros, although euros have no
size. -/
theorem ratio_takes_zero_rate :
    let rates : RateTable := ⟨[("USD", .one), ("EUR", .zero)]⟩
    Currency.isCode "USD" = true ∧ Currency.isCode "EUR" = true ∧
      ratio (.currency "USD") (.currency "EUR") rates 0 = .ok .zero ∧
      baseFactor (.currency "EUR") rates 0 = failAt 0 (.domain (.zeroRate "EUR")) ∧
      ¬rates.Usable "EUR" := by
  intro rates
  refine ⟨by decide, by decide, rfl, rfl, fun h => h.not_worthless ⟨.zero, rfl, rfl⟩⟩

end Reckoner
