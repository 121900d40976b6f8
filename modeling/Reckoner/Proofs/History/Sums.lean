import Reckoner.Proofs.Assignment.Offset
import Reckoner.Proofs.History.Counted
import Reckoner.Proofs.Quantity.Checking

/-!
# Aggregates and the functions of the same name

`total` and `sum` come to the same by different ways.  `total` sums up bare
decimals in the units of the first quantity; `sum` adds values, from the number
zero on, where a number takes on the units of the first quantity it meets.  Both
ways are followed entry by entry.

* `Stands` relates what has been summed up on the one way to the value on the
  other: equal decimals, the same units.
* `alongside_step` says that one more entry keeps them so, or fails on both
  ways for one cause; `alongside_run` is about all entries.
* `aggregate_agrees_with_builtin` is the statement for histories whose entries
  can be added.
-/

namespace Reckoner

namespace Decimal

variable {x x' y y' : Decimal}

/-- Sums depend on the values of decimals only, not on how they are written. -/
theorem add?_congr (h : x.toRat + y.toRat = x'.toRat + y'.toRat) :
    (x.add? y).map toRat = (x'.add? y').map toRat := by
  rw [value_add?, value_add?, h]

/-- So do quotients by a count. -/
theorem exists_div?_ofNat_congr {n : Nat} (h : x.toRat = y.toRat) (hn : 0 < n) :
    ∃ x' y', x.div? (.ofNat n) = some x' ∧ y.div? (.ofNat n) = some y' ∧
      x'.sameValue y' = true := by
  obtain ⟨x', hx'⟩ := x.exists_div?_ofNat hn
  obtain ⟨y', hy'⟩ := y.exists_div?_ofNat hn
  refine ⟨x', y', hx', hy', sameValue_iff.2 (Option.some.inj ?_)⟩
  have hx := value_div? (x := x) (isZero_ofNat hn)
  have hy := value_div? (x := y) (isZero_ofNat hn)
  rw [hx'] at hx
  rw [hy', ← h, ← hx] at hy
  exact hy.symm

end Decimal

namespace Quantity

variable {q : Quantity} {d : Dimensions} {rates : RateTable} {offset : Nat}

/-- Apart from single temperatures, readings and differences convert alike. -/
theorem convertTo_eq_convertLinear (hd : q.dims.compatible d = true)
    (hq : ∀ unit, q.dims.terms ≠ [⟨.temperature, unit, 1⟩]) :
    q.convertTo d rates offset = q.convertLinear d rates offset := by
  have hpair : temperaturePair? q.dims d = none := by
    rw [temperaturePair?]
    split
    case h_1 s t hs ht =>
      rw [Dimensions.single?] at hs
      split at hs
      case h_2 => cases hs
      case h_1 heq =>
        cases hs
        refine if_neg ?_
        rintro ⟨hcategory, hexponent⟩
        refine hq s.unit ?_
        rw [heq, ← hcategory, ← hexponent]
    case h_2 => rfl
  rw [convertTo, convertLinear, hd, hpair]
  rfl

/-- A quantity in its own units keeps its value. -/
theorem exists_convertLinear_self (rates : RateTable) (offset : Nat) (hq : q.WellFormed) :
    ∃ r, q.convertLinear q.dims rates offset = .ok r ∧ r.magnitude.toRat = q.magnitude.toRat := by
  have hfind : ∀ t ∈ q.dims.terms, q.dims.find? t.category = some t :=
    fun t ht => hq.dims.find?_of_mem ht
  obtain ⟨y, hy, hvalue⟩ : ∃ y, q.convertMagnitude q.dims rates offset = .ok y ∧
      y.toRat = q.magnitude.toRat := exists_convertMagnitude_self hfind hq.dims.resolves q.magnitude
  refine ⟨{ magnitude := y, dims := q.dims }, ?_, hvalue⟩
  rw [convertLinear, hq.dims.compatible_self]
  show q.convertMagnitude q.dims rates offset >>= _ = _
  rw [hy]
  rfl

end Quantity

namespace Eval

variable {ctx : Context} {s : Session} {o o' : Nat}

/-! ## Sums of numbers and quantities -/

theorem add_number_number (x y : Decimal) : add ctx (.number x) (.number y) o =
    liftM (Value.number <$> orOverflow o (x.add? y)) := by
  rw [add, numberOr]
  rfl

theorem add_number_quantity (x : Decimal) (q : Quantity) :
    add ctx (.number x) (.quantity q) o =
      liftM ((fun z => Value.quantity { q with magnitude := z }) <$>
        orOverflow o (q.magnitude.add? x)) := by
  rw [add, Quantity.plus]
  cases q.magnitude.add? x <;> rfl

theorem add_quantity_number (q : Quantity) (x : Decimal) :
    add ctx (.quantity q) (.number x) o =
      liftM ((fun z => Value.quantity { q with magnitude := z }) <$>
        orOverflow o (q.magnitude.add? x)) := by
  rw [add, Quantity.plus]
  cases q.magnitude.add? x <;> rfl

theorem add_quantity_quantity {p : Quantity} (hp : p.dims.isEmpty = false) (q : Quantity) :
    add ctx (.quantity p) (.quantity q) o =
      liftM (q.convertLinear p.dims ctx.rates o >>= fun r =>
        (fun z => Value.quantity { p with magnitude := z }) <$>
          orOverflow o (p.magnitude.add? r.magnitude)) := by
  rw [add, Quantity.add]
  cases q.convertLinear p.dims ctx.rates o with
  | error e => rfl
  | ok r =>
    show (do return .ofAmount (← p.plus r.magnitude o).toAmount : EvalM Value) =
      liftM ((fun z => Value.quantity { p with magnitude := z }) <$>
        orOverflow o (p.magnitude.add? r.magnitude))
    rw [Quantity.plus]
    cases p.magnitude.add? r.magnitude with
    | none => rfl
    | some z =>
      show (pure (.ofAmount (Quantity.toAmount { p with magnitude := z })) : EvalM Value) = _
      rw [Quantity.toAmount, if_neg (by simp [hp])]
      rfl

/-! ## Both ways, entry by entry -/

/-- A number, or a quantity of given powers that is no reading of a temperature. -/
inductive Addend (powers : Category → Int) : Value → Prop where
  | number (x : Decimal) : Addend powers (.number x)
  | quantity {q : Quantity} (hq : q.WellFormed) (hpowers : q.dims.exponent = powers)
      (hreading : ∀ unit, q.dims.terms ≠ [⟨.temperature, unit, 1⟩]) : Addend powers (.quantity q)

variable {powers : Category → Int} {n : Nat} {t : RunningSum} {v w : Value}

/-- What has been summed up of `n` entries on the one way and on the other. -/
inductive Stands (powers : Category → Int) (n : Nat) : RunningSum → Value → Prop where
  | number {x y : Decimal} (h : x.toRat = y.toRat) :
    Stands powers n { dims := none, sum := x, count := n } (.number y)
  | quantity {x y : Decimal} {dims : Dimensions} (hdims : dims.WellFormed)
      (hnonempty : dims.isEmpty = false) (hpowers : dims.exponent = powers)
      (h : x.toRat = y.toRat) :
    Stands powers n { dims := some dims, sum := x, count := n }
      (.quantity { magnitude := y, dims })

/-- Both ways go on, or both fail for one cause. -/
inductive Alongside (powers : Category → Int) (n : Nat) (s : Session) :
    Checked RunningSum → EStateM.Result Stop Session Value → Prop where
  | ok {t : RunningSum} {v : Value} (h : Stands powers n t v) :
    Alongside powers n s (.ok t) (.ok v s)
  | error {cause : Cause} {o o' : Nat} :
    Alongside powers n s (.error { cause, offset := o }) (.error (.fault { cause, offset := o' }) s)

theorem alongside_sum {x? y? : Option Decimal} {dims : Option Dimensions} {mk : Decimal → Value}
    (h : x?.map Decimal.toRat = y?.map Decimal.toRat)
    (hmk : ∀ x y : Decimal, x.toRat = y.toRat →
      Stands powers n { dims, sum := x, count := n } (mk y)) :
    Alongside powers n s
      (orOverflow o x? >>= fun sum => pure { dims, sum, count := n })
      ((liftM (mk <$> orOverflow o' y?) : EvalM Value) s) := by
  cases x? with
  | none =>
    cases y? with
    | none => exact .error
    | some y => cases h
  | some x =>
    cases y? with
    | none => cases h
    | some y => exact .ok (hmk x y (Option.some.inj h))

/-- One more entry. -/
theorem alongside_step (h : Stands powers n t v) (hw : Addend powers w) :
    Alongside powers (n + 1) s (t.step ctx.rates o w) (addNumeric ctx o' v w s) := by
  cases hw with
  | number z =>
    cases h with
    | @number x y h =>
      show Alongside _ _ _ _ (add ctx (.number y) (.number z) o' s)
      rw [add_number_number]
      exact alongside_sum (Decimal.add?_congr (by rw [h])) fun _ _ => .number
    | @quantity x y dims hdims hnonempty hpowers h =>
      show Alongside _ _ _ _ (add ctx (.quantity _) (.number z) o' s)
      rw [add_quantity_number]
      exact alongside_sum (Decimal.add?_congr (by rw [h])) fun _ _ => .quantity hdims hnonempty hpowers
  | @quantity q hq hqpowers hreading =>
    cases h with
    | @number x y h =>
      -- the first quantity: the number summed up so far takes its units on
      show Alongside _ _ _ _ (add ctx (.number y) (.quantity q) o' s)
      have hself := hq.dims.compatible_self
      obtain ⟨r, hr, hvalue⟩ := Quantity.exists_convertLinear_self ctx.rates o hq
      rw [step_of_counts hself, add_number_quantity]
      show Alongside _ _ _ (q.convertTo q.dims ctx.rates o >>= _) _
      rw [Quantity.convertTo_eq_convertLinear hself hreading, hr]
      refine alongside_sum (Decimal.add?_congr ?_) fun _ _ => .quantity hq.dims hq.nonempty hqpowers
      rw [hvalue, h, add_comm]
    | @quantity x y dims hdims hnonempty hpowers h =>
      show Alongside _ _ _ _ (add ctx (.quantity _) (.quantity q) o' s)
      have hcompatible : q.dims.compatible dims = true := by
        rw [Dimensions.compatible_iff_exponent hq.dims hdims, hqpowers, hpowers]
        exact fun _ => rfl
      rw [step_of_counts hcompatible, add_quantity_quantity hnonempty]
      show Alongside _ _ _ (q.convertTo dims ctx.rates o >>= _) _
      rw [Quantity.convertTo_eq_convertLinear hcompatible hreading]
      have hconvert : SameCause (q.convertLinear dims ctx.rates o)
          (q.convertLinear dims ctx.rates o') := Quantity.sameCause_convertLinear q dims
      generalize q.convertLinear dims ctx.rates o = c at hconvert ⊢
      generalize q.convertLinear dims ctx.rates o' = c' at hconvert ⊢
      cases hconvert with
      | ok r =>
        exact alongside_sum (Decimal.add?_congr (by rw [h])) fun _ _ =>
          .quantity hdims hnonempty hpowers
      | error cause o o' => exact .error

/-- All entries. -/
theorem alongside_run {history : List Value} (h : Stands powers n t v)
    (hhistory : ∀ w ∈ history, Addend powers w) :
    Alongside powers (n + history.length) s
      (history.foldlM (RunningSum.step ctx.rates o) t)
      (history.foldlM (addNumeric ctx o') v s) := by
  induction history generalizing n t v with
  | nil => exact .ok h
  | cons w rest ih =>
    have hstep : Alongside powers (n + 1) s (t.step ctx.rates o w) (addNumeric ctx o' v w s) :=
      alongside_step h (hhistory w List.mem_cons_self)
    have hrest : ∀ w ∈ rest, Addend powers w := fun w hw => hhistory w (List.mem_cons_of_mem _ hw)
    rw [List.foldlM_cons, List.foldlM_cons, List.length_cons, Nat.add_comm rest.length,
      ← Nat.add_assoc]
    show Alongside _ _ _ _ (EStateM.bind (addNumeric ctx o' v w) _ s)
    unfold EStateM.bind
    generalize t.step ctx.rates o w = c at hstep ⊢
    generalize addNumeric ctx o' v w s = r at hstep ⊢
    cases hstep with
    | ok h => exact ih h hrest
    | error => exact .error

/-! ## Results -/

/-- Two results that agree in the value as a decimal and in the units, or in the cause of an
error. -/
inductive SameResult (s : Session) :
    EStateM.Result Stop Session Value → EStateM.Result Stop Session Value → Prop where
  | number {x y : Decimal} (h : x.sameValue y = true) :
    SameResult s (.ok (.number x) s) (.ok (.number y) s)
  | quantity {x y : Decimal} {dims : Dimensions} (h : x.sameValue y = true) :
    SameResult s (.ok (.quantity { magnitude := x, dims }) s)
      (.ok (.quantity { magnitude := y, dims }) s)
  | error {cause : Cause} {o o' : Nat} :
    SameResult s (.error (.fault { cause, offset := o }) s)
      (.error (.fault { cause, offset := o' }) s)

theorem Stands.finish (h : Stands powers n t v) (hn : 0 < n) (kind : Aggregate) :
    t.finish kind o = .ok (t.value kind) := by
  cases h <;> exact if_neg (Nat.ne_of_gt hn)

theorem Stands.total (h : Stands powers n t v) :
    SameResult s (.ok (t.value .total) s) (.ok v s) := by
  cases h with
  | number h => exact .number (Decimal.sameValue_iff.2 h)
  | quantity _ hnonempty _ h =>
    rw [value_eq_inUnits, inUnits, if_neg (by simp [hnonempty])]
    exact .quantity (Decimal.sameValue_iff.2 h)

theorem Stands.average (h : Stands powers n t v) (hn : 0 < n) :
    SameResult s (.ok (t.value .average) s)
      ((liftM (div ctx v (.ofNat n) o') : EvalM Value) s) := by
  have hcount : isZeroAmount (.ofNat n) = false := Decimal.isZero_ofNat hn
  cases h with
  | @number x y h =>
    obtain ⟨x', y', hx, hy, hsame⟩ := Decimal.exists_div?_ofNat_congr h hn
    have hdiv : div ctx (.number y) (.ofNat n) o' = .ok (.number y') := by
      rw [div.eq_def, if_neg (by simp [hcount])]
      show numberOr o' (y.div? (.ofNat n)) = _
      rw [hy]
      rfl
    rw [hdiv, value_eq_inUnits, RunningSum.magnitude, hx]
    exact .number hsame
  | @quantity x y dims _ hnonempty _ h =>
    obtain ⟨x', y', hx, hy, hsame⟩ := Decimal.exists_div?_ofNat_congr h hn
    have hdiv : div ctx (.quantity { magnitude := y, dims }) (.ofNat n) o' =
        .ok (.quantity { magnitude := y', dims }) := by
      rw [div.eq_def, if_neg (by simp [hcount])]
      show quantityOr _ o' (y.div? (.ofNat n)) = _
      rw [hy]
      rfl
    rw [hdiv, value_eq_inUnits, RunningSum.magnitude, hx, inUnits, if_neg (by simp [hnonempty])]
    exact .quantity hsame

theorem Alongside.total {c : Checked RunningSum} {r : EStateM.Result Stop Session Value}
    (h : Alongside powers n s c r) (hn : 0 < n) :
    SameResult s ((liftM (c >>= fun t => t.finish .total o) : EvalM Value) s) r := by
  cases h with
  | @ok t v h =>
    show SameResult s ((liftM (t.finish .total o) : EvalM Value) s) _
    rw [h.finish hn]
    exact h.total
  | error => exact .error

theorem Alongside.average {c : Checked RunningSum} {m : EvalM Value}
    (h : Alongside powers n s c (m s)) (hn : 0 < n) :
    SameResult s ((liftM (c >>= fun t => t.finish .average o) : EvalM Value) s)
      (EStateM.bind m (fun total => liftM (div ctx total (.ofNat n) o')) s) := by
  unfold EStateM.bind
  generalize m s = r at h
  cases h with
  | @ok t v h =>
    show SameResult s ((liftM (t.finish .average o) : EvalM Value) s) _
    rw [h.finish hn]
    exact h.average hn
  | error => exact .error

variable {call : Caller} {cell : Nat}

theorem callBuiltin_sum : callBuiltin ctx call .sum [.array cell] o' s =
    (s.items cell).toList.foldlM (addNumeric ctx o') (.number .zero) s := rfl

theorem callBuiltin_average {b : Builtin} (hb : b ∈ [Builtin.average, .avg])
    (hne : (s.items cell).toList ≠ []) : callBuiltin ctx call b [.array cell] o' s =
      EStateM.bind ((s.items cell).toList.foldlM (addNumeric ctx o') (.number .zero))
        (fun total => liftM (div ctx total (.ofNat (s.items cell).toList.length) o')) s := by
  have hvalues : callBuiltin ctx call b [.array cell] o' s =
      (if (s.items cell).toList.isEmpty then fail o' (.noValues Aggregate.average.name)
      else (s.items cell).toList.foldlM (addNumeric ctx o') (.number .zero) >>= fun total =>
        liftM (div ctx total (.ofNat (s.items cell).toList.length) o')) s := by
    simp only [List.mem_cons, List.not_mem_nil, or_false] at hb
    rcases hb with rfl | rfl <;> rfl
  rw [hvalues, if_neg (by simpa using hne)]
  rfl

/-- A total comes to what `sum` gives for the same entries, and an average to what `average` gives:
the same decimal in the same units, or an error of the same cause.  The entries are numbers and
quantities of the same powers, none of them a reading of a temperature. -/
theorem aggregate_agrees_with_builtin (ctx : Context) (call : Caller) (scope o o' cell : Nat)
    (s : Session) (powers : Category → Int) (hne : ctx.history ≠ [])
    (hhistory : ∀ v ∈ ctx.history, Addend powers v)
    (hitems : (s.items cell).toList = ctx.history) :
    SameResult s (evalExpr ctx call scope (.aggregate .total none o) s)
        (callBuiltin ctx call .sum [.array cell] o' s) ∧
      ∀ b ∈ [Builtin.average, .avg],
        SameResult s (evalExpr ctx call scope (.aggregate .average none o) s)
          (callBuiltin ctx call b [.array cell] o' s) := by
  have hplain : ¬∃ d, Schedule ctx.history d := by
    rintro ⟨d, hd⟩
    have hdate := hhistory _ hd.mem
    cases hdate
  have hlength : 0 < ctx.history.length := List.length_pos_of_ne_nil hne
  have haggregate (kind : Aggregate) : evalExpr ctx call scope (.aggregate kind none o) s =
      (liftM (ctx.history.foldlM (RunningSum.step ctx.rates o) (.start none) >>= fun t =>
        t.finish kind o) : EvalM Value) s := by
    rw [evalExpr_aggregate (.inr hplain)]
    rfl
  have hrun : Alongside powers ctx.history.length s
      (ctx.history.foldlM (RunningSum.step ctx.rates o) (.start none))
      (ctx.history.foldlM (addNumeric ctx o') (.number .zero) s) := by
    have hstart : Stands powers 0 (.start none) (.number .zero) := .number rfl
    rw [← Nat.zero_add ctx.history.length]
    exact alongside_run hstart hhistory
  refine ⟨?_, fun b hb => ?_⟩
  · rw [haggregate, callBuiltin_sum, hitems]
    exact hrun.total hlength
  · rw [haggregate, callBuiltin_average hb (by rwa [hitems]), hitems]
    exact hrun.average hlength

/-- Half a metre, in centimetres. -/
def halfMetre : Quantity := { magnitude := .ofNat 50, dims := ⟨[⟨.length, "cm", 1⟩]⟩ }

/-- A history of three, a metre and half a metre. -/
def lengths : Context :=
  { Context.ofClock ⟨0, 0⟩ (.fixed 0) with
    history := [.number (.ofNat 3), .quantity (metres .one), .quantity halfMetre] }

/-- An array of the same values. -/
def lengthsHeld : Session := Session.empty.newCell (.array lengths.history.toArray)

theorem aggregate_agrees_with_builtin_lengths :
    let call : Caller := fun _ _ _ => throw .exhausted
    lengths.history ≠ [] ∧ (∀ v ∈ lengths.history, Addend halfMetre.dims.exponent v) ∧
      (lengthsHeld.items 0).toList = lengths.history ∧
      SameResult lengthsHeld
        (evalExpr lengths call 0 (.aggregate .total none 2) lengthsHeld)
        (.ok (.quantity (metres (.ofScaled 450 2))) lengthsHeld) ∧
      SameResult lengthsHeld
        (evalExpr lengths call 0 (.aggregate .average none 2) lengthsHeld)
        (.ok (.quantity (metres (.ofScaled 150 2))) lengthsHeld) := by
  intro call
  have hne : lengths.history ≠ [] := List.cons_ne_nil _ _
  have hhistory : ∀ v ∈ lengths.history, Addend halfMetre.dims.exponent v := by
    have hmetre : (metres .one).WellFormed := by decide
    have hhalf : halfMetre.WellFormed := by decide
    intro v hv
    simp only [lengths, List.mem_cons, List.not_mem_nil, or_false] at hv
    rcases hv with rfl | rfl | rfl
    · exact .number _
    · exact .quantity hmetre (by funext c; cases c <;> rfl) (by simp [metres])
    · exact .quantity hhalf rfl (by simp [halfMetre])
  have hitems : (lengthsHeld.items 0).toList = lengths.history := rfl
  have htotal : callBuiltin lengths call .sum [.array 0] 5 lengthsHeld =
      .ok (.quantity (metres (.ofScaled 450 2))) lengthsHeld := rfl
  have haverage : callBuiltin lengths call .average [.array 0] 5 lengthsHeld =
      .ok (.quantity (metres (.ofScaled 150 2))) lengthsHeld := rfl
  obtain ⟨hsum, hmean⟩ := aggregate_agrees_with_builtin lengths call 0 2 5 0 lengthsHeld
    halfMetre.dims.exponent hne hhistory hitems
  rw [htotal] at hsum
  have hmean := hmean .average (by simp)
  rw [haverage] at hmean
  exact ⟨hne, hhistory, hitems, hsum, hmean⟩

end Eval

end Reckoner
