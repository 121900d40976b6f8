import Reckoner.Proofs.Decimal.Division
import Reckoner.Proofs.Discipline.Basic
import Reckoner.Proofs.History.Dates
import Reckoner.Proofs.Quantity.Causes
import Reckoner.Proofs.Quantity.Standing

/-!
# What an aggregate counts

`total` and `average` find their units while they go through the history: those
of the target, else those of the first quantity.  What counts is the numbers and
the quantities that fit these units; the rest could as well be left out.

* `foldlM_step_filter` is about the entries left out and `foldlM_step_ok` about
  the units and the count that a run ends with.
* `failsBy_step` names what can go wrong on the way, which is neither that
  units do not fit nor that there is nothing to sum up.
* `aggregate_of_counted` is the statement for all histories and targets.
-/

namespace Reckoner

namespace Decimal

theorem one_le_toRat_ofNat {n : Nat} (hn : 0 < n) : 1 ≤ (ofNat n).toRat := by
  have hmantissa : 1 ≤ (ofNat n).mantissa ∧ (ofNat n).scale = 0 ∧ (ofNat n).negative = false := by
    rw [ofNat, ofInt]
    split
    · refine ⟨?_, rfl, by simp⟩
      show 1 ≤ n
      omega
    · refine ⟨?_, rfl, by simp⟩
      show 1 ≤ capacity - 1
      decide
  obtain ⟨hmantissa, hscale, hnegative⟩ := hmantissa
  rw [toRat_eq, hscale, hnegative]
  simpa [sgn] using hmantissa

theorem isZero_ofNat {n : Nat} (hn : 0 < n) : (ofNat n).isZero = false := by
  cases hzero : (ofNat n).isZero with
  | false => rfl
  | true =>
    have hone := one_le_toRat_ofNat hn
    rw [(toRat_eq_zero_iff _).2 hzero] at hone
    norm_num at hone

/-- A decimal can be divided by any count. -/
theorem exists_div?_ofNat (x : Decimal) {n : Nat} (hn : 0 < n) :
    ∃ y, x.div? (.ofNat n) = some y := by
  have hone := one_le_toRat_ofNat hn
  have hle : |x.toRat / (ofNat n).toRat| ≤ |x.toRat| := by
    rw [abs_div]
    exact div_le_self (abs_nonneg _) (hone.trans (le_abs_self _))
  have hroom : |x.toRat| < capacity - 1 / 2 := by
    have hmantissa : (x.mantissa : ℚ) ≤ capacity - 1 := by
      rw [le_sub_iff_add_le]
      exact_mod_cast Nat.succ_le_of_lt x.mantissa_lt
    have hscale : (x.mantissa : ℚ) / 10 ^ x.scale ≤ x.mantissa :=
      div_le_self (by positivity) (one_le_pow₀ (by norm_num))
    rw [abs_toRat]
    exact (hscale.trans hmantissa).trans_lt (sub_lt_sub_left (by norm_num) _)
  obtain ⟨z, hz⟩ := exists_rounded (hle.trans_lt hroom)
  have hvalue := value_div? (x := x) (isZero_ofNat hn)
  rw [hz] at hvalue
  obtain ⟨y, hy, -⟩ := Option.map_eq_some_iff.1 hvalue
  exact ⟨y, hy⟩

end Decimal

namespace Eval

/-- The units of an aggregate: those of the target, else those of the first quantity. -/
def unitsOf (ctx : Context) (target : Option (List UnitTerm)) (offset : Nat) :
    Checked (Option Dimensions) :=
  match target with
  | some terms => some <$> Quantity.targetDims terms ctx.rates offset
  | none => pure ((quantitiesOf ctx.history).head?.map Quantity.dims)

/-- Whether an entry counts in an aggregate with the given units. -/
def counts (units : Option Dimensions) : Value → Bool
  | .number _ => true
  | .quantity q => units.any q.dims.compatible
  | _ => false

/-- A magnitude in the units of an aggregate. -/
def inUnits (units : Option Dimensions) (x : Decimal) : Value :=
  match units with
  | some dims => if dims.isEmpty then .number x else .quantity { magnitude := x, dims }
  | none => .number x

variable {rates : RateTable} {offset : Nat} {t t' : RunningSum} {v : Value} {rest : List Value}

/-! ## One step -/

/-- The units of a run that goes on through a history. -/
def RunningSum.units (t : RunningSum) (history : List Value) : Option Dimensions :=
  t.dims.or ((quantitiesOf history).head?.map Quantity.dims)

theorem counts_quantity {q : Quantity} :
    counts (t.units (.quantity q :: rest)) (.quantity q) =
      q.dims.compatible (t.dims.getD q.dims) := by
  rw [RunningSum.units]
  cases t.dims <;> rfl

theorem step_of_counts {q : Quantity} (h : q.dims.compatible (t.dims.getD q.dims) = true) :
    t.step rates offset (.quantity q) =
      q.convertTo (t.dims.getD q.dims) rates offset >>= fun converted =>
        orOverflow offset (t.sum.add? converted.magnitude) >>= fun sum =>
          pure { dims := some (t.dims.getD q.dims), sum, count := t.count + 1 } := by
  rw [RunningSum.step]
  exact if_pos h

/-- A quantity is passed over only after the units are known, as it fits its own. -/
theorem step_of_not_counts (rates : RateTable) (offset : Nat)
    (hv : ∀ q, v = .quantity q → (q.dims.terms.map Term.category).Nodup)
    (h : counts (t.units (v :: rest)) v = false) :
    t.step rates offset v = pure t ∧ t.units rest = t.units (v :: rest) := by
  cases v with
  | number x => cases h
  | quantity q =>
    rw [counts_quantity] at h
    cases hdims : t.dims with
    | none =>
      rw [hdims, Option.getD_none, Dimensions.compatible_self_of_nodup (hv q rfl)] at h
      cases h
    | some dims =>
      constructor
      · rw [RunningSum.step, if_neg (by simp [h]), hdims, Option.getD_some, ← hdims]
      · rw [RunningSum.units, RunningSum.units, hdims, Option.some_or, Option.some_or]
  | _ => exact ⟨rfl, rfl⟩

/-- An entry that counts is one more, and from the first quantity on the units are known. -/
theorem step_ok_of_counts (hcounts : counts (t.units (v :: rest)) v = true)
    (h : t.step rates offset v = .ok t') :
    t'.units rest = t.units (v :: rest) ∧ t'.count = t.count + 1 := by
  cases v with
  | number x =>
    obtain ⟨sum, -, h⟩ := ok_bind_eq_ok h
    cases h
    exact ⟨rfl, rfl⟩
  | quantity q =>
    rw [counts_quantity] at hcounts
    rw [step_of_counts hcounts] at h
    obtain ⟨converted, -, h⟩ := ok_bind_eq_ok h
    obtain ⟨sum, -, h⟩ := ok_bind_eq_ok h
    cases h
    refine ⟨?_, rfl⟩
    rw [RunningSum.units, RunningSum.units, Option.some_or]
    cases t.dims <;> rfl
  | _ => cases hcounts

theorem failsBy_step (v : Value) : FailsBy Cause.isConversion (t.step rates offset v) := by
  cases v with
  | number x => exact (failsBy_orOverflow _).bind fun _ => failsBy_pure _
  | quantity q =>
    rw [RunningSum.step]
    split
    case isTrue h =>
      refine (Quantity.failsBy_convertTo h).bind fun _ => ?_
      exact (failsBy_orOverflow _).bind fun _ => failsBy_pure _
    case isFalse => exact failsBy_pure _
  | _ => exact failsBy_pure _

/-! ## A run through a history -/

variable {history : List Value}

/-- Entries that do not count can be left out. -/
theorem foldlM_step_filter (rates : RateTable) (offset : Nat) (t : RunningSum)
    (hdistinct : ∀ q, .quantity q ∈ history → (q.dims.terms.map Term.category).Nodup) :
    (history.filter (counts (t.units history))).foldlM (RunningSum.step rates offset) t =
      history.foldlM (RunningSum.step rates offset) t := by
  -- each step keeps the units that the run ends with, so the filter stays the same one
  induction history generalizing t with
  | nil => rfl
  | cons v rest ih =>
    have hrest : ∀ q, .quantity q ∈ rest → (q.dims.terms.map Term.category).Nodup :=
      fun q hq => hdistinct q (List.mem_cons_of_mem _ hq)
    cases hcounts : counts (t.units (v :: rest)) v with
    | true =>
      rw [List.filter_cons_of_pos hcounts, List.foldlM_cons, List.foldlM_cons]
      cases hstep : t.step rates offset v with
      | error e => rfl
      | ok t' =>
        obtain ⟨hunits, -⟩ := step_ok_of_counts hcounts hstep
        rw [← hunits]
        exact ih t' hrest
    | false =>
      have hv : ∀ q, v = .quantity q → (q.dims.terms.map Term.category).Nodup := by
        rintro q rfl
        exact hdistinct q List.mem_cons_self
      obtain ⟨hstep, hunits⟩ := step_of_not_counts rates offset hv hcounts
      rw [List.filter_cons_of_neg (by simp [hcounts]), List.foldlM_cons, hstep, ← hunits]
      exact ih t hrest

/-- A run ends with the units of the aggregate and the number of entries that count. -/
theorem foldlM_step_ok
    (hdistinct : ∀ q, .quantity q ∈ history → (q.dims.terms.map Term.category).Nodup)
    (h : history.foldlM (RunningSum.step rates offset) t = .ok t') :
    t'.dims = t.units history ∧
      t'.count = t.count + (history.filter (counts (t.units history))).length := by
  induction history generalizing t with
  | nil =>
    cases h
    exact ⟨(Option.or_none).symm, rfl⟩
  | cons v rest ih =>
    have hrest : ∀ q, .quantity q ∈ rest → (q.dims.terms.map Term.category).Nodup :=
      fun q hq => hdistinct q (List.mem_cons_of_mem _ hq)
    rw [List.foldlM_cons] at h
    cases hcounts : counts (t.units (v :: rest)) v with
    | true =>
      obtain ⟨next, hstep, h⟩ := ok_bind_eq_ok h
      obtain ⟨hunits, hcount⟩ := step_ok_of_counts hcounts hstep
      obtain ⟨hdims, htotal⟩ := ih hrest h
      rw [hunits] at hdims htotal
      rw [List.filter_cons_of_pos hcounts, List.length_cons]
      exact ⟨hdims, by omega⟩
    | false =>
      have hv : ∀ q, v = .quantity q → (q.dims.terms.map Term.category).Nodup := by
        rintro q rfl
        exact hdistinct q List.mem_cons_self
      obtain ⟨hstep, hunits⟩ := step_of_not_counts rates offset hv hcounts
      rw [hstep] at h
      obtain ⟨hdims, htotal⟩ := ih hrest h
      rw [hunits] at hdims htotal
      rw [List.filter_cons_of_neg (by simp [hcounts])]
      exact ⟨hdims, htotal⟩

/-! ## Aggregates -/

variable {ctx : Context} {target : Option (List UnitTerm)} {kind : Aggregate}

theorem ofAmount_toAmount (x : Decimal) (dims : Dimensions) :
    Value.ofAmount (Quantity.toAmount { magnitude := x, dims }) = inUnits (some dims) x := by
  rw [Quantity.toAmount, inUnits]
  dsimp only
  split <;> rfl

/-- The magnitude that a running sum stands for. -/
def RunningSum.magnitude (t : RunningSum) : Aggregate → Decimal
  | .total => t.sum
  | .average => (t.sum.div? (.ofNat t.count)).getD t.sum

theorem value_eq_inUnits (t : RunningSum) (kind : Aggregate) :
    t.value kind = inUnits t.dims (t.magnitude kind) := by
  obtain ⟨dims, sum, count⟩ := t
  cases dims with
  | none => cases kind <;> rfl
  | some dims => cases kind <;> exact ofAmount_toAmount _ _

/-- The result of a run. -/
def RunningSum.finish (t : RunningSum) (kind : Aggregate) (offset : Nat) : Checked Value :=
  if t.count = 0 then failAt offset (.noValues kind.name) else pure (t.value kind)

/-- A run that has not counted anything yet. -/
def RunningSum.start (dims : Option Dimensions) : RunningSum := { dims, sum := .zero, count := 0 }

/-- Once the target is known, an aggregate is a run through the history. -/
theorem sumHistory_of_units {units : Option Dimensions} (h : unitsOf ctx target offset = .ok units) :
    ∃ dims, (RunningSum.start dims).units ctx.history = units ∧ ∀ history kind,
      sumHistory { ctx with history } kind target offset =
        history.foldlM (RunningSum.step ctx.rates offset) (.start dims) >>=
          fun t => t.finish kind offset := by
  cases target with
  | none =>
    cases h
    exact ⟨none, rfl, fun history kind => rfl⟩
  | some terms =>
    obtain ⟨dims, hdims, h⟩ := ok_bind_eq_ok h
    cases h
    refine ⟨some dims, rfl, fun history kind => ?_⟩
    simp only [sumHistory, Option.mapM_some, hdims]
    rfl

theorem sumHistory_of_unresolved {e : Error} (h : unitsOf ctx target offset = .error e)
    (history : List Value) (kind : Aggregate) :
    sumHistory { ctx with history } kind target offset = .error e := by
  cases target with
  | none => cases h
  | some terms =>
    have hdims : Quantity.targetDims terms ctx.rates offset = .error e := by
      cases hdims : Quantity.targetDims terms ctx.rates offset with
      | error e' =>
        rw [unitsOf, hdims] at h
        cases h
        rfl
      | ok dims =>
        rw [unitsOf, hdims] at h
        cases h
    simp only [sumHistory, Option.mapM_some, hdims]
    rfl

theorem failsBy_unitsOf : FailsBy Cause.isConversion (unitsOf ctx target offset) := by
  cases target with
  | none => exact failsBy_pure _
  | some terms => exact (Quantity.failsBy_targetDims terms).bind fun _ => failsBy_pure _

theorem sumHistory_counted {units : Option Dimensions}
    (hdistinct : ∀ q, .quantity q ∈ ctx.history → (q.dims.terms.map Term.category).Nodup)
    (h : unitsOf ctx target offset = .ok units) (kind : Aggregate) :
    sumHistory { ctx with history := ctx.history.filter (counts units) } kind target offset =
      sumHistory ctx kind target offset := by
  obtain ⟨dims, rfl, hsum⟩ := sumHistory_of_units h
  rw [hsum _ kind, hsum ctx.history kind, foldlM_step_filter _ _ _ hdistinct]

/-- How the aggregates end when some entries count. -/
inductive Ends (units : Option Dimensions) (counted : List Value) (offset : Nat)
    (outcome : Aggregate → Checked Value) : Prop where
  /-- A conversion or a sum fails, which takes an entry to fail at. -/
  | stopped {e : Error} (hcause : e.cause.isConversion = true) (hcounted : counted ≠ [])
      (h : ∀ kind, outcome kind = .error e)
  | nothing (hcounted : counted = [])
      (h : ∀ kind, outcome kind = .error { cause := .noValues kind.name, offset })
  | summed {magnitude : Aggregate → Decimal} (hcounted : counted ≠ [])
      (haverage : (magnitude .total).div? (.ofNat counted.length) = some (magnitude .average))
      (h : ∀ kind, outcome kind = .ok (inUnits units (magnitude kind)))

theorem ends_sumHistory {units : Option Dimensions}
    (hdistinct : ∀ q, .quantity q ∈ ctx.history → (q.dims.terms.map Term.category).Nodup)
    (h : unitsOf ctx target offset = .ok units) :
    Ends units (ctx.history.filter (counts units)) offset fun kind =>
      sumHistory ctx kind target offset := by
  obtain ⟨dims, rfl, hsum⟩ := sumHistory_of_units h
  have hfilter := foldlM_step_filter ctx.rates offset (.start dims) hdistinct
  cases hrun : ctx.history.foldlM (RunningSum.step ctx.rates offset) (.start dims) with
  | error e =>
    refine .stopped (failsBy_foldlM (fun t v => failsBy_step v) _ _ e hrun) ?_ fun kind => ?_
    · intro hcounted
      rw [hcounted, hrun] at hfilter
      cases hfilter
    · rw [hsum ctx.history kind, hrun]
      rfl
  | ok t =>
    obtain ⟨hdims, hcount⟩ := foldlM_step_ok hdistinct hrun
    have hcount : t.count =
        (ctx.history.filter (counts ((RunningSum.start dims).units ctx.history))).length := by
      rw [hcount]
      exact Nat.zero_add _
    have hfinish (kind : Aggregate) :
        sumHistory ctx kind target offset = t.finish kind offset := by
      rw [hsum ctx.history kind, hrun]
      rfl
    by_cases hcounted : ctx.history.filter (counts ((RunningSum.start dims).units ctx.history)) = []
    · refine .nothing hcounted fun kind => ?_
      rw [hfinish, RunningSum.finish, if_pos (by rw [hcount, hcounted]; rfl)]
      rfl
    · have hpos : 0 < t.count := by
        rw [hcount]
        exact List.length_pos_of_ne_nil hcounted
      have hvalue (kind : Aggregate) : sumHistory ctx kind target offset =
          .ok (inUnits ((RunningSum.start dims).units ctx.history) (t.magnitude kind)) := by
        rw [hfinish, RunningSum.finish, if_neg (by omega), value_eq_inUnits, hdims]
        rfl
      obtain ⟨y, hy⟩ := t.sum.exists_div?_ofNat hpos
      have haverage : t.magnitude .average = y := by
        rw [RunningSum.magnitude, hy, Option.getD_some]
      refine .summed hcounted ?_ hvalue
      rw [haverage, ← hcount]
      exact hy

/-- Where no date is moved, an aggregate is a sum. -/
theorem aggregate_eq_sumHistory (h : target.isSome ∨ ¬∃ d, Schedule ctx.history d) :
    aggregate ctx kind target offset = sumHistory ctx kind target offset := by
  rcases h with h | h
  · cases target with
    | none => cases h
    | some terms => cases kind <;> rfl
  · exact aggregate_of_no_schedule h kind target

variable {call : Caller} {scope : Nat} {s : Session}

theorem evalExpr_aggregate (h : target.isSome ∨ ¬∃ d, Schedule ctx.history d) :
    evalExpr ctx call scope (.aggregate kind target offset) s =
      (liftM (sumHistory ctx kind target offset) : EvalM Value) s := by
  rw [evalExpr, aggregate_eq_sumHistory h]

namespace Ends

variable {units : Option Dimensions} {counted : List Value} {outcome : Aggregate → Checked Value}

theorem not_incompatible (h : Ends units counted offset outcome) (kind : Aggregate)
    (left right : String) (o : Nat) :
    outcome kind ≠ .error { cause := .incompatibleUnits left right, offset := o } := by
  intro herror
  cases h with
  | stopped hcause _ hend =>
    rw [hend kind] at herror
    cases herror
    cases hcause
  | nothing _ hend =>
    rw [hend kind] at herror
    cases herror
  | summed _ _ hend =>
    rw [hend kind] at herror
    cases herror

theorem noValues_iff (h : Ends units counted offset outcome) (kind : Aggregate) :
    (∃ name o, outcome kind = .error { cause := .noValues name, offset := o }) ↔ counted = [] := by
  cases h with
  | stopped hcause hcounted hend =>
    refine iff_of_false ?_ hcounted
    rintro ⟨name, o, herror⟩
    rw [hend kind] at herror
    cases herror
    cases hcause
  | nothing hcounted hend => exact iff_of_true ⟨_, _, hend kind⟩ hcounted
  | summed hcounted _ hend =>
    refine iff_of_false ?_ hcounted
    rintro ⟨name, o, herror⟩
    rw [hend kind] at herror
    cases herror

/-- A total and an average come together. -/
theorem of_ok {v : Value} {kind : Aggregate} (h : Ends units counted offset outcome)
    (hv : outcome kind = .ok v) :
    ∃ x y, x.div? (.ofNat counted.length) = some y ∧ outcome .total = .ok (inUnits units x) ∧
      outcome .average = .ok (inUnits units y) := by
  cases h with
  | stopped _ _ hend =>
    rw [hend kind] at hv
    cases hv
  | nothing _ hend =>
    rw [hend kind] at hv
    cases hv
  | summed _ haverage hend => exact ⟨_, _, haverage, hend .total, hend .average⟩

end Ends

/-- The entries that count are no date among them. -/
theorem not_schedule_counted (units : Option Dimensions) (history : List Value) :
    ¬∃ d, Schedule (history.filter (counts units)) d := by
  rintro ⟨d, hd⟩
  have hdate := List.of_mem_filter hd.mem
  cases hdate

/-- Aggregates see the entries that count and nothing else.  With the units of the target, or else
those of the first quantity, an aggregate is that of the entries that count; it has no values only
if there is none of them, and never fails because units do not fit.  A total is in these units, and
the average is the total divided by the number of entries that count, in the same units. -/
theorem aggregate_of_counted (ctx : Context) (call : Caller) (scope : Nat)
    (target : Option (List UnitTerm)) (offset : Nat) (s : Session)
    (hdistinct : ∀ q, .quantity q ∈ ctx.history → (q.dims.terms.map Term.category).Nodup)
    (hplain : target.isSome ∨ ¬∃ d, Schedule ctx.history d) :
    let outcome := fun history kind =>
      evalExpr { ctx with history } call scope (.aggregate kind target offset) s
    (∀ kind left right o s',
      outcome ctx.history kind ≠ .error (.fault ⟨.incompatibleUnits left right, o⟩) s') ∧
    (∀ e, unitsOf ctx target offset = .error e →
      ∀ history kind, outcome history kind = .error (.fault e) s) ∧
    ∀ units, unitsOf ctx target offset = .ok units →
      let counted := ctx.history.filter (counts units)
      (∀ kind, outcome ctx.history kind = outcome counted kind) ∧
      (∀ kind, (∃ name o s', outcome ctx.history kind = .error (.fault ⟨.noValues name, o⟩) s') ↔
        counted = []) ∧
      (∀ v s', outcome ctx.history .total = .ok v s' →
        ∃ x y, v = inUnits units x ∧ x.div? (.ofNat counted.length) = some y ∧
          outcome ctx.history .average = .ok (inUnits units y) s) ∧
      (∀ v s', outcome ctx.history .average = .ok v s' →
        ∃ w, outcome ctx.history .total = .ok w s) := by
  intro outcome
  have hrun (history : List Value) (kind : Aggregate)
      (h : target.isSome ∨ ¬∃ d, Schedule history d) :
      outcome history kind =
        (liftM (sumHistory { ctx with history } kind target offset) : EvalM Value) s :=
    evalExpr_aggregate h
  refine ⟨?_, ?_, ?_⟩
  · intro kind left right o s' h
    rw [hrun ctx.history kind hplain, lift_run_eq_error_iff] at h
    cases hunits : unitsOf ctx target offset with
    | error e =>
      rw [sumHistory_of_unresolved hunits] at h
      cases h.1
      cases failsBy_unitsOf _ hunits
    | ok units => exact (ends_sumHistory hdistinct hunits).not_incompatible kind left right o h.1
  · intro e hunits history kind
    have htarget : target.isSome := by
      cases target with
      | none => cases hunits
      | some terms => rfl
    rw [hrun history kind (.inl htarget), lift_run_eq_error_iff]
    exact ⟨sumHistory_of_unresolved hunits history kind, rfl⟩
  · intro units hunits counted
    have hends := ends_sumHistory hdistinct hunits
    refine ⟨fun kind => ?_, fun kind => ?_, fun v s' hv => ?_, fun v s' hv => ?_⟩
    · rw [hrun ctx.history kind hplain,
        hrun counted kind (.inr (not_schedule_counted units ctx.history)),
        sumHistory_counted hdistinct hunits]
    · simp only [hrun ctx.history kind hplain, lift_run_eq_error_iff]
      rw [← hends.noValues_iff kind]
      simp
    · rw [hrun ctx.history .total hplain, lift_run_eq_ok_iff] at hv
      obtain ⟨x, y, hy, htotal, haverage⟩ := hends.of_ok hv.1
      rw [hv.1] at htotal
      cases htotal
      refine ⟨x, y, rfl, hy, ?_⟩
      rw [hrun ctx.history .average hplain, lift_run_eq_ok_iff]
      exact ⟨haverage, rfl⟩
    · rw [hrun ctx.history .average hplain, lift_run_eq_ok_iff] at hv
      obtain ⟨x, y, hy, htotal, -⟩ := hends.of_ok hv.1
      exact ⟨inUnits units x, by rw [hrun ctx.history .total hplain, htotal]; rfl⟩

/-- A length in metres. -/
def metres (x : Decimal) : Quantity := { magnitude := x, dims := ⟨[⟨.length, "m", 1⟩]⟩ }

/-- Three, a metre and fifty centimetres count, a text and a mass do not. -/
theorem aggregate_of_counted_metres :
    let clock := Context.ofClock ⟨0, 0⟩ (.fixed 0)
    let call : Caller := fun _ _ _ => throw .exhausted
    let kilograms : Value := .quantity { magnitude := .ofNat 3, dims := ⟨[⟨.mass, "kg", 1⟩]⟩ }
    let centimetres : Value :=
      .quantity { magnitude := .ofNat 50, dims := ⟨[⟨.length, "cm", 1⟩]⟩ }
    let three : Value := .number (.ofNat 3)
    let history := [three, .string "a", .quantity (metres .one), kilograms, centimetres]
    (∀ q, .quantity q ∈ history → (q.dims.terms.map Term.category).Nodup) ∧
      (¬∃ d, Schedule history d) ∧
      history.filter (counts (some (metres .one).dims)) =
        [three, .quantity (metres .one), centimetres] ∧
      evalExpr { clock with history } call 0 (.aggregate .average none 2) .empty =
        .ok (.quantity (metres (.ofScaled 150 2))) .empty := by
  intro clock call kilograms centimetres three history
  have hdistinct : ∀ q, .quantity q ∈ history → (q.dims.terms.map Term.category).Nodup := by
    intro q hq
    simp only [history, three, kilograms, centimetres, List.mem_cons, List.not_mem_nil, or_false,
      reduceCtorEq, false_or, Value.quantity.injEq] at hq
    rcases hq with rfl | rfl | rfl <;> decide
  have hplain : ¬∃ d, Schedule history d := by
    rintro ⟨d, hd⟩
    exact hd.numbers (.ofNat 3) List.mem_cons_self
  refine ⟨hdistinct, hplain, rfl, ?_⟩
  obtain ⟨-, -, hcounted⟩ := aggregate_of_counted { clock with history } call 0 none 2 .empty
    hdistinct (.inr hplain)
  obtain ⟨hsame, -⟩ := hcounted (some (metres .one).dims) rfl
  exact (hsame .average).trans rfl

end Eval

end Reckoner
