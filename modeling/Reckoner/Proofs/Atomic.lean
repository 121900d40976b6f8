import Reckoner.Proofs.Quantity.WellFormed

/-!
# Operations that give atomic values

A value is atomic if it holds neither cells nor functions: a number, a
quantity, a text, a truth value, null or a date.  This module goes through the
operations that look at no session and shows of each that its result is atomic
and its errors are at the offset of the operation.  A quantity among the
results is well formed where those among the operands are (`Value.Measured`).

The groups follow the modules under `Reckoner.Eval`: operators, conversions
and casts, literals, aggregates of the history, and the built-in functions on
numbers, texts and dates.
-/

namespace Reckoner

/-- Neither a cell nor a function; a quantity has to be well formed. -/
def Value.Atomic (care : Care) : Value → Prop
  | .number _ | .string _ | .bool _ | .null | .date _ | .markdown _ => True
  | .quantity q => care.units → q.WellFormed
  | .array _ | .object _ | .closure _ _ | .builtin _ _ | .applied _ _ _ => False

/-- A quantity has to be well formed. -/
def Value.Measured (care : Care) (v : Value) : Prop :=
  ∀ q, v = .quantity q → care.units → q.WellFormed

variable {care : Care} {offset : Nat}

theorem Value.measured_number (x : Decimal) : (Value.number x).Measured care := by
  intro q hq
  cases hq

/-- A well-formed amount as a value. -/
theorem Value.ofAmount_atomic {a : Amount} (h : care.units → a.WellFormed) :
    (Value.ofAmount a).Atomic care := by
  cases a with
  | number x => trivial
  | quantity q => exact h

/-- A quantity with other digits is as well formed as it was. -/
theorem Quantity.WellFormed.of_dims_eq {q r : Quantity} (h : q.WellFormed)
    (hdims : r.dims = q.dims) : r.WellFormed :=
  ⟨hdims ▸ h.dims, hdims ▸ h.nonempty⟩

namespace Eval

/-! ## Operators -/

theorem yields_mismatch {α : Type} {P : α → Prop} (op : BinaryOp) (left right : Value) :
    Yields care offset P (mismatch op left right offset) := yields_failAt rfl

theorem yields_numberOr (x? : Option Decimal) :
    Yields care offset (Value.Atomic care) (numberOr offset x?) :=
  yields_orOverflow.bind fun _ _ => yields_pure trivial

theorem yields_quantityOr {q : Quantity} (hq : care.units → q.WellFormed) (x? : Option Decimal) :
    Yields care offset (Value.Atomic care) (quantityOr q offset x?) :=
  yields_orOverflow.bind fun _ _ => yields_pure fun hunits => (hq hunits).of_dims_eq rfl

theorem yields_shiftDate (d : Date) (q : Quantity) (back : Bool) :
    Yields care offset (Value.Atomic care) (shiftDate d q back offset) := by
  unfold shiftDate
  split
  · exact yields_failAt rfl
  · exact (yields_shift d _ _).bind fun _ _ => yields_pure trivial

/-- The second has a unit of its own. -/
theorem resolves_second : ({ unit := "s", exponent := 1 } : UnitTerm).Resolves := by
  refine ⟨.unit ⟨"s", ["sec", "secs", "second", "seconds"], .time, .ofScaled 1 0⟩, ?_⟩
  decide

/-- The difference of two dates has the second as its unit. -/
theorem yields_ofTerms_second (x : Decimal) (rates : RateTable) :
    Yields care offset (fun q => care.units → q.WellFormed)
      (Quantity.ofTerms x [{ unit := "s", exponent := 1 }] rates offset) := by
  obtain ⟨d, hd⟩ := resolves_second
  have hof : Denomination.ofName "s" offset = .ok d := by
    rw [Denomination.ofName, hd]
    rfl
  have hterms : Quantity.ofTerms x [{ unit := "s", exponent := 1 }] rates offset =
      .ok { magnitude := x, dims := Dimensions.none.insert ⟨d.category, "s", 1⟩ } := by
    simp only [Quantity.ofTerms, Quantity.absorbTerms, List.foldlM_cons, List.foldlM_nil, hof]
    rfl
  rw [hterms]
  refine yields_ok fun _ => ?_
  exact ⟨Dimensions.wellFormed_none.insert rfl Int.one_ne_zero ⟨d, hd, rfl⟩, rfl⟩

theorem yields_sub {ctx : Context} {left right : Value} (hl : left.Measured care)
    (hr : right.Measured care) :
    Yields care offset (Value.Atomic care) (sub ctx left right offset) := by
  unfold sub
  split
  · exact yields_numberOr _
  · rename_i p q
    have hp := fun hunits => (hl p rfl hunits).dims
    have hq := fun hunits => (hr q rfl hunits).dims
    refine (Quantity.yields_sub (fun h => hp (care.units_of_known h))
      (fun h => hq (care.units_of_known h))).bind fun r hdims => yields_pure ?_
    exact Value.ofAmount_atomic fun hunits => Quantity.toAmount_wellFormed (hdims ▸ hp hunits)
  · rename_i q x
    exact (Quantity.yields_plus q x.neg).bind fun r hdims => yields_pure fun hunits =>
      (hl q rfl hunits).of_dims_eq hdims
  · rename_i x q
    exact (Quantity.yields_plus _ x).bind fun r hdims => yields_pure fun hunits =>
      (hr q rfl hunits).of_dims_eq hdims
  · exact yields_shiftDate _ _ _
  · exact (yields_ofTerms_second _ _).bind fun r hr => yields_pure hr
  · exact yields_mismatch _ _ _

theorem yields_mul {ctx : Context} {left right : Value} (hl : left.Measured care)
    (hr : right.Measured care) :
    Yields care offset (Value.Atomic care) (mul ctx left right offset) := by
  unfold mul
  split
  · exact yields_numberOr _
  · rename_i x q
    exact (Quantity.yields_scale q x).bind fun r hdims => yields_pure fun hunits =>
      (hr q rfl hunits).of_dims_eq hdims
  · rename_i q x
    exact (Quantity.yields_scale q x).bind fun r hdims => yields_pure fun hunits =>
      (hl q rfl hunits).of_dims_eq hdims
  · rename_i p q
    exact (Quantity.yields_mul (fun h => (hl p rfl h).dims) fun h => (hr q rfl h).dims).bind
      fun r hr => yields_pure (Value.ofAmount_atomic hr)
  · exact yields_mismatch _ _ _

theorem yields_div {ctx : Context} {left right : Value} (hl : left.Measured care)
    (hr : right.Measured care) :
    Yields care offset (Value.Atomic care) (div ctx left right offset) := by
  unfold div
  split
  · exact yields_failAt rfl
  split
  · exact yields_numberOr _
  · exact yields_quantityOr (hl _ rfl) _
  · rename_i x q _
    exact (Quantity.yields_div (fun _ => Dimensions.wellFormed_none)
      fun h => (hr q rfl h).dims).bind fun r hr => yields_pure (Value.ofAmount_atomic hr)
  · rename_i p q _
    exact (Quantity.yields_div (fun h => (hl p rfl h).dims) fun h => (hr q rfl h).dims).bind
      fun r hr => yields_pure (Value.ofAmount_atomic hr)
  · exact yields_mismatch _ _ _

theorem yields_rem {ctx : Context} {left right : Value} (hl : left.Measured care)
    (hr : right.Measured care) :
    Yields care offset (Value.Atomic care) (rem ctx left right offset) := by
  unfold rem
  split
  · split
    · exact yields_failAt rfl
    · exact yields_numberOr _
  · split
    · exact yields_failAt rfl
    · exact yields_quantityOr (hl _ rfl) _
  · rename_i p q
    have hp := fun hunits => (hl p rfl hunits).dims
    have hq := fun hunits => (hr q rfl hunits).dims
    refine (Quantity.yields_rem (fun h => hp (care.units_of_known h))
      (fun h => hq (care.units_of_known h))).bind fun r hdims => yields_pure ?_
    exact Value.ofAmount_atomic fun hunits => Quantity.toAmount_wellFormed (hdims ▸ hp hunits)
  · exact yields_mismatch _ _ _

theorem yields_ofFloat (f : Float) : Yields care offset (fun _ => True) (ofFloat f offset) := by
  unfold ofFloat
  split
  · exact yields_ok trivial
  · exact yields_failAt rfl
  · exact yields_failAt rfl

theorem yields_powDecimal (base exponent : Decimal) :
    Yields care offset (fun _ => True) (powDecimal base exponent offset) := by
  unfold powDecimal
  split
  · refine (yields_toInteger _).bind fun n _ => ?_
    split
    · exact yields_failAt rfl
    · exact yields_orOverflow
  · split
    · exact yields_failAt rfl
    · split
      · exact yields_ok trivial
      · split
        · exact yields_ok trivial
        · exact yields_ofFloat _

theorem yields_powQuantity {q : Quantity} (hq : care.units → q.WellFormed) (exponent : Decimal) :
    Yields care offset (Value.Atomic care) (powQuantity q exponent offset) := by
  unfold powQuantity
  split
  · exact yields_failAt rfl
  · refine (yields_toInteger _).bind fun n _ => ?_
    split
    · exact yields_failAt rfl
    · split
      · exact yields_failAt rfl
      · exact (Quantity.yields_powInt (fun h => (hq h).dims) n).bind fun r hr =>
          yields_pure (Value.ofAmount_atomic hr)

theorem yields_pow {base exponent : Value} (hb : base.Measured care) :
    Yields care offset (Value.Atomic care) (pow base exponent offset) := by
  unfold pow
  split
  · exact (yields_powDecimal _ _).bind fun _ _ => yields_pure trivial
  · exact yields_powQuantity (hb _ rfl) _
  · exact yields_mismatch _ _ _

theorem yields_shiftAmount (n : Int) :
    Yields care offset (fun _ => True) (shiftAmount n offset) := by
  unfold shiftAmount
  split
  · exact yields_ok trivial
  · exact yields_failAt rfl

theorem yields_bitwise (op : BinaryOp) (left right : Value) :
    Yields care offset (Value.Atomic care) (bitwise op left right offset) := by
  unfold bitwise
  split
  · refine (yields_toInteger _).bind fun a _ => (yields_toInteger _).bind fun b _ => ?_
    split
    · exact yields_pure trivial
    · exact yields_pure trivial
    · exact (yields_shiftAmount _).bind fun _ _ => yields_pure trivial
    · exact (yields_shiftAmount _).bind fun _ _ => yields_pure trivial
    · exact yields_mismatch _ _ _
  · exact yields_mismatch _ _ _

theorem yields_unary {s : Session} {op : UnaryOp} {v : Value} (hv : v.Measured care) :
    Yields care offset (Value.Atomic care) (unary s op v offset) := by
  unfold unary
  split
  · exact yields_ok trivial
  · exact yields_ok trivial
  · exact yields_ok fun hunits => (hv _ rfl hunits).of_dims_eq rfl
  · exact yields_ok trivial
  · exact yields_ok (hv _ rfl)
  · exact yields_ok trivial
  · exact yields_ok fun hunits => (hv _ rfl hunits).of_dims_eq rfl
  · exact yields_failAt rfl

/-! ## Conversions and casts -/

theorem yields_dateInZone (d : Date) (name : String) :
    Yields care offset (Value.Atomic care)
      (do return .date (← d.inZoneNamed name offset)) := by
  exact (yields_inZoneNamed d name).bind fun _ _ => yields_pure trivial

theorem yields_convertUnits {ctx : Context} {v : Value} {terms : List UnitTerm}
    (hv : v.Measured care) (hterms : care.known → ∀ t ∈ terms, t.Resolves) :
    Yields care offset (Value.Atomic care) (convertUnits ctx v terms offset) := by
  unfold convertUnits
  split
  · split
    · exact yields_dateInZone _ _
    · exact yields_failAt rfl
  · rename_i q
    have hq : care.known → q.dims.WellFormed := fun h => (hv q rfl (care.units_of_known h)).dims
    refine (Quantity.yields_targetDims hterms).bind fun target htarget => ?_
    refine (Quantity.yields_convertTo hq fun h => htarget (care.units_of_known h)).bind
      fun r hr => yields_pure fun hunits => ?_
    exact ⟨hr.1 ▸ htarget hunits, hr.1 ▸ hr.2.trans (hv q rfl hunits).nonempty⟩
  · exact (Quantity.yields_ofTerms hterms).bind fun r hr => yields_pure
      (Value.ofAmount_atomic fun hunits => Quantity.toAmount_wellFormed (hr hunits))
  · exact yields_failAt rfl

theorem yields_convertZone (v : Value) (name : String) :
    Yields care offset (Value.Atomic care) (convertZone v name offset) := by
  unfold convertZone
  split
  · exact yields_dateInZone _ _
  · exact yields_failAt rfl

theorem yields_toNumber (v : Value) :
    Yields care offset (Value.Atomic care) (toNumber v offset) := by
  unfold toNumber
  split
  · exact yields_ok trivial
  · exact yields_ok trivial
  · exact yields_ok trivial
  · exact yields_ok trivial
  · split
    · exact yields_ok trivial
    · exact yields_failAt rfl
  · exact yields_failAt rfl

theorem yields_toDate (ctx : Context) (v : Value) :
    Yields care offset (Value.Atomic care) (toDate ctx v offset) := by
  unfold toDate
  split
  · exact yields_ok trivial
  · exact (yields_ofSeconds _ _ rfl).bind fun _ _ => yields_pure trivial
  · split
    · exact yields_ok trivial
    · exact yields_failAt rfl
  · exact yields_failAt rfl

/-! ## Literals -/

theorem yields_zoneOf (ctx : Context) (name : Option String) :
    Yields care offset (fun _ => True) (zoneOf ctx name offset) := by
  unfold zoneOf
  split
  · exact yields_ok trivial
  · split
    · exact yields_ok trivial
    · exact yields_failAt rfl

theorem yields_dateAt (wall : Option Wall) (zone : Zone) (label : Option String)
    (form : DateForm) :
    Yields care offset (Value.Atomic care) (dateAt wall zone label form offset) := by
  unfold dateAt
  split
  · exact yields_ok trivial
  · exact yields_failAt rfl

theorem yields_dayValue (ctx : Context) (spec : DaySpec) (zone : Option String) :
    Yields care offset (Value.Atomic care) (dayValue ctx spec zone offset) :=
  (yields_zoneOf ctx zone).bind fun _ _ => yields_dateAt _ _ _ _

theorem yields_timeValue (ctx : Context) (hour minute : Nat) (zone : Option String) :
    Yields care offset (Value.Atomic care) (timeValue ctx hour minute zone offset) :=
  (yields_zoneOf ctx zone).bind fun _ _ => yields_dateAt _ _ _ _

theorem yields_momentValue (ctx : Context) (spec : MomentSpec) (zone : Option String) :
    Yields care offset (Value.Atomic care) (momentValue ctx spec zone offset) := by
  refine (yields_zoneOf ctx zone).bind fun _ _ => ?_
  cases spec with
  | now => exact yields_pure trivial
  | reading wall => exact yields_dateAt _ _ _ _

theorem yields_shiftBy (d : Value) (op : BinaryOp) (amount : Value) (unit : CalendarUnit) :
    Yields care offset (Value.Atomic care) (shiftBy d op amount unit offset) := by
  refine (yields_asDate d).bind fun d _ => (yields_asNumber amount).bind fun x _ => ?_
  exact (yields_shift d _ unit).bind fun _ _ => yields_pure trivial

theorem yields_quantityOf {ctx : Context} {value : Decimal} {units : List UnitTerm}
    (hunits : care.known → ∀ t ∈ units, t.Resolves) :
    Yields care offset (Value.Atomic care) (quantityOf ctx value units offset) := by
  unfold quantityOf
  split
  · exact yields_ok trivial
  · exact (Quantity.yields_ofTerms hunits).bind fun r hr => yields_pure
      (Value.ofAmount_atomic fun h => Quantity.toAmount_wellFormed (hr h))

/-! ## Comparisons -/

theorem yields_compareValues {ctx : Context} {left right : Value} (hl : left.Measured care)
    (hr : right.Measured care) :
    Yields care offset (fun _ => True) (compareValues ctx left right offset) := by
  unfold compareValues
  split
  · exact yields_ok trivial
  · rename_i p q
    have hp : care.known → p.dims.WellFormed := fun h => (hl p rfl (care.units_of_known h)).dims
    have hq : care.known → q.dims.WellFormed := fun h => (hr q rfl (care.units_of_known h)).dims
    exact (Quantity.yields_convertTo hq hp).bind fun _ _ => yields_ok trivial
  · exact yields_ok trivial
  · exact yields_ok trivial
  · exact yields_ok trivial
  · exact yields_ok trivial
  · exact yields_ok trivial
  · exact yields_failAt rfl

/-! ## Aggregates of the history -/

theorem yields_shiftedDate (history : List Value) :
    Yields care offset (fun _ => True) (shiftedDate history offset) := by
  unfold shiftedDate
  split
  · rename_i d shifts _ _
    refine Yields.bind (P := fun _ => True) ?_ fun _ _ => yields_pure trivial
    exact yields_foldlM (fun d shift _ _ => yields_shift d shift.1 shift.2) trivial
  · exact yields_pure trivial

/-- The units of a running sum are well formed. -/
def RunningSum.WellFormed (t : RunningSum) : Prop := ∀ d, t.dims = some d → d.WellFormed

theorem yields_step {rates : RateTable} {t : RunningSum} {entry : Value}
    (ht : care.units → t.WellFormed) (hentry : entry.Measured care) :
    Yields care offset (fun t => care.units → t.WellFormed) (t.step rates offset entry) := by
  unfold RunningSum.step
  split
  · exact yields_orOverflow.bind fun _ _ => yields_pure ht
  · rename_i q
    have hgoal : care.units → (t.dims.getD q.dims).WellFormed := by
      intro hunits
      cases hdims : t.dims with
      | none => exact (hentry q rfl hunits).dims
      | some d => exact ht hunits d hdims
    have hsome : care.units → ∀ d, some (t.dims.getD q.dims) = some d → d.WellFormed := by
      intro hunits d hd
      cases hd
      exact hgoal hunits
    dsimp only
    split
    · refine (Quantity.yields_convertTo
        (fun h => (hentry q rfl (care.units_of_known h)).dims)
        (fun h => hgoal (care.units_of_known h))).bind fun _ _ => ?_
      exact yields_orOverflow.bind fun _ _ => yields_pure hsome
    · exact yields_pure hsome
  · exact yields_pure ht

theorem RunningSum.value_atomic {t : RunningSum} (ht : care.units → t.WellFormed)
    (kind : Aggregate) : (t.value kind).Atomic care := by
  unfold RunningSum.value
  cases hdims : t.dims with
  | none => trivial
  | some d =>
    exact Value.ofAmount_atomic fun hunits => Quantity.toAmount_wellFormed (ht hunits d hdims)

theorem yields_sumHistory {ctx : Context} (kind : Aggregate) {target : Option (List UnitTerm)}
    (hctx : ∀ v ∈ ctx.history, v.Measured care)
    (htarget : care.known → ∀ terms, target = some terms → ∀ t ∈ terms, t.Resolves) :
    Yields care offset (Value.Atomic care) (sumHistory ctx kind target offset) := by
  have hdims : Yields care offset (fun d? => care.units → ∀ d, d? = some d → d.WellFormed)
      (target.mapM fun terms => Quantity.targetDims terms ctx.rates offset) := by
    cases target with
    | none => exact yields_pure (by simp)
    | some terms =>
      rw [Option.mapM_some]
      refine (Quantity.yields_targetDims fun h => htarget h terms rfl).bind fun d hd => ?_
      refine yields_pure fun hunits d' hd' => ?_
      cases hd'
      exact hd hunits
  refine hdims.bind fun dims hdims => ?_
  refine (yields_foldlM (Q := fun t => care.units → t.WellFormed)
    (fun t v hv ht => yields_step ht (hctx v hv)) hdims).bind fun t ht => ?_
  split
  · exact yields_failAt rfl
  · exact yields_pure (RunningSum.value_atomic ht kind)

theorem yields_aggregate {ctx : Context} (kind : Aggregate) {target : Option (List UnitTerm)}
    (hctx : ∀ v ∈ ctx.history, v.Measured care)
    (htarget : care.known → ∀ terms, target = some terms → ∀ t ∈ terms, t.Resolves) :
    Yields care offset (Value.Atomic care) (aggregate ctx kind target offset) := by
  unfold aggregate
  split
  · refine (yields_shiftedDate _).bind fun date _ => ?_
    cases date with
    | some d => exact yields_pure trivial
    | none => exact yields_sumHistory _ hctx htarget
  · refine (yields_pure (P := fun _ => True) trivial).bind fun date _ => ?_
    cases date with
    | some d => exact yields_pure trivial
    | none => exact yields_sumHistory _ hctx htarget

/-! ## Functions on numbers -/

theorem yields_mapMagnitude {v : Value} (hv : v.Measured care) (f : Decimal → Decimal) :
    Yields care offset (Value.Atomic care) (mapMagnitude v offset f) := by
  unfold mapMagnitude
  split
  · exact yields_ok trivial
  · exact yields_ok fun hunits => (hv _ rfl hunits).of_dims_eq rfl
  · exact yields_wrongKind _ _

theorem yields_sqrt (v : Value) : Yields care offset (Value.Atomic care) (sqrt v offset) := by
  refine (yields_asNumber v).bind fun x _ => ?_
  split
  · exact yields_failAt rfl
  · split
    · exact yields_ok trivial
    · exact yields_failAt rfl

theorem yields_viaFloat (f : Float → Float) (v : Value) :
    Yields care offset (Value.Atomic care) (viaFloat f v offset) :=
  (yields_asNumber v).bind fun _ _ => (yields_ofFloat _).bind fun _ _ => yields_pure trivial

theorem yields_placesOf (v : Value) :
    Yields care offset (fun _ => True) (placesOf v offset) := by
  refine (yields_asNumber v).bind fun x _ => (yields_toInteger x).bind fun n _ => ?_
  split
  · exact yields_ok trivial
  · exact yields_failAt rfl

theorem yields_round {v : Value} (hv : v.Measured care) (places : Option Value) :
    Yields care offset (Value.Atomic care) (round v places offset) := by
  cases places with
  | none => exact yields_mapMagnitude hv _
  | some p => exact (yields_placesOf p).bind fun _ _ => yields_mapMagnitude hv _

theorem yields_sign (v : Value) : Yields care offset (Value.Atomic care) (sign v offset) := by
  refine (yields_asMagnitude v).bind fun x _ => ?_
  split
  · exact yields_pure trivial
  · exact yields_pure trivial
  · exact yields_pure trivial

theorem yields_exponential (v : Value) :
    Yields care offset (Value.Atomic care) (exponential v offset) := by
  refine (yields_asNumber v).bind fun x _ => ?_
  split
  · exact yields_pure trivial
  · exact (yields_ofFloat _).bind fun _ _ => yields_pure trivial

theorem yields_lnOf (x : Decimal) : Yields care offset (fun _ => True) (lnOf x offset) := by
  unfold lnOf
  split
  · exact yields_orFail rfl fun _ _ => trivial
  · exact yields_failAt rfl

theorem yields_log10Of (x : Decimal) :
    Yields care offset (fun _ => True) (log10Of x offset) := by
  unfold log10Of
  split
  · exact yields_orFail rfl fun _ _ => trivial
  · exact yields_failAt rfl

theorem yields_logOf (x base : Decimal) :
    Yields care offset (fun _ => True) (logOf x base offset) := by
  unfold logOf
  split
  · exact yields_log10Of x
  · refine (yields_lnOf base).bind fun denominator _ => ?_
    split
    · exact yields_failAt rfl
    · exact (yields_lnOf x).bind fun _ _ => yields_orFail rfl fun _ _ => trivial

theorem yields_log (v : Value) (base : Option Value) (usual : Decimal) :
    Yields care offset (Value.Atomic care) (log v base usual offset) := by
  refine (yields_asNumber v).bind fun x _ => ?_
  cases base with
  | none => exact (yields_logOf x usual).bind fun _ _ => yields_pure trivial
  | some b =>
    exact (yields_asNumber b).bind fun y _ => (yields_logOf x y).bind fun _ _ =>
      yields_pure trivial

theorem yields_ln (v : Value) : Yields care offset (Value.Atomic care) (ln v offset) :=
  (yields_asNumber v).bind fun x _ => (yields_lnOf x).bind fun _ _ => yields_pure trivial

theorem yields_factorial (v : Value) :
    Yields care offset (Value.Atomic care) (factorial v offset) := by
  refine (yields_asNumber v).bind fun x _ => (yields_toInteger x).bind fun n _ => ?_
  split
  · exact yields_failAt rfl
  · split
    · exact yields_ok trivial
    · exact yields_failAt rfl

theorem yields_gcd (v w : Value) : Yields care offset (Value.Atomic care) (gcd v w offset) :=
  (yields_asNumber v).bind fun x _ => (yields_toInteger x).bind fun _ _ =>
    (yields_asNumber w).bind fun y _ => (yields_toInteger y).bind fun _ _ => yields_pure trivial

theorem yields_lcm (v w : Value) : Yields care offset (Value.Atomic care) (lcm v w offset) := by
  refine (yields_asNumber v).bind fun x _ => (yields_toInteger x).bind fun a _ => ?_
  refine (yields_asNumber w).bind fun y _ => (yields_toInteger y).bind fun b _ => ?_
  split
  · exact yields_ok trivial
  · exact yields_failAt rfl

/-! ## Functions on texts -/

theorem yields_length (s : Session) (v : Value) :
    Yields care offset (Value.Atomic care) (length s v offset) := by
  unfold length
  split
  · exact yields_ok trivial
  · exact yields_ok trivial
  · exact yields_ok trivial
  · exact yields_wrongKind _ _

theorem yields_mapText (f : String → String) (v : Value) :
    Yields care offset (Value.Atomic care) (mapText f v offset) :=
  (yields_asString v).bind fun _ _ => yields_pure trivial

theorem yields_replace (v old new : Value) :
    Yields care offset (Value.Atomic care) (replace v old new offset) := by
  refine (yields_asString v).bind fun text _ => (yields_asString old).bind fun o _ => ?_
  refine (yields_asString new).bind fun n _ => ?_
  split
  · exact yields_failAt rfl
  · exact yields_pure trivial

theorem yields_contains (s : Session) (v part : Value) :
    Yields care offset (Value.Atomic care) (contains s v part offset) := by
  unfold contains
  split
  · exact yields_ok trivial
  · exact yields_ok trivial
  · exact yields_ok trivial
  · exact yields_wrongKind _ _

theorem yields_startsWith (v part : Value) :
    Yields care offset (Value.Atomic care) (startsWith v part offset) :=
  (yields_asString v).bind fun _ _ => (yields_asString part).bind fun _ _ => yields_pure trivial

theorem yields_endsWith (v part : Value) :
    Yields care offset (Value.Atomic care) (endsWith v part offset) :=
  (yields_asString v).bind fun _ _ => (yields_asString part).bind fun _ _ => yields_pure trivial

theorem yields_boundOf (v : Value) (length : Nat) :
    Yields care offset (fun _ => True) (boundOf v length offset) :=
  (yields_asNumber v).bind fun x _ => (yields_toInteger x).bind fun _ _ => yields_pure trivial

theorem yields_substring (v start : Value) (stop : Option Value) :
    Yields care offset (Value.Atomic care) (substring v start stop offset) := by
  refine (yields_asString v).bind fun text _ => (yields_boundOf start _).bind fun a _ => ?_
  cases stop with
  | none => exact yields_pure trivial
  | some w => exact (yields_boundOf w _).bind fun _ _ => yields_pure trivial

/-! ## Ranges and slices -/

theorem yields_rangeLength (start stop step : Decimal) :
    Yields care offset (fun _ => True) (rangeLength start stop step offset) := by
  refine (yields_orFail (P := fun _ => True) rfl fun _ _ => trivial).bind fun span _ => ?_
  dsimp only
  split
  · exact yields_toCount _
  · exact yields_ok trivial

theorem yields_rangeItems (start stop step : Decimal) :
    Yields care offset (fun items => ∀ v ∈ items, Value.Atomic care v)
      (rangeItems start stop step offset) := by
  unfold rangeItems
  split
  · exact yields_failAt rfl
  · refine (yields_rangeLength start stop step).bind fun n _ => ?_
    split
    · exact yields_failAt rfl
    · exact yields_mapM fun index _ => yields_orOverflow.bind fun _ _ => yields_pure trivial

theorem yields_sliceBound (v : Value) (length : Nat) :
    Yields care offset (fun _ => True) (sliceBound v length offset) :=
  (yields_asNumber v).bind fun x _ => (yields_toInteger x).bind fun _ _ => yields_pure trivial

theorem yields_sliceBounds (start : Value) (stop : Option Value) (length : Nat) :
    Yields care offset (fun _ => True) (sliceBounds start stop length offset) := by
  refine (yields_sliceBound start length).bind fun a _ => ?_
  cases stop with
  | none => exact yields_pure trivial
  | some w => exact (yields_sliceBound w length).bind fun _ _ => yields_pure trivial

/-! ## Dates and the host -/

theorem yields_partOf (part : DatePart) (v : Value) :
    Yields care offset (Value.Atomic care) (partOf part v offset) :=
  (yields_asDate v).bind fun _ _ => yields_pure trivial

theorem yields_timestamp (v : Value) :
    Yields care offset (Value.Atomic care) (timestamp v offset) :=
  (yields_asDate v).bind fun _ _ => yields_pure trivial

theorem yields_wholePart (v : Value) :
    Yields care offset (fun _ => True) (wholePart v offset) :=
  (yields_asNumber v).bind fun x _ => yields_toInteger x

theorem yields_dayOfParts (ctx : Context) (year month day : Value) :
    Yields care offset (Value.Atomic care) (dayOfParts ctx year month day offset) := by
  refine (yields_wholePart year).bind fun y _ => (yields_wholePart month).bind fun m _ => ?_
  refine (yields_wholePart day).bind fun d _ => ?_
  dsimp only
  split
  · exact yields_dayValue ctx _ none
  · exact yields_failAt rfl

theorem yields_envValue (ctx : Context) (v : Value) :
    Yields care offset (Value.Atomic care) (envValue ctx v offset) := by
  refine (yields_asString v).bind fun name _ => ?_
  split
  · exact yields_pure trivial
  · exact yields_pure trivial

/-! ## Parts of values -/

theorem yields_resolveIndex (index : Int) (length : Nat) :
    Yields care offset (fun _ => True) (resolveIndex index length offset) := by
  unfold resolveIndex
  split
  · exact yields_ok trivial
  · split
    · exact yields_ok trivial
    · exact yields_failAt rfl

/-- A part of a value is one of its items or entries, or else atomic. -/
theorem yields_access (s : Session) (v key : Value) :
    Yields care offset
      (fun w => w.Atomic care ∨ (∃ c, v = .array c ∧ w ∈ s.items c) ∨
        ∃ c k, v = .object c ∧ (s.entries c).find? k = some w)
      (access s v key offset) := by
  unfold access
  split
  · rename_i c x
    refine (yields_toInteger x).bind fun n _ => (yields_resolveIndex n _).bind fun i _ => ?_
    cases hi : (s.items c)[i]? with
    | none => exact yields_ok (.inl trivial)
    | some w => exact yields_ok (.inr (.inl ⟨c, rfl, Array.mem_of_getElem? hi⟩))
  · rename_i t x
    refine (yields_toInteger x).bind fun n _ => (yields_resolveIndex n _).bind fun i _ => ?_
    exact yields_ok (.inl trivial)
  · split
    · exact yields_ok (.inl trivial)
    · exact yields_failAt rfl
  · split
    · exact yields_ok (.inl trivial)
    · exact yields_failAt rfl
  · rename_i c
    refine (yields_asKey _).bind fun k _ => ?_
    cases hk : (s.entries c).find? k with
    | none => exact yields_ok (.inl trivial)
    | some w => exact yields_ok (.inr (.inr ⟨c, k, rfl, hk⟩))
  · split
    · exact yields_ok (.inl trivial)
    · exact yields_failAt rfl
  · split
    · exact yields_ok (.inl trivial)
    · exact yields_ok (.inl trivial)
    · exact yields_failAt rfl
  · exact yields_failAt rfl

end Eval

end Reckoner
