import Reckoner.Proofs.Assignment.Names
import Reckoner.Proofs.Quantity.Size

/-!
# Dates that are moved

A date is moved by an amount of a calendar unit in two ways.  Where a date is
written and an amount behind it, the parser sees the unit and makes one node of
them; everywhere else the amount is a quantity, and the operator finds out about
its unit when it is given a date.  Both ways come to the same.

* `quantityOf_calendar` and `calendarUnit?_calendar`: the quantity of such an
  amount, and its unit.
* `shiftBy_date` and `binary_date_quantity` are about values, `evalExpr_dateShift` is about nodes.
* `ofTokens_dated` and `ofTokens_named` are how the two kinds of source are read.
* `routes_agree` is the statement for values, nodes and sources.
-/

namespace Reckoner

/-! ## Units of the calendar -/

namespace MeasureUnit

/-- The unit of the calendar that a spelling stands for. -/
def calendarUnitOf? (name : String) : Option CalendarUnit := (find? name).bind (·.calendarUnit?)

theorem category_of_calendarUnit? : ∀ u ∈ all, u.calendarUnit?.isSome → u.category = .time := by
  decide

theorem exists_of_calendarUnitOf? {name : String} {c : CalendarUnit}
    (h : calendarUnitOf? name = some c) :
    ∃ u, find? name = some u ∧ u.category = .time ∧ u.calendarUnit? = some c := by
  obtain ⟨u, hu, hc⟩ := Option.bind_eq_some_iff.1 h
  exact ⟨u, hu, category_of_calendarUnit? u (mem_all_of_find? hu) (by rw [hc]; rfl), hc⟩

end MeasureUnit

namespace Eval

variable {ctx : Context} {call : Caller} {scope : Nat} {s : Session} {op : BinaryOp}
  {n : Decimal} {u : String} {c : CalendarUnit} {o o' : Nat}

/-- An amount of a unit of time. -/
def timeOf (n : Decimal) (u : String) : Quantity :=
  { magnitude := n, dims := ⟨[⟨.time, u, 1⟩]⟩ }

theorem ofTerms_calendar {rates : RateTable} (hu : MeasureUnit.calendarUnitOf? u = some c) :
    Quantity.ofTerms n [⟨u, 1⟩] rates o = .ok (timeOf n u) := by
  obtain ⟨unit, hfind, hcategory, -⟩ := MeasureUnit.exists_of_calendarUnitOf? hu
  have hname : Denomination.ofName? u = some (.unit unit) := by
    rw [Denomination.ofName?, hfind]
  have habsorb : Quantity.absorb { magnitude := n, dims := .none } (.unit unit) u 1 rates o =
      .ok (timeOf n u) := by
    rw [Quantity.absorb, Denomination.category, hcategory]
    rfl
  rw [Quantity.ofTerms, Quantity.absorbTerms, List.foldlM_cons, ofName_eq_ok hname]
  exact congrArg (· >>= _) habsorb

/-- A number with a unit of the calendar has a value, whatever the rates are. -/
theorem quantityOf_calendar (hu : MeasureUnit.calendarUnitOf? u = some c) :
    quantityOf ctx n [⟨u, 1⟩] o = .ok (.quantity (timeOf n u)) := by
  rw [quantityOf, ofTerms_calendar hu]
  rfl

theorem calendarUnit?_calendar (hu : MeasureUnit.calendarUnitOf? u = some c) :
    calendarUnit? (timeOf n u) = some c := by
  obtain ⟨unit, hfind, -, hc⟩ := MeasureUnit.exists_of_calendarUnitOf? hu
  show (if Category.time = .time ∧ (1 : Int) = 1 then _ else none) = some c
  rw [if_pos ⟨rfl, rfl⟩, ← hc]
  show (MeasureUnit.find? u >>= _) = _
  rw [hfind]
  rfl

/-- What a date is moved by: back by a difference. -/
def signed (op : BinaryOp) (n : Decimal) : Decimal := if op = .sub then n.neg else n

theorem shiftBy_date (d : Date) :
    shiftBy (.date d) op (.number n) c o = Value.date <$> d.shift (signed op n) c o := rfl

theorem binary_date_quantity (hop : op = .add ∨ op = .sub)
    (hu : MeasureUnit.calendarUnitOf? u = some c) (d : Date) :
    binary ctx op (.date d) (.quantity (timeOf n u)) o =
      liftM (Value.date <$> d.shift (signed op n) c o) := by
  rcases hop with rfl | rfl
  · simp only [binary, add, shiftDate, calendarUnit?_calendar hu]
    rfl
  · simp only [binary, sub, shiftDate, calendarUnit?_calendar hu]
    rfl

/-! ## Nodes -/

theorem exists_date_of_dateAt {wall : Option Wall} {zone : Zone} {label : Option String}
    {form : DateForm} {v : Value} (h : dateAt wall zone label form o = .ok v) :
    ∃ d, v = .date d := by
  unfold dateAt at h
  split at h
  · cases h
    exact ⟨_, rfl⟩
  · cases h

/-- A date literal has no value but a date. -/
theorem exists_date_of_evalExpr {e : Expr} {v : Value} {t : Session}
    (he : e.isDateLiteral = true) (h : evalExpr ctx call scope e s = .ok v t) :
    ∃ d, v = .date d := by
  cases e with
  | day spec zone offset =>
    rw [evalExpr] at h
    obtain ⟨p, -, hdate⟩ := ok_bind_eq_ok (lift_run_eq_ok_iff.1 h).1
    exact exists_date_of_dateAt hdate
  | time hour minute zone offset =>
    rw [evalExpr] at h
    obtain ⟨p, -, hdate⟩ := ok_bind_eq_ok (lift_run_eq_ok_iff.1 h).1
    exact exists_date_of_dateAt hdate
  | moment spec zone offset =>
    rw [evalExpr] at h
    obtain ⟨p, -, hdate⟩ := ok_bind_eq_ok (lift_run_eq_ok_iff.1 h).1
    cases spec with
    | now =>
      cases hdate
      exact ⟨_, rfl⟩
    | reading wall => exact exists_date_of_dateAt hdate
  | dateShift date op amount unit offset =>
    rw [evalExpr] at h
    cases hdate : evalExpr ctx call scope date s with
    | error stop s' =>
      rw [bind_of_error hdate] at h
      cases h
    | ok l s' =>
      rw [bind_of_ok hdate] at h
      cases hamount : evalExpr ctx call scope amount s' with
      | error stop s'' =>
        rw [bind_of_error hamount] at h
        cases h
      | ok r s'' =>
        rw [bind_of_ok hamount] at h
        obtain ⟨d, -, hshift⟩ := ok_bind_eq_ok (lift_run_eq_ok_iff.1 h).1
        obtain ⟨x, -, hshift⟩ := ok_bind_eq_ok hshift
        obtain ⟨moved, -, hshift⟩ := ok_bind_eq_ok hshift
        cases hshift
        exact ⟨moved, rfl⟩
  | _ => cases he

/-- The node of a date literal and an amount has the value of the sum or the difference. -/
theorem evalExpr_dateShift {e : Expr} (he : e.isDateLiteral = true)
    (hop : op = .add ∨ op = .sub) (hu : MeasureUnit.calendarUnitOf? u = some c) :
    evalExpr ctx call scope (.dateShift e op (.number n [] o') c o) s =
      evalExpr ctx call scope (.binary op e (.number n [⟨u, 1⟩] o') o) s := by
  have hnumber (t : Session) : evalExpr ctx call scope (.number n [] o') t = .ok (.number n) t := by
    rw [evalExpr]
    rfl
  have hquantity (t : Session) : evalExpr ctx call scope (.number n [⟨u, 1⟩] o') t =
      .ok (.quantity (timeOf n u)) t := by
    rw [evalExpr, quantityOf_calendar hu]
    rfl
  conv_lhs => rw [evalExpr]
  conv_rhs => rw [evalExpr]
  -- the date comes first on both sides, and without one neither gets to the amount
  cases hdate : evalExpr ctx call scope e s with
  | error stop t => rw [bind_of_error hdate, bind_of_error hdate]
  | ok v t =>
    obtain ⟨d, rfl⟩ := exists_date_of_evalExpr he hdate
    rw [bind_of_ok hdate, bind_of_ok hdate, bind_of_ok (hnumber t), bind_of_ok (hquantity t),
      binary_date_quantity hop hu, shiftBy_date]

end Eval

/-! ## Sources -/

namespace Grammar

variable {expr : Reader Expr} {op : BinaryOp} {n : Decimal} {u : String} {c : CalendarUnit}
  {o : Nat} {e : Expr} {date amount : List Placed}

/-- The tokens that are read as a date without a zone. -/
inductive DateToken : Placed → Expr → Prop where
  | today (o : Nat) : DateToken ⟨.keyword .today, o⟩ (.day .today none o)
  | tomorrow (o : Nat) : DateToken ⟨.keyword .tomorrow, o⟩ (.day .tomorrow none o)
  | yesterday (o : Nat) : DateToken ⟨.keyword .yesterday, o⟩ (.day .yesterday none o)
  | now (o : Nat) : DateToken ⟨.keyword .now, o⟩ (.moment .now none o)
  | day {text : String} {o : Nat} {e : Expr} (h : dayLiteral text o = .ok e) :
    DateToken ⟨.day text, o⟩ e
  | time {text : String} {o : Nat} {e : Expr} (h : timeLiteral text o = .ok e) :
    DateToken ⟨.time text, o⟩ e
  | dayTime {text : String} {o : Nat} {e : Expr} (h : momentLiteral text o = .ok e) :
    DateToken ⟨.dayTime text, o⟩ e

/-- A written date, with the name of a zone or without. -/
inductive DateTokens : List Placed → Expr → Prop where
  | plain {t : Placed} {e : Expr} (h : DateToken t e) : DateTokens [t] e
  | zoned {t : Placed} {e e' : Expr} {zone : String} {o : Nat} (h : DateToken t e)
      (hzone : e.inZone? zone = some e') : DateTokens [t, ⟨.zone zone, o⟩] e'

/-- A sign at `o`, a number and a unit, and then the end. -/
inductive AmountTokens (op : BinaryOp) (n : Decimal) (u : String) (o : Nat) : List Placed → Prop where
  | mk {m : Mark} {text : String} {unit : Token} {o₁ o₂ o₃ : Nat} (hop : sumOp? (.mark m) = some op)
      (hn : Decimal.parseNumber? text = some n) (hu : unit.unitName? = some u) :
    AmountTokens op n u o [⟨.mark m, o⟩, ⟨.number text, o₁⟩, ⟨unit, o₂⟩, ⟨.finish, o₃⟩]

theorem DateToken.operandAt {t : Placed} (h : DateToken t e) (ts : List Placed) :
    Grammar.operandAt expr t ts = .ok (e, ts) := by
  cases h with
  | today | tomorrow | yesterday | now => rfl
  | day h | time h | dayTime h =>
    simp only [Grammar.operandAt, h]
    rfl

theorem DateToken.isDateLiteral {t : Placed} (h : DateToken t e) : e.isDateLiteral = true := by
  cases h with
  | today | tomorrow | yesterday | now => rfl
  | day h =>
    unfold dayLiteral at h
    split at h <;> cases h
    rfl
  | time h =>
    unfold timeLiteral at h
    split at h <;> cases h
    rfl
  | dayTime h =>
    unfold momentLiteral at h
    split at h
    · obtain ⟨day, -, h⟩ := ok_bind_eq_ok h
      obtain ⟨time, -, h⟩ := ok_bind_eq_ok h
      cases h
      rfl
    · cases h

theorem inZone?_isDateLiteral {e' : Expr} {zone : String} (h : e.inZone? zone = some e') :
    e'.isDateLiteral = true := by
  unfold Expr.inZone? at h
  split at h <;> cases h <;> rfl

theorem DateTokens.isDateLiteral (h : DateTokens date e) : e.isDateLiteral = true := by
  cases h with
  | plain h => exact h.isDateLiteral
  | zoned _ hzone => exact inZone?_isDateLiteral hzone

/-- A token of a date starts neither a function nor a definition, and is no sign. -/
theorem DateToken.bindingName? {t : Placed} (h : DateToken t e) :
    t.token.bindingName? = none ∧ t.token ≠ .mark .leftParen ∧ unaryOp? t.token = none := by
  cases h <;> exact ⟨rfl, by simp, rfl⟩

theorem DateToken.operand {t : Placed} (h : DateToken t e) (ts : List Placed) :
    Grammar.operand expr (t :: ts) = .ok (e, ts) := by
  obtain ⟨hname, hparen, -⟩ := h.bindingName?
  have hahead : lambdaAhead (t :: ts) = false := by
    simp [lambdaAhead, hname, hparen]
  rw [Grammar.operand, if_neg (by simp [hahead])]
  exact h.operandAt ts

theorem DateTokens.product (h : DateTokens date e) (expr : Reader Expr) {rest : List Placed}
    (hrest : Follows .sum rest) : Grammar.product expr (date ++ rest) = .ok (e, rest) := by
  cases h with
  | plain h => exact product_of_operand (h.operand rest) hrest h.bindingName?.2.2
  | @zoned t e _ zone o h hzone =>
    refine product_of_suffixed ?_ hrest h.bindingName?.2.2
    rw [suffixed, h.operand]
    show suffixes expr (rest.length + 1) e (⟨.zone zone, o⟩ :: rest) = _
    rw [suffixes]
    dsimp only
    rw [hzone]
    exact suffixes_stop _ _ _ (hrest.mono (by decide))

theorem DateTokens.definitionHead? (h : DateTokens date e) (rest : List Placed) :
    Grammar.definitionHead? (date ++ rest) = none := by
  cases h with
  | plain h | zoned h _ => simp [Grammar.definitionHead?, h.bindingName?.1]

/-- The number and the unit of an amount are one operand. -/
theorem product_of_amount {text : String} {unit : Token} {o₁ o₂ o₃ : Nat}
    (hn : Decimal.parseNumber? text = some n) (hu : unit.unitName? = some u) :
    Grammar.product expr [⟨.number text, o₁⟩, ⟨unit, o₂⟩, ⟨.finish, o₃⟩] =
      .ok (.number n [⟨u, 1⟩] o₁, [⟨.finish, o₃⟩]) := by
  have hend : Follows .whole [⟨.finish, o₃⟩] := ⟨.whole, rfl, Nat.le_refl _⟩
  have hoperand : Grammar.operand expr [⟨.number text, o₁⟩, ⟨unit, o₂⟩, ⟨.finish, o₃⟩] =
      .ok (.number n [] o₁, [⟨unit, o₂⟩, ⟨.finish, o₃⟩]) := by
    rw [Grammar.operand, if_neg (by simp [lambdaAhead, Token.bindingName?])]
    simp only [Grammar.operandAt, numberLiteral, hn]
    rfl
  have hunits : numberSuffix? (.number n [] o₁) [⟨unit, o₂⟩, ⟨.finish, o₃⟩] =
      some (.number n [⟨u, 1⟩] o₁, [⟨.finish, o₃⟩]) := by
    simp [numberSuffix?, takeUnits?, takeTerm?, takeUnit?, hu, eat?, takePower?, moreTerms,
      unitSign?]
  refine product_of_suffixed ?_ (hend.mono (by decide)) rfl
  rw [suffixed, hoperand]
  show suffixes expr 2 _ [⟨unit, o₂⟩, ⟨.finish, o₃⟩] = _
  rw [suffixes_of_unitName? hu hunits]
  exact suffixes_stop _ _ _ (hend.mono (by decide))

theorem AmountTokens.follows (h : AmountTokens op n u o amount) : Follows .sum amount := by
  cases h with
  | @mk m _ _ _ _ _ hop _ _ =>
    cases m with
    | plus | minus => exact ⟨.sum, rfl, Nat.le_refl _⟩
    | _ => cases hop

/-- A sum that goes on to the end is the whole source. -/
theorem ofTokens_of_sum {source : List Placed} {final : Placed} (hfinal : final.token = .finish)
    (hlength : 2 ≤ source.length) (hhead : Grammar.definitionHead? source = none)
    (hsum : ∀ expr, Grammar.sum expr source = .ok (e, [final])) :
    Expr.ofTokens source = .ok e := by
  have hend : Follows .whole [final] := ⟨.whole, by rw [hfinal]; rfl, Nat.le_refl _⟩
  obtain ⟨d, hd⟩ := exists_depth source hlength
  have hstatement : statement (expression (d + 1)) source = .ok (e, [final]) := by
    cases source with
    | nil => cases hlength
    | cons t ts => exact statement_of_sum (hsum _) hend hhead
  rw [Expr.ofTokens, hd, complete, expression, hstatement]
  simp [hfinal]

/-- Something and an amount behind it. -/
theorem ofTokens_of_amount {left : List Placed} (h : AmountTokens op n u o amount)
    (hleft : ∀ expr, Grammar.product expr (left ++ amount) = .ok (e, amount))
    (hhead : Grammar.definitionHead? (left ++ amount) = none) :
    ∃ o', Expr.ofTokens (left ++ amount) = .ok (combineSum op o e (.number n [⟨u, 1⟩] o')) := by
  cases h with
  | @mk m text unit o₁ o₂ o₃ hop hn hu =>
    have hend : Follows .whole [⟨.finish, o₃⟩] := ⟨.whole, rfl, Nat.le_refl _⟩
    have hsum (expr : Reader Expr) :=
      sum_of_products hop (hleft expr) (product_of_amount hn hu) (hend.mono (by decide))
    exact ⟨o₁, ofTokens_of_sum rfl (by simp) hhead hsum⟩

theorem combineSum_date {o' : Nat} (he : e.isDateLiteral = true)
    (hu : MeasureUnit.calendarUnitOf? u = some c) :
    combineSum op o e (.number n [⟨u, 1⟩] o') = .dateShift e op (.number n [] o') c o := by
  have hamount : calendarAmount? (.number n [⟨u, 1⟩] o') = some (.number n [] o', c) := by
    show (if (1 : Int) = 1 then (MeasureUnit.calendarUnitOf? u).map _ else none) = _
    rw [if_pos rfl, hu]
    rfl
  rw [combineSum, if_pos he, hamount]

/-- A written date and an amount make one node. -/
theorem ofTokens_dated (hdate : DateTokens date e) (h : AmountTokens op n u o amount)
    (hu : MeasureUnit.calendarUnitOf? u = some c) :
    ∃ o', Expr.ofTokens (date ++ amount) = .ok (.dateShift e op (.number n [] o') c o) := by
  obtain ⟨o', hread⟩ := ofTokens_of_amount h (fun expr => hdate.product expr h.follows)
    (hdate.definitionHead? amount)
  exact ⟨o', by rw [hread, combineSum_date hdate.isDateLiteral hu]⟩

theorem combineSum_nodeOf {x : Placed} {o' : Nat} :
    combineSum op o (nodeOf x) (.number n [⟨u, 1⟩] o') =
      .binary op (nodeOf x) (.number n [⟨u, 1⟩] o') o := by
  unfold nodeOf
  split
  · split <;> rfl
  · rfl

/-- A name and an amount make a sum or a difference. -/
theorem ofTokens_named {x : Placed} {name : String} (hx : x.token.bindingName? = some name)
    (h : AmountTokens op n u o amount) :
    ∃ o', Expr.ofTokens (x :: amount) = .ok (.binary op (nodeOf x) (.number n [⟨u, 1⟩] o') o) := by
  have hfollows := h.follows
  have hread : ∃ o', Expr.ofTokens ([x] ++ amount) =
      .ok (combineSum op o (nodeOf x) (.number n [⟨u, 1⟩] o')) := by
    refine ofTokens_of_amount h (fun expr => ?_) ?_
    · cases h with
      | @mk m _ _ _ _ _ hop _ _ =>
        refine product_of_operand (operand_binding hx ?_ fun hparen => ?_) hfollows
          (unaryOp?_of_bindingName? hx)
        · rintro ⟨⟩
          cases hop
        · cases hparen
          cases hop
    · cases h with
      | @mk m _ _ _ _ _ hop _ _ =>
        cases m with
        | plus | minus => simp [Grammar.definitionHead?, hx, eat?]
        | _ => cases hop
  obtain ⟨o', hread⟩ := hread
  exact ⟨o', by rw [← combineSum_nodeOf, ← hread]; rfl⟩

/-- A written date alone. -/
theorem ofTokens_date {final : Placed} (hdate : DateTokens date e)
    (hfinal : final.token = .finish) : Expr.ofTokens (date ++ [final]) = .ok e := by
  have hend : Follows .whole [final] := ⟨.whole, by rw [hfinal]; rfl, Nat.le_refl _⟩
  have hlength : 2 ≤ (date ++ [final]).length := by
    cases hdate <;> simp
  refine ofTokens_of_sum hfinal hlength (hdate.definitionHead? _) fun expr => ?_
  rw [Grammar.sum, leftGrouped, hdate.product expr (hend.mono (by decide))]
  exact chain_sum_stop _ _ _ (hend.mono (by decide))

end Grammar

/-! ## Both ways -/

namespace Eval

open Grammar

/-- A date is moved by an amount of a calendar unit the same way however the source puts it.  The
amount has a quantity, and the date moved by the amount is the sum or the difference of the date and
that quantity.  Behind a written date the parser makes a node of its own, which has the value of the
operator's node, in every scope and with every error.  Thus a written date and a name bound to it
come to the same: the date moved, or the error of the move at the sign. -/
theorem routes_agree (ctx : Context) {op : BinaryOp} (hop : op = .add ∨ op = .sub) (n : Decimal)
    {u : String} {c : CalendarUnit} (hu : MeasureUnit.calendarUnitOf? u = some c) :
    (∀ o', ∃ q, quantityOf ctx n [⟨u, 1⟩] o' = .ok (.quantity q) ∧ ∀ d o s,
      (liftM (shiftBy (.date d) op (.number n) c o) : EvalM Value) s =
        binary ctx op (.date d) (.quantity q) o s) ∧
    (∀ e o o', e.isDateLiteral = true →
      combineSum op o e (.number n [⟨u, 1⟩] o') = .dateShift e op (.number n [] o') c o ∧
      ∀ call scope s, evalExpr ctx call scope (.dateShift e op (.number n [] o') c o) s =
        evalExpr ctx call scope (.binary op e (.number n [⟨u, 1⟩] o') o) s) ∧
    ∀ date e amount final x name amount' o o' s d, DateTokens date e → final.token = .finish →
      AmountTokens op n u o amount → AmountTokens op n u o' amount' →
      x.token.bindingName?.isSome → x.token.lookupName? = some name →
      evaluateTokens ctx (date ++ [final]) s = .ok (.date d) s →
      s.lookup s.root name = some (.date d) →
      evaluateTokens ctx (date ++ amount) s =
          (liftM (Value.date <$> d.shift (signed op n) c o) : EvalM Value) s ∧
        evaluateTokens ctx (x :: amount') s =
          (liftM (Value.date <$> d.shift (signed op n) c o') : EvalM Value) s := by
  have hquantity (call : Caller) (scope o : Nat) (t : Session) :
      evalExpr ctx call scope (.number n [⟨u, 1⟩] o) t = .ok (.quantity (timeOf n u)) t := by
    rw [evalExpr, quantityOf_calendar hu]
    rfl
  have hsum {e : Expr} {d : Date} {s : Session} (o o' : Nat)
      (hdate : evalExpr ctx (callValue ctx callBound) s.root e s = .ok (.date d) s) :
      evalExpr ctx (callValue ctx callBound) s.root (.binary op e (.number n [⟨u, 1⟩] o') o) s =
        (liftM (Value.date <$> d.shift (signed op n) c o) : EvalM Value) s := by
    conv_lhs => rw [evalExpr]
    rw [bind_of_ok hdate, bind_of_ok (hquantity _ _ _ _), binary_date_quantity hop hu]
  refine ⟨fun o' => ⟨timeOf n u, quantityOf_calendar hu, fun d o s => ?_⟩, fun e o o' he =>
    ⟨combineSum_date he hu, fun call scope s => evalExpr_dateShift he hop hu⟩, ?_⟩
  · rw [binary_date_quantity hop hu, shiftBy_date]
  · intro date e amount final x name amount' o o' s d hdate hfinal hamount hamount' hbinding hlookup
      hvalue hbound
    obtain ⟨a, hread⟩ := ofTokens_dated hdate hamount hu
    obtain ⟨y, hy⟩ := Option.isSome_iff_exists.1 hbinding
    obtain ⟨a', hread'⟩ := ofTokens_named hy hamount'
    rw [evaluateTokens_of_ok (ofTokens_date hdate hfinal)] at hvalue
    constructor
    · rw [evaluateTokens_of_ok hread, evalExpr_dateShift hdate.isDateLiteral hop hu]
      exact hsum o a hvalue
    · rw [evaluateTokens_of_ok hread']
      exact hsum o' a' (evalExpr_nodeOf hlookup hbound)

/-- The first of January 1970. -/
def newYear : Date := { instant := ⟨0, 0⟩, zone := .fixed 0, label := none, form := .day }

/-- A session in which that day has a name. -/
def newYearNamed : Session := Session.empty.bind 0 "x" (.date newYear)

theorem routes_agree_month :
    let december := Value.date { newYear with instant := ⟨-2678400, 0⟩ }
    MeasureUnit.calendarUnitOf? "month" = some .month ∧
      evaluate (.ofClock ⟨0, 0⟩ (.fixed 0)) "today" newYearNamed =
        .ok (.date newYear) newYearNamed ∧
      newYearNamed.lookup newYearNamed.root "x" = some (.date newYear) ∧
      evaluate (.ofClock ⟨0, 0⟩ (.fixed 0)) "today - 1 month" newYearNamed =
        .ok december newYearNamed ∧
      evaluate (.ofClock ⟨0, 0⟩ (.fixed 0)) "x - 1 month" newYearNamed =
        .ok december newYearNamed := by
  intro december
  have hu : MeasureUnit.calendarUnitOf? "month" = some .month := by decide
  have hone : Decimal.parseNumber? "1" = some .one := by decide
  have hmonth : (Token.function "month").unitName? = some "month" := by decide
  have hamount : AmountTokens .sub .one "month" 6
      [⟨.mark .minus, 6⟩, ⟨.number "1", 8⟩, ⟨.function "month", 10⟩, ⟨.finish, 15⟩] :=
    .mk rfl hone hmonth
  have hamount' : AmountTokens .sub .one "month" 2
      [⟨.mark .minus, 2⟩, ⟨.number "1", 4⟩, ⟨.function "month", 6⟩, ⟨.finish, 11⟩] :=
    .mk rfl hone hmonth
  have hlone : Token.tokenize "today" = [⟨.keyword .today, 0⟩] ++ [⟨.finish, 5⟩] := by
    decide
  have hdated : Token.tokenize "today - 1 month" = [⟨.keyword .today, 0⟩] ++
      [⟨.mark .minus, 6⟩, ⟨.number "1", 8⟩, ⟨.function "month", 10⟩, ⟨.finish, 15⟩] := by
    decide
  have hnamed : Token.tokenize "x - 1 month" = ⟨.name "x", 0⟩ ::
      [⟨.mark .minus, 2⟩, ⟨.number "1", 4⟩, ⟨.function "month", 6⟩, ⟨.finish, 11⟩] := by
    decide +kernel
  have hday : dayValue (.ofClock ⟨0, 0⟩ (.fixed 0)) .today none 0 = .ok (.date newYear) := rfl
  have hshift (o : Nat) : newYear.shift (signed .sub .one) .month o =
      .ok { newYear with instant := ⟨-2678400, 0⟩ } := rfl
  have hvalue : evaluateTokens (.ofClock ⟨0, 0⟩ (.fixed 0))
      ([⟨.keyword .today, 0⟩] ++ [⟨.finish, 5⟩]) newYearNamed =
        .ok (.date newYear) newYearNamed := by
    rw [evaluateTokens_of_ok (ofTokens_date (.plain (.today 0)) rfl), evalExpr, hday]
    rfl
  have hbound : newYearNamed.lookup newYearNamed.root "x" = some (.date newYear) := rfl
  obtain ⟨-, -, hsources⟩ := routes_agree (.ofClock ⟨0, 0⟩ (.fixed 0)) (.inr rfl) .one hu
  obtain ⟨hsource, hsource'⟩ := hsources _ _ _ _ ⟨.name "x", 0⟩ "x" _ _ _ newYearNamed newYear
    (.plain (.today 0)) rfl hamount hamount' rfl rfl hvalue hbound
  refine ⟨hu, ?_, hbound, ?_, ?_⟩
  · rw [evaluate_eq, hlone, hvalue]
  · rw [evaluate_eq, hdated, hsource, hshift]
    rfl
  · rw [evaluate_eq, hnamed, hsource', hshift]
    rfl

end Eval

end Reckoner
