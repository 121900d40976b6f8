import Reckoner.Proofs.Quantity.Invariant
import Reckoner.Proofs.Token.Fidelity

/-!
# Trees of sources are sound

What the reader takes for a unit, a zone, a day or a time is one.  This module
draws the conclusions for the tree of a source and for its evaluation.

* `Grammar.MissingDay`: the one reason for which a token of a day or a time
  does not become a node (`Grammar.operandAt_stamp`).
* `Eval.Dated`: how the evaluation of a date literal ends, by induction on the
  shifts it is made of (`Eval.dated_evalExpr`).
* `Expr.sound_of_parse`: both, with what holds of every node.
-/

namespace Reckoner

/-! ## Days and times -/

namespace Grammar

/-- The text of a day that no calendar has, as its month is shorter. -/
def MissingDay (text : List Char) : Prop :=
  ∃ day month year, Token.dayFields? text = some (day, month, year) ∧ 1 ≤ month ∧ month ≤ 12 ∧
    Day.daysInMonth year month < day

/-- The text of the day in a token of a day, with or without a time. -/
def dayText? : Token → Option (List Char)
  | .day text => some text.toList
  | .dayTime text => some (Text.splitOnce 'T' text.toList).1
  | _ => none

/-- Whether a token is a day, a time or both. -/
def isStamp : Token → Bool
  | .day _ | .time _ | .dayTime _ => true
  | _ => false

theorem dayOf_of_isDay {text : List Char} (h : Token.isDay text = true) (offset : Nat) :
    (∃ day, dayOf text offset = .ok day) ∨ MissingDay text := by
  unfold Token.isDay at h
  split at h
  · rename_i d m y hfields
    simp only [Bool.and_eq_true, decide_eq_true_eq] at h
    obtain ⟨⟨⟨⟨⟨hd, -⟩, hm⟩, hm'⟩, hy⟩, hy'⟩ := h
    by_cases hlength : d ≤ Day.daysInMonth y m
    · left
      have hyear : Day.yearInRange y = true := by
        rw [Day.yearInRange, Bool.and_eq_true]
        refine ⟨decide_eq_true ?_, decide_eq_true ?_⟩
        · rw [Day.minYear]
          omega
        · rw [Day.maxYear]
          omega
      have hparts : Day.ofParts? y m d = some { year := y, month := m, day := d } := by
        simp [Day.ofParts?, hyear, hd, hm, hm', hlength]
      refine ⟨{ year := y, month := m, day := d }, ?_⟩
      rw [dayOf, hfields, Option.bind_some]
      dsimp only
      rw [hparts]
    · exact .inr ⟨d, m, y, hfields, hm, hm', Nat.lt_of_not_le hlength⟩
  · cases h

theorem timeOf_of_isTime {text : List Char} (h : Token.isTime text = true) (offset : Nat) :
    ∃ p, timeOf text offset = .ok p := by
  unfold Token.isTime at h
  split at h
  · rename_i hour minute hfields
    simp only [Bool.and_eq_true, decide_eq_true_eq] at h
    exact ⟨(hour, minute), by rw [timeOf, hfields]; exact if_pos (by omega)⟩
  · cases h

/-- A token of a day or a time becomes a date literal, unless its day is
missing. -/
theorem operandAt_stamp {t : Placed} (ht : t.Known) (hstamp : isStamp t.token = true)
    (expr : Reader Expr) (ts : List Placed) :
    (∃ e, operandAt expr t ts = .ok (e, ts) ∧ e.isDateLiteral = true) ∨
      ∃ text, dayText? t.token = some text ∧ MissingDay text := by
  obtain ⟨token, offset⟩ := t
  have hgenuine := ht.genuine
  cases token with
  | day text =>
    rcases dayOf_of_isDay hgenuine offset with ⟨day, hday⟩ | hmissing
    · have hliteral : dayLiteral text offset = .ok (.day (.calendar day) none offset) := by
        rw [dayLiteral, hday]
      exact .inl ⟨_, by simp only [operandAt, hliteral]; rfl, rfl⟩
    · exact .inr ⟨_, rfl, hmissing⟩
  | time text =>
    obtain ⟨⟨hour, minute⟩, htime⟩ := timeOf_of_isTime hgenuine offset
    have hliteral : timeLiteral text offset = .ok (.time hour minute none offset) := by
      rw [timeLiteral, htime]
    exact .inl ⟨_, by simp only [operandAt, hliteral]; rfl, rfl⟩
  | dayTime text =>
    obtain ⟨front, back, hsplit, hfront, hback⟩ := hgenuine
    obtain ⟨⟨hour, minute⟩, htime⟩ := timeOf_of_isTime hback offset
    rcases dayOf_of_isDay hfront offset with ⟨day, hday⟩ | hmissing
    · have hliteral : momentLiteral text offset =
          .ok (.moment (.reading (Wall.onDay day hour minute 0 0)) none offset) := by
        rw [momentLiteral, hsplit]
        dsimp only
        rw [hday, htime]
        rfl
      exact .inl ⟨_, by simp only [operandAt, hliteral]; rfl, rfl⟩
    · exact .inr ⟨front, by rw [dayText?, hsplit], hmissing⟩
  | _ => cases hstamp

end Grammar

/-! ## Evaluation of date literals -/

/-- Whether a cause is a zone that does not exist, or a value of a kind other
than the one that is asked for. -/
def Cause.isMisfit : Cause → Bool
  | .unknownZone _ | .typing (.expected _ _) => true
  | _ => false

namespace Eval

/-- A computation that does not fail for a misfit. -/
def Matches {α : Type} (c : Checked α) : Prop := ∀ e, c = .error e → e.cause.isMisfit = false

section

variable {α β : Type} {offset : Nat}

theorem matches_ok (x : α) : Matches (.ok x : Checked α) := fun e h => by cases h

theorem matches_failAt {cause : Cause} (h : cause.isMisfit = false) :
    Matches (failAt offset cause : Checked α) := by
  intro e he
  cases he
  exact h

theorem Matches.bind {c : Checked α} {f : α → Checked β} (hc : Matches c)
    (hf : ∀ x, c = .ok x → Matches (f x)) : Matches (c >>= f) := by
  cases c with
  | ok x => exact hf x rfl
  | error e =>
    intro e' he
    cases he
    exact hc e rfl

theorem matches_orFail {cause : Cause} (h : cause.isMisfit = false) (x? : Option α) :
    Matches (orFail offset cause x?) := by
  cases x? with
  | some x => exact matches_ok x
  | none => exact matches_failAt h

theorem matches_toInteger (x : Decimal) : Matches (x.toInteger offset) := by
  rw [Decimal.toInteger]
  split
  · exact matches_failAt rfl
  · exact matches_orFail rfl _

theorem matches_atWall (d : Date) (wall : Option Wall) : Matches (d.atWall wall offset) := by
  unfold Date.atWall
  split
  · exact matches_ok _
  · exact matches_failAt rfl

theorem matches_shiftDuration (d : Date) (amount : Decimal) (unit : CalendarUnit) :
    Matches (d.shiftDuration amount unit offset) := by
  have hmillis : Matches (Date.durationMillis amount unit offset) :=
    (matches_orFail rfl _).bind fun _ _ => (matches_orFail rfl _).bind fun _ _ =>
      matches_toInteger _
  exact hmillis.bind fun _ _ => (matches_orFail rfl _).bind fun _ _ => matches_ok _

theorem matches_shift (d : Date) (amount : Decimal) (unit : CalendarUnit) :
    Matches (d.shift amount unit offset) := by
  have hdays (size : Int) : Matches (d.shiftDays amount size offset) :=
    (matches_toInteger _).bind fun _ _ => matches_atWall _ _
  have hmonths (size : Int) : Matches (d.shiftMonths amount size offset) :=
    (matches_toInteger _).bind fun _ _ => matches_atWall _ _
  unfold Date.shift
  split
  · split
    · exact hdays 1
    · exact matches_shiftDuration d amount .day
  · split
    · exact hdays 7
    · exact matches_shiftDuration d amount .week
  · split
    · exact hmonths 1
    · exact matches_failAt rfl
  · split
    · exact hmonths 12
    · exact matches_failAt rfl
  all_goals exact matches_shiftDuration d amount _

/-- A date, or an error other than a misfit; the session is as it was. -/
inductive Dated (s : Session) : EStateM.Result Stop Session Value → Prop where
  | ok (d : Date) : Dated s (.ok (.date d) s)
  | error {e : Error} (h : e.cause.isMisfit = false) : Dated s (.error (.fault e) s)

theorem dated_lift {s : Session} {c : Checked Date} (hc : Matches c) :
    Dated s ((liftM (do return .date (← c) : Checked Value) : EvalM Value) s) := by
  cases c with
  | ok d => exact .ok d
  | error e => exact .error (hc e rfl)

theorem Dated.bind {s : Session} {m : EvalM Value} {f : Value → EvalM Value} (hm : Dated s (m s))
    (hf : ∀ d, Dated s (f (.date d) s)) : Dated s ((m >>= f) s) := by
  show Dated s (EStateM.bind m f s)
  unfold EStateM.bind
  generalize m s = res at hm
  cases hm with
  | ok d => exact hf d
  | error h => exact .error h

/-- A zone that exists is found. -/
theorem exists_zoneOf {zone : Option String} (ctx : Context) (offset : Nat)
    (h : ∀ name ∈ zone, (Zone.parse? name).isSome) : ∃ p, zoneOf ctx zone offset = .ok p := by
  cases zone with
  | none => exact ⟨_, rfl⟩
  | some name =>
    obtain ⟨z, hz⟩ := Option.isSome_iff_exists.1 (h name rfl)
    have hfound : zoneOf ctx (some name) offset = .ok (z, some name) := by
      unfold zoneOf
      simp only [hz]
    exact ⟨_, hfound⟩

theorem dated_dateAt (s : Session) (wall : Option Wall) (zone : Zone) (label : Option String)
    (form : DateForm) :
    Dated s ((liftM (dateAt wall zone label form offset) : EvalM Value) s) := by
  unfold dateAt
  split
  · exact .ok _
  · exact .error rfl

/-- A date literal gives a date, unless the date is out of range or is moved by
something that dates cannot be moved by. -/
theorem dated_evalExpr {e : Expr} (he : e.Grounded) (hdate : e.isDateLiteral = true) (ctx : Context)
    (call : Caller) (scope : Nat) (s : Session) : Dated s (evalExpr ctx call scope e s) := by
  induction he with
  | @node e here below ih =>
    cases e with
    | day spec zone offset =>
      obtain ⟨p, hp⟩ := exists_zoneOf ctx offset here
      simp only [evalExpr, dayValue, hp]
      exact dated_dateAt s _ _ _ _
    | time hour minute zone offset =>
      obtain ⟨p, hp⟩ := exists_zoneOf ctx offset here
      simp only [evalExpr, timeValue, hp]
      exact dated_dateAt s _ _ _ _
    | moment spec zone offset =>
      obtain ⟨p, hp⟩ := exists_zoneOf ctx offset here
      simp only [evalExpr, momentValue, hp]
      cases spec with
      | now => exact .ok _
      | reading wall => exact dated_dateAt s _ _ _ _
    | dateShift date op amount unit offset =>
      obtain ⟨-, hliteral, value, o, rfl⟩ := here
      rw [evalExpr]
      refine (ih date List.mem_cons_self hliteral).bind fun d => ?_
      exact dated_lift (matches_shift d _ unit)
    | _ => cases hdate

end

end Eval

/-! ## The tree of a source -/

namespace Expr

/-- What holds of an expression that its parts inherit holds of every node. -/
theorem Every.everywhere {P : Expr → Prop} {e : Expr} (h : e.Every P) :
    e.Every fun n => n.Every P :=
  every_of_inherited (fun _ hn c hc => hn.child c hc) h

/-- The units of a node are known, as those of a number and as those that a
quantity is converted into. -/
theorem Sound.isUnknownUnit_eq_false {n : Expr} (hn : n.Sound) (rates : RateTable) (offset : Nat)
    {error : Error}
    (h : (∃ value, Quantity.ofTerms value n.units rates offset = .error error) ∨
      Quantity.targetDims n.units rates offset = .error error) :
    error.cause.isUnknownUnit = false := by
  let care : Care := { units := True, known := True, units_of_known := id }
  have hunits : care.known → ∀ t ∈ n.units, t.Resolves := fun _ => hn.resolves
  rcases h with ⟨value, h⟩ | h
  · have hyields : Yields care offset _ (Quantity.ofTerms value n.units rates offset) :=
      Quantity.yields_ofTerms hunits
    rw [h] at hyields
    cases hyields with
    | error he => exact he.known trivial
  · have hyields : Yields care offset _ (Quantity.targetDims n.units rates offset) :=
      Quantity.yields_targetDims hunits
    rw [h] at hyields
    cases hyields with
    | error he => exact he.known trivial

/-- Of a source that can be read: every node of the tree is sound, also in the
bodies of functions and in strings; a token of a day or a time becomes a date
literal unless the calendar lacks its day; and evaluation never comes upon an
unknown unit, nor on an unknown zone or a value of the wrong kind in a date
literal. -/
theorem sound_of_parse {source : String} {e : Expr} (h : parse source = .ok e) :
    (e.Every fun n => n.Sound ∧
      (∀ rates offset error, ((∃ value, Quantity.ofTerms value n.units rates offset = .error error) ∨
        Quantity.targetDims n.units rates offset = .error error) →
        error.cause.isUnknownUnit = false) ∧
      (n.isDateLiteral = true → ∀ ctx call scope s,
        Eval.Dated s (Eval.evalExpr ctx call scope n s))) ∧
    (∀ text offset, Token.Relexed source text offset → ∀ t ∈ Grammar.tokensAt text offset,
      Grammar.isStamp t.token = true → ∀ expr ts,
        (∃ n, Grammar.operandAt expr t ts = .ok (n, ts) ∧ n.isDateLiteral = true) ∨
          ∃ day, Grammar.dayText? t.token = some day ∧ Grammar.MissingDay day) ∧
    ∀ ctx s, (∀ v ∈ ctx.history, v.WellFormed) → s.WellFormed → s.Sourced →
      ∀ fault t, evaluate ctx source s = .error (.fault fault) t →
        fault.cause.isUnknownUnit = false := by
  refine ⟨?_, fun text offset _ t ht hstamp expr ts => ?_, fun ctx s hhistory hs hsourced => ?_⟩
  · refine (parse_grounded h).everywhere.imp fun n hn => ⟨hn.here, ?_, ?_⟩
    · exact fun rates offset error herror => hn.here.isUnknownUnit_eq_false rates offset herror
    · exact fun hdate ctx call scope s => Eval.dated_evalExpr hn hdate ctx call scope s
  · exact Grammar.operandAt_stamp (Grammar.known_of_mem_tokensAt text offset t ht) hstamp expr ts
  · intro fault t heq
    have hrun := ends_evaluate source hhistory hs
    rw [heq] at hrun
    cases hrun with
    | error step hstop => exact hstop.2 hsourced

/-- A function with a template in its body, and in this a shift of a date with
a zone. -/
theorem sound_of_parse_template :
    ∃ e, parse "x => \x60$\x7b15.03.2024 utc + 2 days\x7d\x60" = .ok e ∧ e.Every Sound ∧
      ∀ fault t, evaluate (.ofClock ⟨0, 0⟩ (.fixed 0))
          "x => \x60$\x7b15.03.2024 utc + 2 days\x7d\x60" .empty = .error (.fault fault) t →
        fault.cause.isUnknownUnit = false := by
  have hread : (parse "x => \x60$\x7b15.03.2024 utc + 2 days\x7d\x60").isOk = true := by
    decide +kernel
  cases h : parse "x => \x60$\x7b15.03.2024 utc + 2 days\x7d\x60" with
  | error error =>
    rw [h] at hread
    cases hread
  | ok e =>
    obtain ⟨hnodes, -, hrun⟩ := sound_of_parse h
    refine ⟨e, rfl, hnodes.imp fun n hn => hn.1, hrun _ .empty ?_ ?_ ?_⟩
    · exact List.forall_mem_nil _
    · exact Session.all_empty _
    · exact Session.all_empty _

end Expr

end Reckoner
