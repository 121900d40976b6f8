import Reckoner.Eval.Expression
import Reckoner.Proofs.Outcome
import Mathlib.Data.List.Basic

/-!
# Dates in a history

A total without a target either moves a date or does not see dates at all.

* `Schedule` is the one form of a history that moves a date: a single date, no
  plain number, and no quantity but those of one calendar unit.
* `shiftedDate_of_schedule` and `shiftedDate_of_no_schedule` tell the two cases
  apart; `foldlM_shift_eq_add` identifies the shifts with sums of a date and a
  quantity.
* `total_of_dated_history` is the statement for all histories.
-/

namespace Reckoner

/-- A single time of power one, in a unit of the calendar. -/
def Quantity.IsCalendar (q : Quantity) : Prop :=
  ∃ name u, q.dims.terms = [⟨.time, name, 1⟩] ∧ MeasureUnit.find? name = some u ∧
    u.calendarUnit?.isSome

namespace Eval

/-- Whether a value is a date. -/
def isDate : Value → Bool
  | .date _ => true
  | _ => false

/-- The quantities of a history. -/
def quantitiesOf (history : List Value) : List Quantity :=
  history.filterMap fun
    | .quantity q => some q
    | _ => none

/-- A history of one date and of shifts in calendar units. -/
structure Schedule (history : List Value) (d : Date) : Prop where
  single : ∃ before after, history = before ++ .date d :: after ∧
    ∀ v ∈ before ++ after, isDate v = false
  numbers : ∀ x, .number x ∉ history
  quantities : ∀ q, .quantity q ∈ history → q.IsCalendar

/-- A date moved by one amount after the other. -/
def shiftAll (d : Date) (shifts : List (Decimal × CalendarUnit)) (offset : Nat) : Checked Date :=
  shifts.foldlM (fun d x => d.shift x.1 x.2 offset) d

variable {history : List Value} {d : Date} {q : Quantity} {offset : Nat}

/-! ## Which histories move a date -/

theorem Schedule.mem (h : Schedule history d) : .date d ∈ history := by
  obtain ⟨before, after, rfl, -⟩ := h.single
  exact List.mem_append_right _ List.mem_cons_self

theorem calendarUnit?_isSome_iff : (calendarUnit? q).isSome ↔ q.IsCalendar := by
  constructor
  · intro h
    obtain ⟨unit, hunit⟩ := Option.isSome_iff_exists.1 h
    obtain ⟨t, ht, hunit⟩ := Option.bind_eq_some_iff.1 hunit
    rw [Dimensions.single?] at ht
    split at ht
    case h_2 => cases ht
    case h_1 heq =>
      cases ht
      split at hunit
      case isFalse => cases hunit
      case isTrue hterm =>
        obtain ⟨u, hu, hcalendar⟩ := Option.bind_eq_some_iff.1 hunit
        obtain ⟨hcategory, hexponent⟩ := hterm
        refine ⟨t.unit, u, ?_, hu, by rw [hcalendar]; rfl⟩
        rw [heq, ← hcategory, ← hexponent]
  · rintro ⟨name, u, hterms, hu, hcalendar⟩
    have hunit : calendarUnit? q = u.calendarUnit? := by
      simp [calendarUnit?, Dimensions.single?, hterms, hu]
    rwa [hunit]

theorem calendarShifts?_isSome_iff : (calendarShifts? history).isSome ↔
    (∀ x, .number x ∉ history) ∧ ∀ q, .quantity q ∈ history → q.IsCalendar := by
  induction history with
  | nil => simp [calendarShifts?]
  | cons v rest ih =>
    cases v with
    | number x =>
      refine iff_of_false (by simp [calendarShifts?]) fun h => ?_
      exact h.1 x List.mem_cons_self
    | quantity q =>
      cases hunit : calendarUnit? q with
      | none =>
        have hq : ¬q.IsCalendar := by
          rw [← calendarUnit?_isSome_iff, hunit]
          simp
        refine iff_of_false (by simp [calendarShifts?, hunit]) fun h => ?_
        exact hq (h.2 q List.mem_cons_self)
      | some unit =>
        have hq : q.IsCalendar := by
          rw [← calendarUnit?_isSome_iff, hunit]
          rfl
        simp [calendarShifts?, hunit, ih, hq]
    | _ => simp [calendarShifts?, ih]

theorem datesOf_eq_singleton_iff : datesOf history = [d] ↔
    ∃ before after, history = before ++ .date d :: after ∧
      ∀ v ∈ before ++ after, isDate v = false := by
  have hnone : ∀ vs : List Value, datesOf vs = [] ↔ ∀ v ∈ vs, isDate v = false := by
    intro vs
    rw [datesOf, List.filterMap_eq_nil_iff]
    refine forall₂_congr fun v _ => ?_
    cases v <;> simp [isDate]
  constructor
  · intro h
    obtain ⟨before, v, after, rfl, hbefore, hv, hafter⟩ := List.filterMap_eq_cons_iff.1 h
    cases v <;> cases hv
    refine ⟨before, after, rfl, fun v hv => ?_⟩
    rcases List.mem_append.1 hv with hv | hv
    · exact (hnone before).1 (List.filterMap_eq_nil_iff.2 hbefore) v hv
    · exact (hnone after).1 hafter v hv
  · rintro ⟨before, after, rfl, hother⟩
    have hbefore := (hnone before).2 fun v hv => hother v (List.mem_append_left _ hv)
    have hafter := (hnone after).2 fun v hv => hother v (List.mem_append_right _ hv)
    rw [datesOf] at hbefore hafter
    rw [datesOf, List.filterMap_append, List.filterMap_cons, hbefore, hafter]
    rfl

theorem schedule_iff :
    Schedule history d ↔ datesOf history = [d] ∧ (calendarShifts? history).isSome := by
  rw [datesOf_eq_singleton_iff, calendarShifts?_isSome_iff]
  exact ⟨fun h => ⟨h.single, h.numbers, h.quantities⟩, fun ⟨hd, hx, hq⟩ => ⟨hd, hx, hq⟩⟩

/-- The date that a list of shifts leads to. -/
theorem shiftedDate_of_schedule (h : Schedule history d) (offset : Nat) :
    ∃ shifts, calendarShifts? history = some shifts ∧
      shiftedDate history offset = some <$> shiftAll d shifts offset := by
  obtain ⟨hd, hshifts⟩ := schedule_iff.1 h
  obtain ⟨shifts, hshifts⟩ := Option.isSome_iff_exists.1 hshifts
  refine ⟨shifts, hshifts, ?_⟩
  rw [shiftedDate, hd, hshifts]
  rfl

theorem shiftedDate_of_no_schedule (h : ¬∃ d, Schedule history d) :
    shiftedDate history offset = .ok none := by
  rw [shiftedDate]
  split
  case h_1 d shifts hd hshifts =>
    exact absurd ⟨d, schedule_iff.2 ⟨hd, by rw [hshifts]; rfl⟩⟩ h
  case h_2 => rfl

/-! ## Shifts as sums -/

variable {ctx : Context} {call : Caller} {scope : Nat}

/-- Adding the quantities to a date, one after the other, moves it by their calendar amounts: the
error of the first shift that fails is that of the whole. -/
theorem foldlM_shift_eq_add {shifts : List (Decimal × CalendarUnit)}
    (h : calendarShifts? history = some shifts) (d : Date) :
    (quantitiesOf history).foldlM (fun v q => binary ctx .add v (.quantity q) offset) (.date d) =
      liftM (Value.date <$> shiftAll d shifts offset) := by
  induction history generalizing shifts d with
  | nil =>
    cases h
    rfl
  | cons v rest ih =>
    cases v with
    | number x => cases h
    | quantity q =>
      cases hunit : calendarUnit? q with
      | none => simp [calendarShifts?, hunit] at h
      | some unit =>
        simp only [calendarShifts?, hunit, Option.map_eq_some_iff] at h
        obtain ⟨later, hlater, rfl⟩ := h
        have hadd : binary ctx .add (.date d) (.quantity q) offset =
            liftM (Value.date <$> d.shift q.magnitude unit offset) := by
          simp [binary, add, shiftDate, hunit]
        show (q :: quantitiesOf rest).foldlM _ _ = _
        rw [List.foldlM_cons, shiftAll, List.foldlM_cons, hadd]
        cases hmoved : d.shift q.magnitude unit offset with
        | error e => rfl
        | ok moved => exact ih hlater moved
    | _ => exact ih h d

/-! ## Totals -/

theorem aggregate_of_no_schedule (h : ¬∃ d, Schedule ctx.history d) (kind : Aggregate)
    (target : Option (List UnitTerm)) :
    aggregate ctx kind target offset = sumHistory ctx kind target offset := by
  rw [aggregate.eq_def]
  split
  · rw [shiftedDate_of_no_schedule h]
    rfl
  · rfl

theorem sumHistory_without_dates (kind : Aggregate) (target : Option (List UnitTerm)) :
    sumHistory { ctx with history := ctx.history.filter (!isDate ·) } kind target offset =
      sumHistory ctx kind target offset := by
  have hstep : (fun t v => if (!isDate v) = true then RunningSum.step ctx.rates offset t v
      else pure t) = RunningSum.step ctx.rates offset := by
    funext t v
    cases v <;> rfl
  simp only [sumHistory, List.foldlM_filter, hstep]

/-- The total of a history without a target.  Where the history is one date among calendar
amounts, the total adds those to the date in their order, wherever the date stands; every other
history has the total that it has without its dates. -/
theorem total_of_dated_history (ctx : Context) (call : Caller) (scope offset : Nat) (s : Session) :
    (∀ d, Schedule ctx.history d →
      evalExpr ctx call scope (.aggregate .total none offset) s =
        (quantitiesOf ctx.history).foldlM
          (fun v q => binary ctx .add v (.quantity q) offset) (.date d) s) ∧
    ((¬∃ d, Schedule ctx.history d) →
      evalExpr ctx call scope (.aggregate .total none offset) s =
        evalExpr { ctx with history := ctx.history.filter (!isDate ·) } call scope
          (.aggregate .total none offset) s) := by
  refine ⟨fun d h => ?_, fun h => ?_⟩
  · obtain ⟨shifts, hshifts, hdate⟩ := shiftedDate_of_schedule h offset
    rw [foldlM_shift_eq_add hshifts, evalExpr, aggregate, hdate]
    cases shiftAll d shifts offset <;> rfl
  · have hremoved : ¬∃ d, Schedule (ctx.history.filter (!isDate ·)) d := by
      rintro ⟨d, hd⟩
      have hdate := List.of_mem_filter hd.mem
      cases hdate
    rw [evalExpr, evalExpr, aggregate_of_no_schedule h, aggregate_of_no_schedule hremoved,
      sumHistory_without_dates]

/-- One day or one month, say. -/
def oneOf (unit : String) : Quantity :=
  { magnitude := .ofNat 1, dims := ⟨[⟨.time, unit, 1⟩]⟩ }

/-- The 30th of January 2024. -/
def lateJanuary : Date :=
  { instant := ⟨1706572800, 0⟩, zone := .fixed 0, label := none, form := .day }

/-- The month is added first, to the end of February, and then the day. -/
theorem total_of_dated_history_january :
    let clock := Context.ofClock ⟨0, 0⟩ (.fixed 0)
    let call : Caller := fun _ _ _ => throw .exhausted
    let schedule : List Value :=
      [.quantity (oneOf "month"), .string "note", .date lateJanuary, .quantity (oneOf "days")]
    let mixed : List Value := [.number (.ofNat 2), .date lateJanuary, .number (.ofNat 3)]
    Schedule schedule lateJanuary ∧
      evalExpr { clock with history := schedule } call 0 (.aggregate .total none 3) .empty =
        .ok (.date { lateJanuary with instant := ⟨1709251200, 0⟩ }) .empty ∧
      (¬∃ d, Schedule mixed d) ∧
      evalExpr { clock with history := mixed } call 0 (.aggregate .total none 3) .empty =
        .ok (.number (.ofNat 5)) .empty := by
  intro clock call schedule mixed
  have hschedule : Schedule schedule lateJanuary := by
    rw [schedule_iff]
    exact ⟨rfl, by decide⟩
  have hmixed : ¬∃ d, Schedule mixed d := by
    rintro ⟨d, hd⟩
    exact hd.numbers (.ofNat 2) List.mem_cons_self
  refine ⟨hschedule, ?_, hmixed, ?_⟩
  · rw [(total_of_dated_history { clock with history := schedule } call 0 3 .empty).1 _ hschedule]
    rfl
  · rw [(total_of_dated_history { clock with history := mixed } call 0 3 .empty).2 hmixed]
    rfl

end Eval

end Reckoner
