import Reckoner.Eval.Arithmetic

/-!
# Aggregates of the history

`total` and `average` of the earlier results.  Numbers count as they are;
quantities are converted into the target units, or into those of the first
quantity; all else is passed over, and so are quantities of other dimensions.

A total of a history with just one date and otherwise only amounts of calendar
units moves the date by each of them (`shiftedDate`).
-/

namespace Reckoner.Eval

/-- The dates of a history. -/
def datesOf (history : List Value) : List Date :=
  history.filterMap fun
    | .date d => some d
    | _ => none

/-- The calendar amounts of a history, if its numbers and quantities are
nothing else. -/
def calendarShifts? : List Value → Option (List (Decimal × CalendarUnit))
  | [] => some []
  | .number _ :: _ => none
  | .quantity q :: rest =>
    match calendarUnit? q with
    | some unit => (calendarShifts? rest).map ((q.magnitude, unit) :: ·)
    | none => none
  | _ :: rest => calendarShifts? rest

/-- The only date of a history moved by its calendar amounts; nothing where
the history is of another form. -/
def shiftedDate (history : List Value) (offset : Nat) : Checked (Option Date) :=
  match datesOf history, calendarShifts? history with
  | [d], some shifts => do
    let d ← shifts.foldlM (fun d (amount, unit) => d.shift amount unit offset) d
    pure (some d)
  | _, _ => pure none

/-- What has been summed up so far: the units, once they are known, the sum of
the magnitudes and the number of entries. -/
structure RunningSum where
  dims : Option Dimensions
  sum : Decimal
  count : Nat

/-- Counts one entry. -/
def RunningSum.step (rates : RateTable) (offset : Nat) (t : RunningSum) (entry : Value) :
    Checked RunningSum :=
  match entry with
  | .number x => do
    let sum ← orOverflow offset (t.sum.add? x)
    pure { t with sum, count := t.count + 1 }
  | .quantity q =>
    let goal := t.dims.getD q.dims
    if q.dims.compatible goal then do
      let converted ← q.convertTo goal rates offset
      let sum ← orOverflow offset (t.sum.add? converted.magnitude)
      pure { dims := some goal, sum, count := t.count + 1 }
    else pure { t with dims := some goal }
  | _ => pure t

/-- The value of a running sum. -/
def RunningSum.value (t : RunningSum) (kind : Aggregate) : Value :=
  let x :=
    match kind with
    | .total => t.sum
    | .average => (t.sum.div? (.ofNat t.count)).getD t.sum
  match t.dims with
  | some dims => .ofAmount (Quantity.toAmount { magnitude := x, dims })
  | none => .number x

/-- The sum or the average of a history, entry by entry. -/
def sumHistory (ctx : Context) (kind : Aggregate) (target : Option (List UnitTerm))
    (offset : Nat) : Checked Value := do
  let dims ← target.mapM fun terms => Quantity.targetDims terms ctx.rates offset
  let t ← ctx.history.foldlM (RunningSum.step ctx.rates offset) { dims, sum := .zero, count := 0 }
  if t.count = 0 then failAt offset (.noValues kind.name) else pure (t.value kind)

/-- An aggregate of the history. -/
def aggregate (ctx : Context) (kind : Aggregate) (target : Option (List UnitTerm)) (offset : Nat) :
    Checked Value := do
  let date ←
    match kind, target with
    | .total, none => shiftedDate ctx.history offset
    | _, _ => pure none
  match date with
  | some d => pure (.date d)
  | none => sumHistory ctx kind target offset

end Reckoner.Eval
