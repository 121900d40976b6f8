import Reckoner.Eval.Monad

/-!
# Conversions and casts

`x in units`, `x in zone`, `x is kind` and `x as kind`, and the values of date
literals.
-/

namespace Reckoner.Eval

/-! ## Units and zones -/

/-- A value in other units.  A plain number takes the units on; a single unit
behind a date is taken for a zone. -/
def convertUnits (ctx : Context) (v : Value) (terms : List UnitTerm) (offset : Nat) :
    Checked Value :=
  match v with
  | .date d =>
    match terms with
    | [⟨unit, 1⟩] => return .date (← d.inZoneNamed unit offset)
    | _ => failAt offset (.typing .dateIntoUnits)
  | .quantity q => do
    let target ← Quantity.targetDims terms ctx.rates offset
    return .quantity (← q.convertTo target ctx.rates offset)
  | .number x => return .ofAmount (← Quantity.ofTerms x terms ctx.rates offset).toAmount
  | v => failAt offset (.typing (.intoUnits v.kind))

/-- A date in another zone. -/
def convertZone (v : Value) (name : String) (offset : Nat) : Checked Value :=
  match v with
  | .date d => return .date (← d.inZoneNamed name offset)
  | v => failAt offset (.typing (.intoZone v.kind))

/-! ## Casts -/

/-- A value as a number. -/
def toNumber (v : Value) (offset : Nat) : Checked Value :=
  let failure := Cause.typing (.cast v.kind .number)
  match v with
  | .number x => .ok (.number x)
  | .quantity q => .ok (.number q.magnitude)
  | .bool b => .ok (.ofNat (if b then 1 else 0))
  | .date d => .ok (.number d.timestamp)
  | .string t =>
    match Decimal.parseNumber? (Text.trim t) with
    | some x => .ok (.number x)
    | none => failAt offset failure
  | _ => failAt offset failure

/-- A value as a date: text as it is written, a number as seconds. -/
def toDate (ctx : Context) (v : Value) (offset : Nat) : Checked Value :=
  let failure := Cause.typing (.cast v.kind .date)
  match v with
  | .date d => .ok (.date d)
  | .number x => return .date (← Date.ofSeconds x ctx.zone failure offset)
  | .string t =>
    match Date.ofText? (Text.trimChars t.toList) ctx.zone with
    | some d => .ok (.date d)
    | none => failAt offset failure
  | _ => failAt offset failure

/-- A value as an array: the values of an object, nothing for null, else the
value alone. -/
def toArray (v : Value) : EvalM Value :=
  match v with
  | .array c => pure (.array c)
  | .null => newList []
  | .object c => do newList ((← get).entries c).values
  | v => newList [v]

/-- A value as one of a kind. -/
def cast (ctx : Context) (v : Value) (kind : Kind) (offset : Nat) : EvalM Value :=
  match kind with
  | .number => toNumber v offset
  | .string => return .string (← textOf v)
  | .boolean => return .bool (← isTrue v)
  | .date => toDate ctx v offset
  | .array => toArray v
  | .quantity | .object | .function | .null | .markdown =>
    if v.kind = kind then pure v else fail offset (.typing (.cast v.kind kind))

/-! ## Date literals -/

/-- The zone of a literal and its name, if it has one; else the zone of the
context. -/
def zoneOf (ctx : Context) (name : Option String) (offset : Nat) :
    Checked (Zone × Option String) :=
  match name with
  | none => .ok (ctx.zone, none)
  | some name =>
    match Zone.parse? name with
    | some zone => .ok (zone, some name)
    | none => failAt offset (.unknownZone name)

/-- The date at which the clocks of a zone show a reading. -/
def dateAt (wall : Option Wall) (zone : Zone) (label : Option String) (form : DateForm)
    (offset : Nat) : Checked Value :=
  match wall.bind zone.instantOf? with
  | some instant => .ok (.date { instant, zone, label, form })
  | none => failAt offset (.domain .dateRange)

/-- The start of a day of the present in a zone. -/
def midnightNear (ctx : Context) (zone : Zone) (days : Int) : Option Wall :=
  (Wall.midnight (zone.wallClock ctx.now).day).addDays? days

/-- A day, at its midnight. -/
def dayValue (ctx : Context) (spec : DaySpec) (zone : Option String) (offset : Nat) :
    Checked Value := do
  let (zone, label) ← zoneOf ctx zone offset
  let wall :=
    match spec with
    | .calendar day => some (Wall.midnight day)
    | .today => midnightNear ctx zone 0
    | .tomorrow => midnightNear ctx zone 1
    | .yesterday => midnightNear ctx zone (-1)
  dateAt wall zone label .day offset

/-- A time of the present day. -/
def timeValue (ctx : Context) (hour minute : Nat) (zone : Option String) (offset : Nat) :
    Checked Value := do
  let (zone, label) ← zoneOf ctx zone offset
  let today := (zone.wallClock ctx.now).day
  dateAt (some (Wall.onDay today hour minute 0 0)) zone label .time offset

/-- A day with a time, or the present. -/
def momentValue (ctx : Context) (spec : MomentSpec) (zone : Option String) (offset : Nat) :
    Checked Value := do
  let (zone, label) ← zoneOf ctx zone offset
  match spec with
  | .now => return .date { instant := ctx.now, zone, label, form := .dayTime }
  | .reading wall => dateAt (some wall) zone label .dayTime offset

/-- A date moved by an amount of a calendar unit. -/
def shiftBy (d : Value) (op : BinaryOp) (amount : Value) (unit : CalendarUnit) (offset : Nat) :
    Checked Value := do
  let d ← d.asDate offset
  let amount ← amount.asNumber offset
  return .date (← d.shift (if op = .sub then amount.neg else amount) unit offset)

end Reckoner.Eval
