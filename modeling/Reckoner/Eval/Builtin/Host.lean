import Reckoner.Eval.Access
import Reckoner.Eval.Convert
import Reckoner.Json.Reader

/-!
# Dates, functions and the host

The parts of dates and the making of dates, functions with some arguments
given, and what comes from the host.
-/

namespace Reckoner.Eval

/-! ## Dates -/

/-- A part of a date. -/
def partOf (part : DatePart) (v : Value) (offset : Nat) : Checked Value := do
  return .ofInt ((← v.asDate offset).part part)

/-- Seconds since the start of 1970. -/
def timestamp (v : Value) (offset : Nat) : Checked Value := do
  return .number (← v.asDate offset).timestamp

/-- A part of a day that is given as a number. -/
def wholePart (v : Value) (offset : Nat) : Checked Int := do (← v.asNumber offset).toInteger offset

/-- The day with the given year, month and day of the month. -/
def dayOfParts (ctx : Context) (year month day : Value) (offset : Nat) : Checked Value := do
  let y ← wholePart year offset
  let m ← wholePart month offset
  let d ← wholePart day offset
  let found := if m < 0 ∨ d < 0 then none else Day.ofParts? y m.toNat d.toNat
  match found with
  | some day => dayValue ctx (.calendar day) none offset
  | none => failAt offset (.argument (.notADay y m d))

/-! ## Functions -/

/-- A function with its first arguments given. -/
def bindArgs (args : List Value) (offset : Nat) : EvalM Value := do
  match args with
  | [] => fail offset (.argument .noValue)
  | callee :: bound =>
    let callee ← callee.asCallable offset
    return .applied (← newIdentity) callee bound

/-! ## The host -/

/-- The value of an environment variable, or null. -/
def envValue (ctx : Context) (v : Value) (offset : Nat) : Checked Value := do
  match ctx.envText? (← v.asString offset) with
  | some text => return .string text
  | none => return .null

/-- The value of a number in an external argument: a decimal if it has room,
else its text. -/
def ofJsonNumber (text : String) : Value :=
  match Decimal.parseNumber? text with
  | some x => .number x
  | none => .string text

mutual

/-- The value of an external argument. -/
def ofJson : Json → EvalM Value
  | .null => pure .null
  | .bool b => pure (.bool b)
  | .number text => pure (ofJsonNumber text)
  | .string text => pure (.string text)
  | .array items => do newArray (← ofJsonItems #[] items)
  | .object entries => do newObject (← ofJsonEntries [] entries)

/-- The values of items, appended to `done`. -/
def ofJsonItems (done : Array Value) : List Json → EvalM (Array Value)
  | [] => pure done
  | j :: rest => do
    let v ← ofJson j
    ofJsonItems (done.push v) rest

/-- The values of entries, inserted into `done`. -/
def ofJsonEntries (done : Entries Value) : List (String × Json) → EvalM (Entries Value)
  | [] => pure done
  | (key, j) :: rest => do
    let v ← ofJson j
    ofJsonEntries (done.insert key v) rest

end

/-- The external argument: read as JSON if it is, else as it stands. -/
def argument (ctx : Context) : EvalM Value :=
  match ctx.argument with
  | none => pure .null
  | some text =>
    match Json.parse? text with
    | some j => ofJson j
    | none => pure (.string text)

end Reckoner.Eval
