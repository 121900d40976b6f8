import Reckoner.Decimal.Binary
import Reckoner.Decimal.Transcendental
import Reckoner.Eval.Monad

/-!
# Operators on values

What the operators do to each pair of kinds.  A number next to a quantity
takes on its units in sums and scales it in products; a date and a time make
another date; strings and arrays are joined by `+`.

Bits are those of signed 64-bit words.
-/

namespace Reckoner.Eval

/-- An operator between kinds that it has no meaning for. -/
def mismatch {α : Type} (op : BinaryOp) (left right : Value) (offset : Nat) : Checked α :=
  failAt offset (.typing (.operands op.symbol left.kind right.kind))

/-- The result of a decimal operation as a value. -/
def numberOr (offset : Nat) (x? : Option Decimal) : Checked Value := do
  let x ← orOverflow offset x?
  pure (.number x)

/-- A quantity with another magnitude. -/
def quantityOr (q : Quantity) (offset : Nat) (x? : Option Decimal) : Checked Value := do
  let magnitude ← orOverflow offset x?
  pure (.quantity { q with magnitude })

/-! ## Dates -/

/-- The calendar unit of a quantity that is a plain time. -/
def calendarUnit? (q : Quantity) : Option CalendarUnit := do
  let t ← q.dims.single?
  if t.category = .time ∧ t.exponent = 1 then (← MeasureUnit.find? t.unit).calendarUnit? else none

/-- A date moved by a quantity, or back by it. -/
def shiftDate (d : Date) (q : Quantity) (back : Bool) (offset : Nat) : Checked Value :=
  match calendarUnit? q with
  | none => failAt offset (.typing (.shiftByUnits q.dims.render))
  | some unit => do
    let d ← d.shift (if back then q.magnitude.neg else q.magnitude) unit offset
    pure (.date d)

/-! ## Sums -/

/-- The sum. -/
def add (ctx : Context) (left right : Value) (offset : Nat) : EvalM Value := do
  match left, right with
  | .number x, .number y => numberOr offset (x.add? y)
  | .quantity p, .quantity q => return .ofAmount (← p.add q ctx.rates offset).toAmount
  | .number x, .quantity q => return .quantity (← q.plus x offset)
  | .quantity q, .number x => return .quantity (← q.plus x offset)
  | .date d, .quantity q => shiftDate d q false offset
  | .quantity q, .date d => shiftDate d q false offset
  | .string t, right => return .string (t ++ (← textOf right))
  | left, .string u => return .string ((← textOf left) ++ u)
  | .array c, .array d =>
    let s ← get
    newArray (s.items c ++ s.items d)
  | left, right => mismatch .add left right offset

/-- The difference.  That of two dates is in seconds. -/
def sub (ctx : Context) (left right : Value) (offset : Nat) : Checked Value :=
  match left, right with
  | .number x, .number y => numberOr offset (x.sub? y)
  | .quantity p, .quantity q => return .ofAmount (← p.sub q ctx.rates offset).toAmount
  | .quantity q, .number x => return .quantity (← q.plus x.neg offset)
  | .number x, .quantity q =>
    return .quantity (← Quantity.plus { q with magnitude := q.magnitude.neg } x offset)
  | .date d, .quantity q => shiftDate d q true offset
  | .date d, .date e =>
    return .quantity (← Quantity.ofTerms (d.secondsSince e) [{ unit := "s", exponent := 1 }]
      ctx.rates offset)
  | left, right => mismatch .sub left right offset

/-! ## Products -/

/-- The product. -/
def mul (ctx : Context) (left right : Value) (offset : Nat) : Checked Value :=
  match left, right with
  | .number x, .number y => numberOr offset (x.mul? y)
  | .number x, .quantity q => return .quantity (← q.scale x offset)
  | .quantity q, .number x => return .quantity (← q.scale x offset)
  | .quantity p, .quantity q => return .ofAmount (← p.mul q ctx.rates offset)
  | left, right => mismatch .mul left right offset

/-- Whether a value is a zero, with or without units. -/
def isZeroAmount : Value → Bool
  | .number x => x.isZero
  | .quantity q => q.magnitude.isZero
  | _ => false

/-- The quotient. -/
def div (ctx : Context) (left right : Value) (offset : Nat) : Checked Value :=
  if isZeroAmount right then failAt offset .divisionByZero
  else
    match left, right with
    | .number x, .number y => numberOr offset (x.div? y)
    | .quantity q, .number y => quantityOr q offset (q.magnitude.div? y)
    | .number x, .quantity q =>
      return .ofAmount (← Quantity.div { magnitude := x, dims := .none } q ctx.rates offset)
    | .quantity p, .quantity q => return .ofAmount (← p.div q ctx.rates offset)
    | left, right => mismatch .div left right offset

/-- The remainder, with the sign of the dividend. -/
def rem (ctx : Context) (left right : Value) (offset : Nat) : Checked Value :=
  match left, right with
  | .number x, .number y =>
    if y.isZero then failAt offset .divisionByZero else numberOr offset (x.rem? y)
  | .quantity q, .number y =>
    if y.isZero then failAt offset .divisionByZero else quantityOr q offset (q.magnitude.rem? y)
  | .quantity p, .quantity q => return .ofAmount (← p.rem q ctx.rates offset).toAmount
  | left, right => mismatch .mod left right offset

/-! ## Powers -/

/-- The decimal of a result in binary floating point. -/
def ofFloat (f : Float) (offset : Nat) : Checked Decimal :=
  match Decimal.ofFloatResult f with
  | .ok x => .ok x
  | .error .notFinite => failAt offset (.domain .notFinite)
  | .error .outOfRange => failAt offset (.domain .resultRange)

/-- A power of a decimal.  Whole powers are products; other powers of zero are
zero and of a negative number an error. -/
def powDecimal (base exponent : Decimal) (offset : Nat) : Checked Decimal :=
  if exponent.isWhole then do
    let n ← exponent.toInteger offset
    if base.isZero && n < 0 then failAt offset .divisionByZero
    else orOverflow offset (base.powInt? n)
  else if base.isNegative then failAt offset (.domain (.negativeBase base))
  else if base.isZero then .ok Decimal.zero
  else
    match base.powReal? exponent with
    | some x => .ok x
    | none => ofFloat (base.toFloat.pow exponent.toFloat) offset

/-- A whole power of a quantity. -/
def powQuantity (q : Quantity) (exponent : Decimal) (offset : Nat) : Checked Value :=
  if !exponent.isWhole then failAt offset (.typing .quantityPower)
  else do
    let n ← exponent.toInteger offset
    if n < -2147483648 ∨ 2147483647 < n then failAt offset (.domain .exponentTooLarge)
    else if q.magnitude.isZero && n < 0 then failAt offset .divisionByZero
    else return .ofAmount (← q.powInt n offset)

/-- The power. -/
def pow (base exponent : Value) (offset : Nat) : Checked Value :=
  match base, exponent with
  | .number x, .number y => return .number (← powDecimal x y offset)
  | .quantity q, .number y => powQuantity q y offset
  | base, exponent => mismatch .pow base exponent offset

/-! ## Bits -/

/-- The number of places to shift by. -/
def shiftAmount (n : Int) (offset : Nat) : Checked Nat :=
  if 0 ≤ n ∧ n < 64 then .ok n.toNat else failAt offset (.domain (.shiftAmount n))

/-- The word of an integer. -/
def wordOf (n : Int) : BitVec 64 := BitVec.ofInt 64 n

/-- Operators on the bits of whole numbers. -/
def bitwise (op : BinaryOp) (left right : Value) (offset : Nat) : Checked Value :=
  match left, right with
  | .number x, .number y => do
    let a ← x.toInteger offset
    let b ← y.toInteger offset
    match op with
    | .bitAnd => return .ofInt (wordOf a &&& wordOf b).toInt
    | .bitOr => return .ofInt (wordOf a ||| wordOf b).toInt
    | .shiftLeft => return .ofInt (wordOf a <<< (← shiftAmount b offset)).toInt
    | .shiftRight => return .ofInt ((wordOf a).sshiftRight (← shiftAmount b offset)).toInt
    | op => mismatch op left right offset
  | left, right => mismatch op left right offset

/-! ## All operators -/

/-- An operator between two values. -/
def binary (ctx : Context) (op : BinaryOp) (left right : Value) (offset : Nat) : EvalM Value :=
  match op with
  | .add => add ctx left right offset
  | .sub => sub ctx left right offset
  | .mul => mul ctx left right offset
  | .div => div ctx left right offset
  | .mod => rem ctx left right offset
  | .pow => pow left right offset
  | .bitAnd | .bitOr | .shiftLeft | .shiftRight => bitwise op left right offset

/-- One hundredth of a number. -/
def hundredth (x : Decimal) : Decimal := (x.div? (.ofNat 100)).getD x

/-- An operator on one value. -/
def unary (s : Session) (op : UnaryOp) (v : Value) (offset : Nat) : Checked Value :=
  match op, v with
  | .not, v => .ok (.bool (!s.isTrue v))
  | .negate, .number x => .ok (.number x.neg)
  | .negate, .quantity q => .ok (.quantity { q with magnitude := q.magnitude.neg })
  | .plus, .number x => .ok (.number x)
  | .plus, .quantity q => .ok (.quantity q)
  | .percent, .number x => .ok (.number (hundredth x))
  | .percent, .quantity q => .ok (.quantity { q with magnitude := hundredth q.magnitude })
  | op, v => failAt offset (.typing (.operand op.symbol v.kind))

end Reckoner.Eval
