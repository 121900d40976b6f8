import Reckoner.Quantity.Dimensions
import Reckoner.Unit.Rates

/-!
# Quantities

A `Quantity` is a decimal magnitude with units.  `ofTerms` builds one from the
unit terms of a literal, merging terms of one category into the first one's
unit; `mul`, `div` and `powInt` combine the powers and give a plain number
where all of them cancel, which is why their result is an `Amount`; `add`,
`sub` and `rem` bring the right operand into the left one's units first.

`convertTo` re-expresses a quantity.  A lone temperature converts as a
reading, everything else by factors; sums treat temperatures as differences
(`convertLinear`).

`absorb` adds powers, `div` turns their sign and `powInt` multiplies them, all
without regard to the 32 bits of a word (see `Reckoner.Quantity.Dimensions`).
-/

namespace Reckoner

/-- A magnitude with units. -/
structure Quantity where
  magnitude : Decimal
  dims : Dimensions
deriving DecidableEq, Repr

/-- A number with or without units. -/
inductive Amount where
  | number (x : Decimal)
  | quantity (q : Quantity)
deriving DecidableEq, Repr

namespace Quantity

/-- A plain number when no unit is left. -/
def toAmount (q : Quantity) : Amount :=
  if q.dims.isEmpty then .number q.magnitude else .quantity q

/-- Equality of magnitudes and of units as they are written. -/
def sameValue (a b : Quantity) : Bool :=
  a.magnitude.sameValue b.magnitude && a.dims = b.dims

/-- `x ^ n`, the power one being `x` itself. -/
def powFactor (x : Decimal) (n : Int) (offset : Nat) : Checked Decimal :=
  if n = 1 then pure x else orOverflow offset (x.powInt? n)

/-! ## Building -/

/-- Multiplies one unit power in.  Where the category has a unit already the
magnitude is converted into it. -/
def absorb (q : Quantity) (d : Denomination) (spelling : String) (exponent : Int)
    (rates : RateTable) (offset : Nat) : Checked Quantity :=
  match q.dims.find? d.category with
  | some present => do
    let target ← Denomination.ofName present.unit offset
    let factor ← ratio d target rates offset
    let factor ← powFactor factor exponent offset
    let magnitude ← orOverflow offset (q.magnitude.mul? factor)
    pure { magnitude, dims := q.dims.shiftExponent d.category exponent }
  | none =>
    if exponent = 0 then pure q
    else
      pure { q with dims := q.dims.insert { category := d.category, unit := spelling, exponent } }

/-- Multiplies the terms in, from left to right. -/
def absorbTerms (q : Quantity) (terms : List UnitTerm) (rates : RateTable) (offset : Nat) :
    Checked Quantity :=
  terms.foldlM (fun q t => do
    let d ← Denomination.ofName t.unit offset
    q.absorb d t.unit t.exponent rates offset) q

/-- The quantity of a magnitude and the unit terms behind it. -/
def ofTerms (x : Decimal) (terms : List UnitTerm) (rates : RateTable) (offset : Nat) :
    Checked Quantity :=
  absorbTerms { magnitude := x, dims := .none } terms rates offset

/-- The units that terms describe, as the target of a conversion. -/
def targetDims (terms : List UnitTerm) (rates : RateTable) (offset : Nat) :
    Checked Dimensions := do
  let q ← ofTerms Decimal.one terms rates offset
  pure q.dims

/-! ## Converting -/

/-- The magnitude in the units of `target`, going by factors. -/
def convertMagnitude (q : Quantity) (target : Dimensions) (rates : RateTable) (offset : Nat) :
    Checked Decimal :=
  q.dims.terms.foldlM (fun x t =>
    match target.find? t.category with
    | none => pure x
    | some goal => do
      let source ← Denomination.ofName t.unit offset
      let target ← Denomination.ofName goal.unit offset
      let factor ← ratio source target rates offset
      let factor ← powFactor factor t.exponent offset
      orOverflow offset (x.mul? factor)) q.magnitude

/-- The two units of a conversion between lone temperatures. -/
def temperaturePair? (source target : Dimensions) : Option (MeasureUnit × MeasureUnit) :=
  match source.single?, target.single? with
  | some s, some t =>
    if s.category = .temperature ∧ s.exponent = 1 then
      match Denomination.ofName? s.unit, Denomination.ofName? t.unit with
      | some (.unit u), some (.unit v) => some (u, v)
      | _, _ => none
    else none
  | _, _ => none

/-- The quantity in the units of `target`.  A lone temperature is a reading. -/
def convertTo (q : Quantity) (target : Dimensions) (rates : RateTable) (offset : Nat) :
    Checked Quantity :=
  if !q.dims.compatible target then
    failAt offset (.incompatibleUnits q.dims.render target.render)
  else
    match temperaturePair? q.dims target with
    | some (u, v) => do
      let magnitude ← convertTemperature q.magnitude u v offset
      pure { magnitude, dims := target }
    | none => do
      let magnitude ← q.convertMagnitude target rates offset
      pure { magnitude, dims := target }

/-- The quantity in the units of `target`, a temperature being a difference.
An error names the units of `target` first. -/
def convertLinear (q : Quantity) (target : Dimensions) (rates : RateTable) (offset : Nat) :
    Checked Quantity :=
  if !q.dims.compatible target then
    failAt offset (.incompatibleUnits target.render q.dims.render)
  else do
    let magnitude ← q.convertMagnitude target rates offset
    pure { magnitude, dims := target }

/-! ## Arithmetic -/

/-- Moves the magnitude. -/
def plus (q : Quantity) (delta : Decimal) (offset : Nat) : Checked Quantity := do
  let magnitude ← orOverflow offset (q.magnitude.add? delta)
  pure { q with magnitude }

/-- Multiplies the magnitude. -/
def scale (q : Quantity) (factor : Decimal) (offset : Nat) : Checked Quantity := do
  let magnitude ← orOverflow offset (q.magnitude.mul? factor)
  pure { q with magnitude }

/-- The sum, in the left operand's units. -/
def add (a b : Quantity) (rates : RateTable) (offset : Nat) : Checked Quantity := do
  let b ← b.convertLinear a.dims rates offset
  a.plus b.magnitude offset

/-- The difference, in the left operand's units. -/
def sub (a b : Quantity) (rates : RateTable) (offset : Nat) : Checked Quantity := do
  let b ← b.convertLinear a.dims rates offset
  a.plus b.magnitude.neg offset

/-- The remainder, in the left operand's units. -/
def rem (a b : Quantity) (rates : RateTable) (offset : Nat) : Checked Quantity := do
  let b ← b.convertLinear a.dims rates offset
  if b.magnitude.isZero then failAt offset .divisionByZero
  else
    let magnitude ← orOverflow offset (a.magnitude.rem? b.magnitude)
    pure { a with magnitude }

/-- The product.  Powers add up category by category. -/
def mul (a b : Quantity) (rates : RateTable) (offset : Nat) : Checked Amount := do
  let product ← a.scale b.magnitude offset
  let product ← product.absorbTerms
    (b.dims.terms.map fun t => { unit := t.unit, exponent := t.exponent }) rates offset
  pure product.toAmount

/-- The quotient: the product with the reciprocal. -/
def div (a b : Quantity) (rates : RateTable) (offset : Nat) : Checked Amount :=
  if b.magnitude.isZero then failAt offset .divisionByZero
  else do
    let inverse ← orOverflow offset (Decimal.one.div? b.magnitude)
    a.mul { magnitude := inverse, dims := b.dims.negated } rates offset

/-- A whole power. -/
def powInt (q : Quantity) (n : Int) (offset : Nat) : Checked Amount := do
  let magnitude ← powFactor q.magnitude n offset
  pure (toAmount { magnitude, dims := q.dims.scaled n })

/-! ## Text -/

/-- A quantity as results show it. -/
def render (q : Quantity) : String := q.magnitude.shown ++ " " ++ q.dims.render

end Quantity

end Reckoner
