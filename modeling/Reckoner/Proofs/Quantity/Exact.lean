import Mathlib.Data.Rat.Defs
import Reckoner.Quantity.Basic

/-!
# Quantities without rounding

Decimal operations round where a result has no room.  To say that an operation
on quantities rounds nowhere, the operations are written once more over any
`Arithmetic`: with `Arithmetic.decimal` they are the ones that run, with
`Arithmetic.exact` they refuse to round.  A run is `Unrounded` if it comes to
the same with both.

Readings of temperatures are left as they are: what is said about runs without
rounding is about units that have a size.
-/

namespace Reckoner

/-- The rational number that a decimal stands for. -/
def Decimal.toRat (x : Decimal) : ℚ := x.signed / tenPow x.scale

/-- The operations on decimals that the operations on quantities use. -/
structure Arithmetic where
  add? : Decimal → Decimal → Option Decimal
  mul? : Decimal → Decimal → Option Decimal
  div? : Decimal → Decimal → Option Decimal
  powInt? : Decimal → Int → Option Decimal

namespace Arithmetic

/-- The operations that run. -/
def decimal : Arithmetic := ⟨Decimal.add?, Decimal.mul?, Decimal.div?, Decimal.powInt?⟩

/-- The operations with those results only that are not rounded. -/
def exact : Arithmetic where
  add? x y := (x.add? y).filter fun z => z.toRat = x.toRat + y.toRat
  mul? x y := (x.mul? y).filter fun z => z.toRat = x.toRat * y.toRat
  div? x y := (x.div? y).filter fun z => z.toRat = x.toRat / y.toRat
  powInt? x n := (x.powInt? n).filter fun z => z.toRat = x.toRat ^ n

variable (A : Arithmetic)

/-! ## Factors -/

/-- The size of one unit, as `baseFactor`. -/
def baseFactor (d : Denomination) (rates : RateTable) (offset : Nat) : Checked Decimal :=
  match d with
  | .unit u =>
    if u.category = .temperature then
      if u.symbol == "fahrenheit" then orOverflow offset (A.div? (.ofNat 5) (.ofNat 9))
      else pure Decimal.one
    else pure u.factor
  | .currency code => do
    let rate ← rates.rate code offset
    if rate.isZero then failAt offset (.domain (.zeroRate code))
    else orOverflow offset (A.div? .one rate)

/-- The factor between two units, as `ratio`. -/
def ratio (source target : Denomination) (rates : RateTable) (offset : Nat) :
    Checked Decimal :=
  if source.canonical == target.canonical then pure Decimal.one
  else
    match source, target with
    | .currency a, .currency b => do
      let rateA ← rates.rate a offset
      let rateB ← rates.rate b offset
      if rateA.isZero then failAt offset (.domain (.zeroRate a))
      else orOverflow offset (A.div? rateB rateA)
    | _, _ => do
      let factorS ← A.baseFactor source rates offset
      let factorT ← A.baseFactor target rates offset
      orOverflow offset (A.div? factorS factorT)

/-- `x ^ n`, as `Quantity.powFactor`. -/
def powFactor (x : Decimal) (n : Int) (offset : Nat) : Checked Decimal :=
  if n = 1 then pure x else orOverflow offset (A.powInt? x n)

/-! ## Building -/

/-- Multiplies one unit power in, as `Quantity.absorb`. -/
def absorb (q : Quantity) (d : Denomination) (spelling : String) (exponent : Int)
    (rates : RateTable) (offset : Nat) : Checked Quantity :=
  match q.dims.find? d.category with
  | some present => do
    let target ← Denomination.ofName present.unit offset
    let factor ← A.ratio d target rates offset
    let factor ← A.powFactor factor exponent offset
    let magnitude ← orOverflow offset (A.mul? q.magnitude factor)
    pure { magnitude, dims := q.dims.shiftExponent d.category exponent }
  | none =>
    if exponent = 0 then pure q
    else
      pure { q with dims := q.dims.insert { category := d.category, unit := spelling, exponent } }

/-- Multiplies terms in, as `Quantity.absorbTerms`. -/
def absorbTerms (q : Quantity) (terms : List UnitTerm) (rates : RateTable) (offset : Nat) :
    Checked Quantity :=
  terms.foldlM (fun q t => do
    let d ← Denomination.ofName t.unit offset
    A.absorb q d t.unit t.exponent rates offset) q

/-- The quantity of a magnitude and unit terms, as `Quantity.ofTerms`. -/
def ofTerms (x : Decimal) (terms : List UnitTerm) (rates : RateTable) (offset : Nat) :
    Checked Quantity :=
  A.absorbTerms { magnitude := x, dims := .none } terms rates offset

/-! ## Converting -/

/-- The magnitude in other units, as `Quantity.convertMagnitude`. -/
def convertMagnitude (q : Quantity) (target : Dimensions) (rates : RateTable) (offset : Nat) :
    Checked Decimal :=
  q.dims.terms.foldlM (fun x t =>
    match target.find? t.category with
    | none => pure x
    | some goal => do
      let source ← Denomination.ofName t.unit offset
      let target ← Denomination.ofName goal.unit offset
      let factor ← A.ratio source target rates offset
      let factor ← A.powFactor factor t.exponent offset
      orOverflow offset (A.mul? x factor)) q.magnitude

/-- The quantity in other units, as `Quantity.convertTo`. -/
def convertTo (q : Quantity) (target : Dimensions) (rates : RateTable) (offset : Nat) :
    Checked Quantity :=
  if !q.dims.compatible target then
    failAt offset (.incompatibleUnits q.dims.render target.render)
  else
    match Quantity.temperaturePair? q.dims target with
    | some (u, v) => do
      let magnitude ← convertTemperature q.magnitude u v offset
      pure { magnitude, dims := target }
    | none => do
      let magnitude ← A.convertMagnitude q target rates offset
      pure { magnitude, dims := target }

/-- The quantity in other units by factors, as `Quantity.convertLinear`. -/
def convertLinear (q : Quantity) (target : Dimensions) (rates : RateTable) (offset : Nat) :
    Checked Quantity :=
  if !q.dims.compatible target then
    failAt offset (.incompatibleUnits target.render q.dims.render)
  else do
    let magnitude ← A.convertMagnitude q target rates offset
    pure { magnitude, dims := target }

/-! ## Arithmetic -/

/-- Moves the magnitude, as `Quantity.plus`. -/
def plus (q : Quantity) (delta : Decimal) (offset : Nat) : Checked Quantity := do
  let magnitude ← orOverflow offset (A.add? q.magnitude delta)
  pure { q with magnitude }

/-- Multiplies the magnitude, as `Quantity.scale`. -/
def scale (q : Quantity) (factor : Decimal) (offset : Nat) : Checked Quantity := do
  let magnitude ← orOverflow offset (A.mul? q.magnitude factor)
  pure { q with magnitude }

/-- The sum, as `Quantity.add`. -/
def add (a b : Quantity) (rates : RateTable) (offset : Nat) : Checked Quantity := do
  let b ← A.convertLinear b a.dims rates offset
  A.plus a b.magnitude offset

/-- The difference, as `Quantity.sub`. -/
def sub (a b : Quantity) (rates : RateTable) (offset : Nat) : Checked Quantity := do
  let b ← A.convertLinear b a.dims rates offset
  A.plus a b.magnitude.neg offset

/-- The product, as `Quantity.mul`. -/
def mul (a b : Quantity) (rates : RateTable) (offset : Nat) : Checked Amount := do
  let product ← A.scale a b.magnitude offset
  let product ← A.absorbTerms product
    (b.dims.terms.map fun t => { unit := t.unit, exponent := t.exponent }) rates offset
  pure product.toAmount

/-- The quotient, as `Quantity.div`. -/
def div (a b : Quantity) (rates : RateTable) (offset : Nat) : Checked Amount :=
  if b.magnitude.isZero then failAt offset .divisionByZero
  else do
    let inverse ← orOverflow offset (A.div? .one b.magnitude)
    A.mul a { magnitude := inverse, dims := b.dims.negated } rates offset

/-- A whole power, as `Quantity.powInt`. -/
def powInt (q : Quantity) (n : Int) (offset : Nat) : Checked Amount := do
  let magnitude ← A.powFactor q.magnitude n offset
  pure (Quantity.toAmount { magnitude, dims := q.dims.scaled n })

/-! ## The operations that run -/

variable (a b : Quantity) (rates : RateTable) (offset : Nat)

theorem decimal_ofTerms (x : Decimal) (terms : List UnitTerm) :
    decimal.ofTerms x terms rates offset = Quantity.ofTerms x terms rates offset := rfl

theorem decimal_convertTo (target : Dimensions) :
    decimal.convertTo a target rates offset = a.convertTo target rates offset := rfl

theorem decimal_add : decimal.add a b rates offset = a.add b rates offset := rfl

theorem decimal_sub : decimal.sub a b rates offset = a.sub b rates offset := rfl

theorem decimal_mul : decimal.mul a b rates offset = a.mul b rates offset := rfl

theorem decimal_div : decimal.div a b rates offset = a.div b rates offset := rfl

theorem decimal_powInt (n : Int) : decimal.powInt a n offset = a.powInt n offset := rfl

end Arithmetic

/-- A run in which no operation on decimals rounds. -/
def Unrounded {α : Type} (run : Arithmetic → Checked α) : Prop := run .exact = run .decimal

end Reckoner
