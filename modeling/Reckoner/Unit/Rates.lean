import Reckoner.Unit.Table
import Reckoner.Error

/-!
# Conversion between units

A spelling stands for a unit of measure or a currency, its `Denomination`.
`ratio` is the factor that takes a magnitude from one denomination to another
of the same category, `baseFactor` its size in the base unit.  Currencies
convert through a `RateTable`; temperatures, when they are readings and not
differences, through `convertTemperature`.
-/

namespace Reckoner

/-! ## Denominations -/

/-- What a unit spelling stands for. -/
inductive Denomination where
  | unit (u : MeasureUnit)
  | currency (code : String)
deriving DecidableEq, Repr

namespace Denomination

/-- The category of a denomination. -/
def category : Denomination → Category
  | unit u => u.category
  | currency _ => .currency

/-- One name for all spellings of a denomination. -/
def canonical : Denomination → String
  | unit u => u.symbol
  | currency code => code

/-- What a spelling stands for.  Units come before currencies. -/
def ofName? (name : String) : Option Denomination :=
  match MeasureUnit.find? name with
  | some u => some (.unit u)
  | none => if Currency.isCode name then some (.currency name) else none

/-- What a spelling stands for, or an error that names it. -/
def ofName (name : String) (offset : Nat) : Checked Denomination :=
  orFail offset (.typing (.unknownUnit name)) (ofName? name)

end Denomination

/-! ## Exchange rates -/

/-- Exchange rates: how many units of each currency equal one unit of a common
base.  The last rate given for a code counts. -/
structure RateTable where
  entries : List (String × Decimal)
deriving Repr

namespace RateTable

/-- No rates. -/
def empty : RateTable := ⟨[]⟩

/-- Adds or replaces a rate.  Codes are kept in upper case. -/
def insert (table : RateTable) (code : String) (rate : Decimal) : RateTable :=
  ⟨(Text.toUpper code, rate) :: table.entries⟩

/-- The rate of a code. -/
def rate? (table : RateTable) (code : String) : Option Decimal :=
  (table.entries.find? (fun entry => entry.1 == code)).map (·.2)

/-- The rate of a code, which must be there. -/
def rate (table : RateTable) (code : String) (offset : Nat) : Checked Decimal :=
  orFail offset (.missingRate code) (table.rate? code)

end RateTable

/-! ## Factors -/

/-- Five ninths of a kelvin: one degree on Fahrenheit's scale. -/
def fahrenheitDegree : Option Decimal :=
  (Decimal.ofNat 5).div? (.ofNat 9)

/-- The size of one unit in the base unit of its category.  A currency has the
inverse of its rate, so that dividing two sizes gives the exchange ratio. -/
def baseFactor (d : Denomination) (rates : RateTable) (offset : Nat) : Checked Decimal :=
  match d with
  | .unit u =>
    if u.category = .temperature then
      if u.symbol == "fahrenheit" then orOverflow offset fahrenheitDegree
      else pure Decimal.one
    else pure u.factor
  | .currency code => do
    let rate ← rates.rate code offset
    if rate.isZero then failAt offset (.domain (.zeroRate code))
    else orOverflow offset (Decimal.one.div? rate)

/-- The factor that takes a magnitude in `source` to one in `target`.  Equal
denominations never look at the rates. -/
def ratio (source target : Denomination) (rates : RateTable) (offset : Nat) :
    Checked Decimal :=
  if source.canonical == target.canonical then pure Decimal.one
  else
    match source, target with
    | .currency a, .currency b => do
      let rateA ← rates.rate a offset
      let rateB ← rates.rate b offset
      if rateA.isZero then failAt offset (.domain (.zeroRate a))
      else orOverflow offset (rateB.div? rateA)
    | _, _ => do
      let factorS ← baseFactor source rates offset
      let factorT ← baseFactor target rates offset
      orOverflow offset (factorS.div? factorT)

/-! ## Temperature readings -/

/-- The freezing point of water in kelvin. -/
def zeroCelsius : Decimal := .ofScaled 27315 2

/-- A reading on the scale `u` in kelvin. -/
def toKelvin? (u : MeasureUnit) (x : Decimal) : Option Decimal :=
  if u.symbol == "celsius" then x.add? zeroCelsius
  else if u.symbol == "fahrenheit" then do
    let above ← x.sub? (.ofNat 32)
    let scaled ← above.mul? (.ofNat 5)
    let degrees ← scaled.div? (.ofNat 9)
    degrees.add? zeroCelsius
  else some x

/-- A reading in kelvin on the scale `u`. -/
def ofKelvin? (u : MeasureUnit) (x : Decimal) : Option Decimal :=
  if u.symbol == "celsius" then x.sub? zeroCelsius
  else if u.symbol == "fahrenheit" then do
    let degrees ← x.sub? zeroCelsius
    let scaled ← degrees.mul? (.ofNat 9)
    let above ← scaled.div? (.ofNat 5)
    above.add? (.ofNat 32)
  else some x

/-- A temperature reading, not a difference, on another scale. -/
def convertTemperature (x : Decimal) (source target : MeasureUnit) (offset : Nat) :
    Checked Decimal :=
  orOverflow offset ((toKelvin? source x).bind (ofKelvin? target))

end Reckoner
