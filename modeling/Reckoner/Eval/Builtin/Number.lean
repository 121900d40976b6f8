import Reckoner.Eval.Arithmetic
import Reckoner.Eval.Compare

/-!
# Functions on numbers

Roots, rounding, logarithms, trigonometry, whole numbers, extremes and sums.
Functions that keep units work on the magnitude (`mapMagnitude`).
-/

namespace Reckoner.Eval

/-- Works on a number or on the magnitude of a quantity. -/
def mapMagnitude (v : Value) (offset : Nat) (f : Decimal → Decimal) : Checked Value :=
  match v with
  | .number x => .ok (.number (f x))
  | .quantity q => .ok (.quantity { q with magnitude := f q.magnitude })
  | v => v.wrongKind "number" offset

/-- The square root. -/
def sqrt (v : Value) (offset : Nat) : Checked Value := do
  let x ← v.asNumber offset
  if x.isNegative then failAt offset (.domain .negativeRoot)
  else
    match x.sqrt? with
    | some root => .ok (.number root.settle)
    | none => failAt offset (.domain .rootDiverges)

/-- A function that is computed in binary floating point. -/
def viaFloat (f : Float → Float) (v : Value) (offset : Nat) : Checked Value := do
  let x ← v.asNumber offset
  return .number (← ofFloat (f x.toFloat) offset)

/-! ## Rounding -/

/-- The most places a number can be rounded to. -/
def mostPlaces : Int := 28

/-- The number of places to round to. -/
def placesOf (v : Value) (offset : Nat) : Checked Nat := do
  let n ← (← v.asNumber offset).toInteger offset
  if 0 ≤ n ∧ n ≤ mostPlaces then .ok n.toNat else failAt offset (.argument (.places n))

/-- Rounds to a number of places, a half away from zero. -/
def round (v : Value) (places : Option Value) (offset : Nat) : Checked Value := do
  let places ←
    match places with
    | some p => placesOf p offset
    | none => .ok 0
  mapMagnitude v offset (·.roundPlaces places .awayFromZero)

/-- The sign as a number. -/
def sign (v : Value) (offset : Nat) : Checked Value := do
  match (← v.asMagnitude offset).compare .zero with
  | .lt => return .ofInt (-1)
  | .eq => return .ofInt 0
  | .gt => return .ofInt 1

/-! ## Exponentials and logarithms -/

/-- The exponential. -/
def exponential (v : Value) (offset : Nat) : Checked Value := do
  let x ← v.asNumber offset
  let y ←
    match x.exp? with
    | some y => .ok y
    | none => ofFloat x.toFloat.exp offset
  return .number y.settle

/-- The natural logarithm. -/
def lnOf (x : Decimal) (offset : Nat) : Checked Decimal :=
  if Decimal.zero.less x then orFail offset (.domain (.logarithm x)) x.ln?
  else failAt offset (.domain (.logarithm x))

/-- The logarithm to base ten. -/
def log10Of (x : Decimal) (offset : Nat) : Checked Decimal :=
  if Decimal.zero.less x then orFail offset (.domain (.logarithm x)) x.log10?
  else failAt offset (.domain (.logarithm x))

/-- The logarithm to some base. -/
def logOf (x base : Decimal) (offset : Nat) : Checked Decimal :=
  if base.sameValue .ten then log10Of x offset
  else do
    let denominator ← lnOf base offset
    if denominator.isZero then failAt offset (.domain .logarithmBaseOne)
    else do
      let numerator ← lnOf x offset
      orFail offset (.domain .logarithmRange) (numerator.div? denominator)

/-- The logarithm to a base that is given, or to the usual one. -/
def log (v : Value) (base : Option Value) (usual : Decimal) (offset : Nat) : Checked Value := do
  let x ← v.asNumber offset
  let base ←
    match base with
    | some b => b.asNumber offset
    | none => .ok usual
  return .number (← logOf x base offset).settle

/-- The natural logarithm. -/
def ln (v : Value) (offset : Nat) : Checked Value := do
  return .number (← lnOf (← v.asNumber offset) offset).settle

/-! ## Whole numbers -/

/-- `k` times the numbers from `n - rounds + 1` up to `n`; none when the
product has no room. -/
def productUpTo? (n : Nat) : (rounds : Nat) → Decimal → Option Decimal
  | 0, product => some product
  | rounds + 1, product =>
    match product.mul? (.ofNat (n - rounds)) with
    | some product => productUpTo? n rounds product
    | none => none

/-- The product of all numbers up to `n`. -/
def factorial (v : Value) (offset : Nat) : Checked Value := do
  let n ← (← v.asNumber offset).toInteger offset
  if n < 0 then failAt offset (.argument (.negativeFactorial n))
  else
    match productUpTo? n.toNat (n.toNat - 1) .one with
    | some product => .ok (.number product)
    | none => failAt offset (.domain (.factorial n))

/-- The magnitude of an integer, as a word without sign. -/
def magnitudeWord (n : Int) : UInt64 := .ofNat n.natAbs

/-- The greatest common divisor of two words.  Each round goes on with the second word and what
is left of the first when it is divided by the second. -/
def euclid (x y : UInt64) : UInt64 :=
  if y = 0 then x else euclid y (x % y)
termination_by y.toNat
decreasing_by
  rename_i h
  rw [UInt64.toNat_mod]
  exact Nat.mod_lt _ (Nat.pos_of_ne_zero fun hzero => h (UInt64.toNat_inj.1 hzero))

/-- The greatest common divisor. -/
def gcd (v w : Value) (offset : Nat) : Checked Value := do
  let a ← (← v.asNumber offset).toInteger offset
  let b ← (← w.asNumber offset).toInteger offset
  return .ofNat (euclid (magnitudeWord a) (magnitudeWord b)).toNat

/-- The first number that has no room in a 64-bit word without sign. -/
def wordLimit : Nat := twoPow 64

/-- The product of two words, if a word has room for it. -/
def wordProduct? (x y : UInt64) : Option UInt64 :=
  if x.toNat * y.toNat < wordLimit then some (x * y) else none

/-- The least common multiple of two words, if a word has room for it: one of them divided by
the greatest common divisor, times the other. -/
def commonMultiple? (x y : UInt64) : Option UInt64 :=
  if euclid x y = 0 then some 0 else wordProduct? (x / euclid x y) y

/-- The least common multiple. -/
def lcm (v w : Value) (offset : Nat) : Checked Value := do
  let a ← (← v.asNumber offset).toInteger offset
  let b ← (← w.asNumber offset).toInteger offset
  match commonMultiple? (magnitudeWord a) (magnitudeWord b) with
  | some n => .ok (.ofNat n.toNat)
  | none => failAt offset (.domain .commonMultiple)

/-! ## Extremes and sums -/

/-- The values that a function of any number of arguments works on: the items
of a lone array, else the arguments. -/
def spread (args : List Value) : EvalM (List Value) := do
  match args with
  | [.array c] => return ((← get).items c).toList
  | args => return args

/-- The value that compares as `wanted` with every value before it. -/
def extreme (ctx : Context) (wanted : Ordering) (args : List Value) (offset : Nat) :
    EvalM Value := do
  match ← spread args with
  | [] => fail offset (.argument .noValue)
  | first :: rest =>
    rest.foldlM (fun best candidate => do
      let order ← compareValues ctx candidate best offset
      return if order = wanted then candidate else best) first

/-- A value kept between two bounds. -/
def clamp (ctx : Context) (v low high : Value) (offset : Nat) : EvalM Value := do
  if (← compareValues ctx low high offset) = .gt then
    let low ← textOf low
    let high ← textOf high
    fail offset (.argument (.clampBounds low high))
  else if (← compareValues ctx v low offset) = .lt then return low
  else if (← compareValues ctx v high offset) = .gt then return high
  else return v

/-- Adds one more number or quantity. -/
def addNumeric (ctx : Context) (offset : Nat) (total v : Value) : EvalM Value :=
  if v.isNumeric then add ctx total v offset
  else (v.wrongKind "number" offset : Checked Value)

/-- The sum of numbers and quantities. -/
def sumValues (ctx : Context) (args : List Value) (offset : Nat) : EvalM Value := do
  (← spread args).foldlM (addNumeric ctx offset) (.number .zero)

/-- The average of numbers and quantities. -/
def averageValues (ctx : Context) (args : List Value) (offset : Nat) : EvalM Value := do
  let items ← spread args
  if items.isEmpty then fail offset (.noValues Aggregate.average.name)
  else
    let total ← items.foldlM (addNumeric ctx offset) (.number .zero)
    div ctx total (.ofNat items.length) offset

end Reckoner.Eval
