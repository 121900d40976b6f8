import Reckoner.Decimal.Power

/-!
# Exponential, logarithm and real powers

The logarithm of a value from one up takes away whole powers of `e` until the
value is below one, and sums the series of `ln (1 - t)` for what is left, in
decimals and until the sum stands still.  Values below one that need no such
step go into the series at once; smaller ones by way of their reciprocal.

The exponential works on whole numbers that stand for fixed-point values with
`workingPlaces` places, far more than a decimal can hold, and rounds once at
the end: it halves its argument eight times and squares the sum of its series
back.  A real power is the exponential of a multiple of the logarithm.
-/

namespace Reckoner

namespace Decimal

/-! ## Logarithms -/

/-- `1 / e`, cut off. -/
def inverseE : Decimal := .ofScaled 3678794411714423215955237701 28

/-- `1 / ln 10`, cut off. -/
def inverseLnTen : Decimal := .ofScaled 4342944819032518276511289189 28

/-- Multiplies by `1 / e` until the value is below one; with the number of
times, at most `rounds`, on top of `count`. -/
def reduceE? : (rounds : Nat) → (count : Nat) → (x : Decimal) → Option (Nat × Decimal)
  | 0, count, x => some (count, x)
  | rounds + 1, count, x =>
    if x.less one then some (count, x)
    else (x.mul? inverseE).bind (reduceE? rounds (count + 1))

/-- Adds the terms `t ^ k / k` from `k + 1` on to `sum`, at most `rounds` of
them, until one makes no difference; `power` is `t ^ k`. -/
def lnSeries? (t : Decimal) : (rounds k : Nat) → (power sum : Decimal) → Option Decimal
  | 0, _, _, sum => some sum
  | rounds + 1, k, power, sum => do
    let power ← power.mul? t
    let term ← power.div? (.ofNat (k + 1))
    let next ← sum.add? term
    if next.sameValue sum then some next else lnSeries? t rounds (k + 1) power next

/-- The terms that are added at most; the last of them is far below the last
place. -/
def lnTerms : Nat := 400

/-- The logarithm of a value above `1 / e`. -/
def lnFromE? (x : Decimal) : Option Decimal := do
  let (count, x) ← reduceE? 100 0 x
  let t ← one.sub? x
  let sum ← lnSeries? t lnTerms 0 one zero
  (ofNat count).sub? sum

/-- The natural logarithm of a value above zero. -/
def ln? (x : Decimal) : Option Decimal :=
  if x.negative || x.isZero then none
  else if x.sameValue one then some zero
  else if inverseE.less x then lnFromE? x
  else (one.div? x).bind fun r => (lnFromE? r).map neg

/-- The power of ten that the value is, if it is one. -/
def powerOfTen? (x : Decimal) : Option Int :=
  ((List.range 29).find? fun k => x.mantissa == tenPow k).map fun k => (k : Int) - x.scale

/-- The logarithm to base ten of a value above zero. -/
def log10? (x : Decimal) : Option Decimal :=
  if x.negative || x.isZero then none
  else
    match x.powerOfTen? with
    | some k => some (.ofInt k)
    | none => x.ln?.bind inverseLnTen.mul?

/-! ## The exponential -/

/-- The places the series is summed with. -/
def workingPlaces : Nat := 60

/-- One, in fixed point. -/
def unit : Int := tenPow workingPlaces

/-- `exp` of a fixed-point value between zero and about seventy. -/
def expFixed (x : Int) : Int :=
  let r := x / 256
  let series := (List.range 48).foldl
    (fun (acc : Int × Int) (n : Nat) =>
      let term := acc.2 * r / unit / (n + 1)
      (acc.1 + term, term))
    (unit, unit)
  (List.range 8).foldl (fun y _ => y * y / unit) series.1

/-- No whole power of `e` from this one on has room. -/
def expLimit : Int := 67

/-- The value in fixed point. -/
def toFixed (x : Decimal) : Int := x.signed * tenPow (workingPlaces - x.scale)

/-- `exp` of the magnitude of a value. -/
def expAbs? (x : Decimal) : Option Decimal :=
  if expLimit * unit ≤ x.abs.toFixed then none
  else
    fitBy? divHalfEven false (expFixed x.abs.toFixed).natAbs unit.natAbs maxScale
      (Nat.le_refl maxScale)

/-- The exponential function.  That of a negative value is the reciprocal of
that of its magnitude. -/
def exp? (x : Decimal) : Option Decimal :=
  if x.isZero then some one
  else if x.negative then (expAbs? x).bind one.div?
  else expAbs? x

/-! ## Real powers -/

/-- `x ^ y` for `x` above zero, by way of the logarithm. -/
def powReal? (x y : Decimal) : Option Decimal :=
  if x.sameValue one then some one
  else do
    let exponent ← (← x.ln?).mul? y
    exponent.exp?

end Decimal

end Reckoner
