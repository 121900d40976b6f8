import Reckoner.Decimal.Basic

/-!
# Decimal arithmetic

Sums and products are exact wherever they have room and go through `fit?`
otherwise; an operation is `none` when the whole part of its result is too
large or its divisor is zero.

* `add?`, `sub?` keep the larger of the two scales, except that adding a zero
  gives back the other operand as it is.
* `mul?` adds the scales.
* `rem?` has the sign of the dividend.

Quotients are in `Reckoner.Decimal.Quotient`.
-/

namespace Reckoner

namespace Decimal

/-! ## Sums -/

/-- The mantissa, with its sign, at scale `s`. -/
def signedAt (x : Decimal) (s : Nat) : Int := x.signed * tenPow (s - x.scale)

/-- The sum.  Operands that cancel give a zero without sign. -/
def add? (x y : Decimal) : Option Decimal :=
  if x.isZero then some y
  else if y.isZero then some x
  else
    let s := max x.scale y.scale
    let sum := x.signedAt s + y.signedAt s
    fit? (decide (sum < 0)) sum.natAbs s

/-- The difference. -/
def sub? (x y : Decimal) : Option Decimal :=
  if x.isZero && y.isZero then some y else x.add? y.neg

/-! ## Products -/

/-- Mantissas below this one are short. -/
abbrev shortMantissa : Nat := 4294967296

/-- A product of short mantissas with more places than this has no digit
left. -/
abbrev shortProductScale : Nat := 47

/-- The product.  Where no digit is left of it, short operands give a zero
without sign, and without places if it had far too many of them; longer ones
leave the sign on the zero. -/
def mul? (x y : Decimal) : Option Decimal :=
  let negative := x.negative != y.negative
  let product := x.mantissa * y.mantissa
  let s := x.scale + y.scale
  if x.isZero || y.isZero then some zero
  else if x.mantissa < shortMantissa ∧ y.mantissa < shortMantissa then
    if shortProductScale < s then some zero else fit? negative product s
  else (fit? negative product s).map fun z => { z with negative }

/-! ## Remainders -/

/-- The remainder of division toward zero; `none` when the divisor is zero. -/
def rem? (x y : Decimal) : Option Decimal :=
  if y.isZero then none
  else if x.isZero then some zero
  else
    match x.abs.compare y.abs with
    | .eq => some zero
    | .lt => some x
    | .gt =>
      let s := max x.scale y.scale
      fit? x.negative ((x.signedAt s).natAbs % (y.signedAt s).natAbs) s

end Decimal

end Reckoner
