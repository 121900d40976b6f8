import Reckoner.Decimal.Quotient

/-!
# Whole powers

`powNat?` multiplies by repeated squaring.  Up to the 1023rd power each product
is a decimal and rounded as such.  Higher powers are carried with many more
digits (`Long`), cut off where they end, and what comes out is the next decimal
beyond the value: no such power can be written in full, except those of one.
-/

namespace Reckoner

namespace Decimal

/-! ## Products of decimals -/

/-- `product * power ^ n` by repeated squaring over at most `rounds` binary
digits of `n`, lowest first. -/
def powLoop? : (rounds : Nat) → (power product : Decimal) → (n : Nat) → Option Decimal
  | 0, _, product, _ => some product
  | rounds + 1, power, product, n => do
    let product ← if n % 2 == 1 then product.mul? power else some product
    if n / 2 == 0 then some product
    else
      let square ← power.mul? power
      powLoop? rounds square product (n / 2)

/-! ## Long products -/

/-- A number `mantissa * 10 ^ exponent` with up to `Long.width` digits. -/
structure Long where
  mantissa : Nat
  exponent : Int
deriving DecidableEq, Repr

namespace Long

/-- The digits that are kept. -/
def width : Nat := 96

/-- Cuts off the digits beyond the width. -/
def cut (x : Long) : Long :=
  let excess := digitLength x.mantissa - width
  { mantissa := x.mantissa / tenPow excess, exponent := x.exponent + excess }

/-- The product, cut off. -/
def mul (x y : Long) : Long :=
  cut { mantissa := x.mantissa * y.mantissa, exponent := x.exponent + y.exponent }

/-- `product * power ^ n` over at most `rounds` binary digits of `n`, lowest
first. -/
def powLoop : (rounds : Nat) → (power product : Long) → (n : Nat) → Long
  | 0, _, product, _ => product
  | rounds + 1, power, product, n =>
    let product := if n % 2 == 1 then product.mul power else product
    if n / 2 == 0 then product else powLoop rounds (power.mul power) product (n / 2)

/-- The power of ten just above the value. -/
def magnitude (x : Long) : Int := digitLength x.mantissa + x.exponent

/-- A long number has no places beyond these. -/
def places : Nat := 2 * maxScale

/-- The next decimal beyond `± x`; `none` when it is too large.  What has no
digit among the places is zero. -/
def beyond? (x : Long) (negative : Bool) : Option Decimal :=
  if x.magnitude ≤ -(places : Int) then some zero
  else if 30 ≤ x.magnitude then none
  else
    fitBy? (fun n d => n / d + 1) negative (x.mantissa * tenPow x.exponent.toNat)
      (tenPow (-x.exponent).toNat) maxScale (Nat.le_refl maxScale)

end Long

/-! ## Powers -/

/-- The first power that is carried with more digits than a decimal has. -/
def longPower : Nat := 1024

/-- `x ^ n`. -/
def powNat? (x : Decimal) (n : Nat) : Option Decimal :=
  let negative := x.negative && n % 2 == 1
  if n == 0 then some one
  else if x.isZero then some zero
  else if x.sameValue one then some one
  else if n == 1 then some x
  else if n == 2 then x.mul? x
  else if n < longPower then (powLoop? (n.log2 + 1) x one n).map normalize
  else if x.abs.sameValue one then some { one with negative }
  else
    let base : Long := { mantissa := x.mantissa, exponent := -(x.scale : Int) }
    ((Long.powLoop (n.log2 + 1) base { mantissa := 1, exponent := 0 } n).beyond? negative).map normalize

/-- `x ^ n`; a negative power is the reciprocal of the positive one. -/
def powInt? (x : Decimal) (n : Int) : Option Decimal :=
  if 0 ≤ n then x.powNat? n.natAbs
  else (x.powNat? n.natAbs).bind one.div?

end Decimal

end Reckoner
