import Reckoner.Decimal.Quotient

/-!
# Decimals and binary floating point

Trigonometry and a few out-of-range powers are computed in binary floating
point.  `toFloat` goes there, `ofFloat?` comes back keeping the fifteen or
sixteen digits a double guarantees, and `settle` is the rounding that every
such result gets before it is shown or calculated with.
-/

namespace Reckoner

namespace Decimal

/-! ## From decimal to binary -/

/-- The double nearest to a whole number, ties to even: the leading 64 bits,
the last of them set if anything behind them is, are rounded by the
conversion and put back in place. -/
def floatOfNat (n : Nat) : Float :=
  if n < twoPow 64 then (UInt64.ofNat n).toFloat
  else
    let shift := n.log2 - 63
    let top := n >>> shift
    let sticky := if n % twoPow shift == 0 then top else top ||| 1
    (UInt64.ofNat sticky).toFloat.scaleB shift

/-- `10 ^ n` as a double, by repeated squaring over at most `rounds` binary
digits of `n`. -/
def floatTenPow : (rounds : Nat) → (power product : Float) → (n : Nat) → Float
  | 0, _, product, _ => product
  | rounds + 1, power, product, n =>
    let product := if n % 2 == 1 then product * power else product
    if n / 2 == 0 then product else floatTenPow rounds (power * power) product (n / 2)

/-- The value as a double: whole part and fraction apart, their sum rounded
again to the places the decimal has. -/
def toFloat (x : Decimal) : Float :=
  let sign := fun (f : Float) => if x.negative then -f else f
  if x.scale == 0 then (if x.isZero then 0.0 else sign (floatOfNat x.mantissa))
  else
    let den := tenPow x.scale
    let whole := floatOfNat (x.mantissa / den)
    let fraction := floatOfNat (x.mantissa % den) / floatOfNat den
    if fraction == 0.0 then sign whole
    else
      let power := floatTenPow 8 10.0 1.0 x.scale
      sign (((whole + fraction) * power).round / power)

/-! ## From binary to decimal -/

/-- Turns the factor `2 ^ -n` of `m` into places: an even `m` is halved, an odd
one multiplied by five at the price of a place, or halved inexactly where that
has no room. -/
def absorbHalves : (n : Nat) → (m : Nat) → (e : Int) → Nat × Int
  | 0, m, e => (m, e)
  | n + 1, m, e =>
    if m % 2 == 0 then absorbHalves n (m / 2) (e + 1)
    else if m * 5 < capacity then absorbHalves n (m * 5) e
    else absorbHalves n (m / 2) (e + 1)

/-- Turns the factor `2 ^ n` of `m` into the mantissa: doubled while that has
room, else divided by five. -/
def absorbDoublings : (n : Nat) → (m : Nat) → (e : Int) → Nat × Int
  | 0, m, e => (m, e)
  | n + 1, m, e =>
    if m < capacity / 2 then absorbDoublings n (m * 2) (e - 1)
    else absorbDoublings n (m / 5) e

/-- One place less, rounded half up. -/
def dropPlace (m : Nat) : Nat := if 5 ≤ m % 10 then m / 10 + 1 else m / 10

/-- Drops places until there are at most 28; what becomes zero has none. -/
def dropToScale : (n : Nat) → (m : Nat) → Nat × Nat
  | 0, m => (m, maxScale)
  | n + 1, m => if m / 10 == 0 then (0, 0) else dropToScale n (dropPlace m)

/-- The largest mantissa a double vouches for. -/
def doublePrecision : Nat := twoPow 52

/-- Drops places while the mantissa has more digits than a double vouches
for. -/
def dropNoise : (s : Nat) → (m : Nat) → Nat × Nat
  | 0, m => (m, 0)
  | s + 1, m => if doublePrecision ≤ m then dropNoise s (dropPlace m) else (m, s + 1)

/-- `± m * 10 ^ e`, given a mantissa that has room. -/
def ofDigits? (negative : Bool) (m : Nat) (e : Int) : Option Decimal :=
  if 0 < e then
    let n := e.toNat
    if n ≤ maxScale then ofParts? negative (m * tenPow n) 0 else none
  else
    let s := (-e).toNat
    let (m, s) := if s ≤ maxScale then (m, s) else dropToScale (s - maxScale) m
    let (m, s) := dropNoise s m
    let (m, s) := stripZeros m s
    ofParts? negative m s

/-- A finite double as a decimal with the digits it guarantees; `none` when it
is too large. -/
def ofFloat? (f : Float) : Option Decimal :=
  let bits := f.toBits.toNat
  let negative := twoPow 63 ≤ bits
  let biased := bits / twoPow 52 % twoPow 11
  let fraction := bits % twoPow 52
  if biased == 0 && fraction == 0 then some { zero with negative }
  else
    let m := if biased == 0 then fraction else fraction + twoPow 52
    let e2 : Int := ((max biased 1 : Nat) : Int) - 1075
    if capacity ≤ m * twoPow e2.toNat then none
    else
      let (m, e) :=
        if e2 < 0 then absorbHalves (-e2).toNat m e2 else absorbDoublings e2.toNat m e2
      ofDigits? negative m e

/-- Rounds away the noise of an approximate result. -/
def settle (x : Decimal) : Decimal := (x.roundPlaces 15 .toEven).normalize

/-- How a double can fail to be a decimal. -/
inductive FloatFault where
  | notFinite
  | outOfRange
deriving DecidableEq, Repr

/-- A floating-point result as a settled decimal. -/
def ofFloatResult (f : Float) : Except FloatFault Decimal :=
  if !f.isFinite then .error .notFinite
  else
    match ofFloat? f with
    | some d => .ok d.settle
    | none => .error .outOfRange

end Decimal

end Reckoner
