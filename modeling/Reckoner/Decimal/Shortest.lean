import Reckoner.Powers

/-!
# The shortest digits of a double

A double stands for all the numbers that round to it.  `Shortest.digits` gives
the decimal with the fewest digits among them, and of several such the one
nearest to the double itself.

A positive double is `m * 2 ^ q`.  Half a step to either side still rounds to
it; the step below is half as long where `m` is the least with its exponent.
The two ends count if `m` is even.
-/

namespace Reckoner.Shortest

/-- A positive double as a whole number times a power of two, and whether the
step below it is the short one. -/
structure Binary where
  mantissa : Nat
  exponent : Int
  shortBelow : Bool
deriving DecidableEq, Repr

/-- The double with the given bits, without its sign. -/
def Binary.ofBits (bits : Nat) : Binary :=
  let fraction : Nat := bits % twoPow 52
  let biased : Nat := bits / twoPow 52 % twoPow 11
  if biased = 0 then { mantissa := fraction, exponent := -1074, shortBelow := false }
  else
    { mantissa := fraction + twoPow 52, exponent := (biased : Int) - 1075,
      shortBelow := fraction = 0 && 1 < biased }

/-- `a * 2 ^ i * 10 ^ j` as a fraction. -/
def fraction (a : Nat) (i j : Int) : Nat × Nat :=
  (a * twoPow i.toNat * tenPow j.toNat, twoPow (-i).toNat * tenPow (-j).toNat)

/-- Whether `d * 10 ^ k` rounds to a double. -/
def rounds (b : Binary) (d : Nat) (k : Int) : Bool :=
  let (num, den) := fraction d (2 - b.exponent) k
  let low := if b.shortBelow then 4 * b.mantissa - 1 else 4 * b.mantissa - 2
  let high := 4 * b.mantissa + 2
  if b.mantissa % 2 = 0 then low * den ≤ num && num ≤ high * den
  else low * den < num && num < high * den

/-- The digits of a double down to the power `k` of ten, rounded down. -/
def floorAt (b : Binary) (k : Int) : Nat :=
  let (num, den) := fraction b.mantissa b.exponent (-k)
  num / den

/-- Whether a double is nearer to `(d + 1) * 10 ^ k` than to `d * 10 ^ k`; a
tie is so if `d` is odd. -/
def nearerAbove (b : Binary) (d : Nat) (k : Int) : Bool :=
  let (num, den) := fraction b.mantissa b.exponent (-k)
  let twice := 2 * num
  let middle := (2 * d + 1) * den
  middle < twice || (middle = twice && d % 2 = 1)

/-- The power of ten of the first digit. -/
def leadingPower (b : Binary) : Int :=
  let guess : Int := -345
  (digitLength (floorAt b guess) : Int) - 1 + guess

/-- The neighbour with `k` as its last power of ten that rounds to the double,
if there is one. -/
def hit? (b : Binary) (k : Int) : Option Nat :=
  let d := floorAt b k
  match rounds b d k, rounds b (d + 1) k with
  | true, true => some (if nearerAbove b d k then d + 1 else d)
  | true, false => some d
  | false, true => some (d + 1)
  | false, false => none

/-- The first hit with at most `more` further digits. -/
def search (b : Binary) : (more : Nat) → (k : Int) → Nat × Int
  | 0, k => (floorAt b k, k)
  | more + 1, k =>
    match hit? b k with
    | some d => (d, k)
    | none => search b more (k - 1)

/-- The shortest digits and the power of ten of the last one. -/
def digits (b : Binary) : Nat × Int :=
  if b.mantissa = 0 then (0, 0) else search b 17 (leadingPower b)

end Reckoner.Shortest
