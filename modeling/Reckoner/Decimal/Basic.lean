import Reckoner.Powers

/-!
# Decimals

A `Decimal` is a sign, a whole mantissa below `2 ^ 96` and a scale of at most
28 places; its value is `± mantissa / 10 ^ scale`.  Both bounds are part of
the type, so every operation has to say where the digits that do not fit go.

This module holds

* the type, its views (`signed`, `isZero`, `compare`, `sameValue`) and the
  whole numbers among its values (`ofInt`, `toInt64?`);
* the one rounding step all arithmetic goes through (`fit?`): the finest
  scale at which the value, rounded half to even, has room;
* rounding to places (`roundPlaces`, `floor`, `ceil`, `trunc`) and the removal
  of trailing zeros (`normalize`).

A zero may carry a sign.  No comparison sees it, but it is written out, so
the operations below say what sign their zeros have.
-/

namespace Reckoner

/-- The first mantissa that has no room. -/
abbrev Decimal.capacity : Nat := 79228162514264337593543950336

/-- The most places a decimal can have. -/
abbrev Decimal.maxScale : Nat := 28

/-- A signed decimal number `± mantissa / 10 ^ scale`. -/
structure Decimal where
  negative : Bool
  mantissa : Nat
  scale : Nat
  mantissa_lt : mantissa < Decimal.capacity := by decide
  scale_le : scale ≤ Decimal.maxScale := by decide
deriving DecidableEq, Repr

namespace Decimal

/-! ## Whole numbers and views -/

/-- Nought, without sign and without places. -/
def zero : Decimal := { negative := false, mantissa := 0, scale := 0 }

/-- The number one. -/
def one : Decimal := { negative := false, mantissa := 1, scale := 0 }

/-- The number ten. -/
def ten : Decimal := { negative := false, mantissa := 10, scale := 0 }

instance : Inhabited Decimal := ⟨zero⟩

/-- The whole number `n`, or the nearest one that has room. -/
def ofInt (n : Int) : Decimal :=
  if h : n.natAbs < capacity then
    { negative := decide (n < 0), mantissa := n.natAbs, scale := 0, mantissa_lt := h }
  else
    { negative := decide (n < 0), mantissa := capacity - 1, scale := 0 }

/-- The whole number `n`, or the largest one that has room. -/
def ofNat (n : Nat) : Decimal := ofInt (Int.ofNat n)

/-- The value `± m / 10 ^ s`, if it is within both bounds. -/
def ofParts? (negative : Bool) (m s : Nat) : Option Decimal :=
  if hm : m < capacity then
    if hs : s ≤ maxScale then
      some { negative, mantissa := m, scale := s, mantissa_lt := hm, scale_le := hs }
    else none
  else none

/-- The value `m / 10 ^ s` that a table gives, within both bounds. -/
def ofScaled (m s : Nat) : Decimal := (ofParts? false m s).getD zero

/-- The number two. -/
def two : Decimal := ofNat 2

/-- Whether the value is zero, whatever its sign and scale. -/
def isZero (x : Decimal) : Bool := x.mantissa == 0

/-- The mantissa with its sign. -/
def signed (x : Decimal) : Int := if x.negative then -(x.mantissa : Int) else x.mantissa

/-- Whether the value is below zero. -/
def isNegative (x : Decimal) : Bool := x.negative && !x.isZero

/-- The order of two values: both are brought to one scale and compared. -/
def compare (x y : Decimal) : Ordering :=
  Ord.compare (x.signed * tenPow y.scale) (y.signed * tenPow x.scale)

/-- Equality of values: `1.50` is the same value as `1.5`, and `-0` as `0`. -/
def sameValue (x y : Decimal) : Bool := x.compare y == .eq

/-- `x < y`. -/
def less (x y : Decimal) : Bool := x.compare y == .lt

/-- The opposite number.  A zero changes its sign too. -/
def neg (x : Decimal) : Decimal := { x with negative := !x.negative }

/-- The magnitude. -/
def abs (x : Decimal) : Decimal := { x with negative := false }

/-! ## Rounding into the capacity -/

/-- `n / d` rounded to a whole number, a tie going to the even neighbour. -/
def divHalfEven (n d : Nat) : Nat :=
  let q := n / d
  let r := n % d
  if 2 * r < d || (2 * r == d && q % 2 == 0) then q else q + 1

/-- The value `± num / den` at scale `s`, or at the first lower scale at which
its rounding to a whole mantissa has room.  A zero that comes out has no
sign. -/
def fitBy? (round : Nat → Nat → Nat) (negative : Bool) (num den : Nat) :
    (s : Nat) → s ≤ maxScale → Option Decimal
  | 0, h =>
    let q := round num den
    if hq : q < capacity then
      some { negative := negative && q != 0, mantissa := q, scale := 0,
             mantissa_lt := hq, scale_le := h }
    else none
  | s + 1, h =>
    let q := round (num * tenPow (s + 1)) den
    if hq : q < capacity then
      some { negative := negative && q != 0, mantissa := q, scale := s + 1,
             mantissa_lt := hq, scale_le := h }
    else fitBy? round negative num den s (Nat.le_of_succ_le h)

/-- The value `± m / 10 ^ s`, for a mantissa and a scale of any size: exact
where it has room, else at the finest scale that has room.  It is `none` when
even the whole part is too large. -/
def fit? (negative : Bool) (m s : Nat) : Option Decimal :=
  fitBy? divHalfEven negative m (tenPow s) (min s maxScale) (Nat.min_le_right s maxScale)

/-- A number of thousandths, with three places. -/
def ofThousandths (n : Int) : Decimal := (fit? (decide (n < 0)) n.natAbs 3).getD zero

/-! ## Trailing zeros -/

/-- `m / 10 ^ s` in lowest terms among the powers of ten. -/
def stripZeros : Nat → Nat → Nat × Nat
  | m, 0 => (m, 0)
  | m, s + 1 => if m % 10 == 0 then stripZeros (m / 10) s else (m, s + 1)

theorem stripZeros_fst_le (m s : Nat) : (stripZeros m s).1 ≤ m := by
  induction s generalizing m with
  | zero => simp [stripZeros]
  | succ s ih =>
    rw [stripZeros]
    split
    · exact Nat.le_trans (ih (m / 10)) (Nat.div_le_self m 10)
    · exact Nat.le_refl m

theorem stripZeros_snd_le (m s : Nat) : (stripZeros m s).2 ≤ s := by
  induction s generalizing m with
  | zero => simp [stripZeros]
  | succ s ih =>
    rw [stripZeros]
    split
    · exact Nat.le_succ_of_le (ih (m / 10))
    · exact Nat.le_refl (s + 1)

/-- The same value without trailing zeros behind the point; a zero loses its
sign and all its places. -/
def normalize (x : Decimal) : Decimal :=
  if x.isZero then zero
  else
    { negative := x.negative
      mantissa := (stripZeros x.mantissa x.scale).1
      scale := (stripZeros x.mantissa x.scale).2
      mantissa_lt := Nat.lt_of_le_of_lt (stripZeros_fst_le _ _) x.mantissa_lt
      scale_le := Nat.le_trans (stripZeros_snd_le _ _) x.scale_le }

/-! ## Rounding to places -/

/-- Where a value halfway between two neighbours goes. -/
inductive Tie where
  | toEven
  | awayFromZero
deriving DecidableEq, Repr

/-- `n / d` rounded to the nearest whole number. -/
def Tie.divide (tie : Tie) (n d : Nat) : Nat :=
  match tie with
  | .toEven => divHalfEven n d
  | .awayFromZero => if 2 * (n % d) < d then n / d else n / d + 1

/-- A rounded quotient by at least ten has room where the dividend had. -/
theorem Tie.divide_lt (tie : Tie) {n d : Nat} (hn : n < capacity) (hd : 10 ≤ d) :
    tie.divide n d < capacity := by
  have h1 : n / d ≤ n / 10 := Nat.div_le_div_left hd (by decide)
  have h2 : tie.divide n d ≤ n / d + 1 := by
    cases tie <;> simp only [Tie.divide, divHalfEven] <;> split <;> omega
  simp only [capacity] at hn ⊢
  omega

/-- The value with at most `places` places.  A zero gets exactly that many and
keeps its sign; any other value with no more places stays as it is, and a zero
that comes out of rounding has no sign. -/
def roundPlaces (x : Decimal) (places : Nat) (tie : Tie) : Decimal :=
  if x.isZero then
    { x with scale := min places maxScale, scale_le := Nat.min_le_right places maxScale }
  else if h : x.scale ≤ places then x
  else
    have hd : 10 ≤ tenPow (x.scale - places) :=
      ten_le_tenPow (Nat.sub_pos_of_lt (Nat.lt_of_not_le h))
    let q := tie.divide x.mantissa (tenPow (x.scale - places))
    { negative := x.negative && q != 0
      mantissa := q
      scale := places
      mantissa_lt := tie.divide_lt x.mantissa_lt hd
      scale_le := Nat.le_trans (Nat.le_of_lt (Nat.lt_of_not_le h)) x.scale_le }

/-- The whole part, toward zero.  The sign stays, also on a zero. -/
def trunc (x : Decimal) : Decimal :=
  { negative := x.negative
    mantissa := x.mantissa / tenPow x.scale
    scale := 0
    mantissa_lt := Nat.lt_of_le_of_lt (Nat.div_le_self _ _) x.mantissa_lt
    scale_le := Nat.zero_le _ }

/-- Whether there is nothing behind the point. -/
def isWhole (x : Decimal) : Bool := x.mantissa % tenPow x.scale == 0

/-- A whole part moved one unit away from zero. -/
def stepOut (x : Decimal) : Decimal :=
  if h : x.mantissa + 1 < capacity then { x with mantissa := x.mantissa + 1, mantissa_lt := h }
  else x

/-- The largest whole number that is not above the value. -/
def floor (x : Decimal) : Decimal :=
  if x.negative && !x.isWhole then x.trunc.stepOut else x.trunc

/-- The smallest whole number that is not below the value.  A value that is
whole already keeps its places. -/
def ceil (x : Decimal) : Decimal :=
  if x.isWhole then x else if x.negative then x.trunc else x.trunc.stepOut

/-- The whole part as an integer. -/
def toInt (x : Decimal) : Int := x.trunc.signed

/-- The least integer that fits a signed 64-bit word. -/
def int64Min : Int := -9223372036854775808

/-- The greatest integer that fits a signed 64-bit word. -/
def int64Max : Int := 9223372036854775807

/-- The whole part, if it fits a signed 64-bit word. -/
def toInt64? (x : Decimal) : Option Int :=
  let n := x.toInt
  if int64Min ≤ n ∧ n ≤ int64Max then some n else none

end Decimal

end Reckoner
