import Reckoner.Decimal.Arith

/-!
# Quotients and square roots

`div?` is long division.  It starts from the whole quotient of the mantissas
and appends up to nine digits at a time until nothing remains or no further
digit has room; what still remains then is rounded half to even.  The zeros
that came in with the last digits are taken away again in groups of four, two
and one (`dropZeros`), so that a few of them can stay.

`sqrt?` is Heron's iteration, run until it stands still.
-/

namespace Reckoner

namespace Decimal

/-! ## Long division -/

/-- The digits one step of a division appends at most. -/
abbrev stepDigits : Nat := 9

/-- How many digits can be appended to the quotient `q` with `s` places: those
that leave it within the capacity and within the places. -/
def appendable (q : Nat) (s : Int) : Nat :=
  ((List.range (stepDigits + 1)).reverse.find? fun (p : Nat) =>
    decide (s + p ≤ maxScale) && decide (q * tenPow p < capacity)).getD 0

/-- A quotient under way: `digits` with `places`, which may still be below
zero, and what is left of the dividend. -/
structure Division where
  digits : Nat
  rest : Nat
  places : Int
deriving DecidableEq, Repr

/-- The quotient of `digits + rest / d`, rounded half to even.  If that has no
room, the last place is given up. -/
def Division.close? (v : Division) (d : Nat) : Option (Nat × Nat) :=
  let q := divHalfEven (v.digits * d + v.rest) d
  if v.places < 0 then none
  else if q < capacity then some (q, v.places.toNat)
  else if v.places = 0 then none
  else some (divHalfEven (v.digits * d + v.rest) (10 * d), v.places.toNat - 1)

/-- Appends `p` digits. -/
def Division.append (v : Division) (d p : Nat) : Division :=
  { digits := v.digits * tenPow p + v.rest * tenPow p / d
    rest := v.rest * tenPow p % d
    places := v.places + p }

/-- Goes on with a division by `d` for at most `rounds` steps.  It ends where
nothing remains, or where the next digits have no room. -/
def Division.run? (d : Nat) : (rounds : Nat) → Division → Option (Nat × Nat)
  | 0, v => v.close? d
  | rounds + 1, v =>
    if v.rest = 0 ∧ 0 ≤ v.places then some (v.digits, v.places.toNat)
    else
      let p := if v.rest = 0 then min stepDigits (-v.places).toNat else appendable v.digits v.places
      if p = 0 then v.close? d
      else
        let v := v.append d p
        if v.digits < capacity then run? d rounds v else v.close? d

/-- The steps a division takes at most: nine digits each, from 28 places too
few to 28 places. -/
def divisionRounds : Nat := 64

/-! ## Zeros at the end -/

/-- Takes `n` zeros away if there are that many. -/
def dropGroup (n : Nat) (v : Nat × Nat) : Nat × Nat :=
  if n ≤ v.2 ∧ v.1 % tenPow n = 0 then (v.1 / tenPow n, v.2 - n) else v

/-- Takes eight zeros away at a time while the low word of the mantissa is
empty. -/
def dropWords : (rounds : Nat) → Nat × Nat → Nat × Nat
  | 0, v => v
  | rounds + 1, v =>
    if v.1 % shortMantissa = 0 ∧ 8 ≤ v.2 ∧ v.1 % tenPow 8 = 0 then
      dropWords rounds (v.1 / tenPow 8, v.2 - 8)
    else v

/-- Takes zeros away from the end of a mantissa with its places. -/
def dropZeros (v : Nat × Nat) : Nat × Nat :=
  dropGroup 1 (dropGroup 2 (dropGroup 4 (dropWords 3 v)))

/-! ## The quotient -/

/-- The quotient; `none` also when the divisor is zero.  Where the mantissas
divide evenly no place is added and no zero is taken away. -/
def div? (x y : Decimal) : Option Decimal :=
  if y.isZero then none
  else if x.isZero then some zero
  else
    let start : Division :=
      { digits := x.mantissa / y.mantissa
        rest := x.mantissa % y.mantissa
        places := (x.scale : Int) - y.scale }
    match start.run? y.mantissa divisionRounds with
    | none => none
    | some v =>
      let (m, s) := if start.rest = 0 then v else dropZeros v
      ofParts? (x.negative != y.negative && m != 0) m s

/-! ## Square roots -/

/-- Heron's iteration `r ↦ (r + x / r) / 2` until two rounds agree. -/
def sqrtLoop? (x : Decimal) : (rounds : Nat) → (last result : Decimal) → Option Decimal
  | 0, _, _ => none
  | rounds + 1, last, result =>
    if last.sameValue result then some result
    else do
      let quotient ← x.div? result
      let sum ← result.add? quotient
      let next ← sum.div? two
      sqrtLoop? x rounds result next

/-- The square root; `none` for anything with a negative sign, a negative zero
included. -/
def sqrt? (x : Decimal) : Option Decimal :=
  if x.negative then none
  else if x.isZero then some zero
  else do
    let half ← x.div? two
    let start := if half.isZero then x else half
    let last ← start.add? one
    sqrtLoop? x 1000 last start

end Decimal

end Reckoner
