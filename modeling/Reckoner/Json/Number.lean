import Reckoner.Decimal.Shortest
import Reckoner.Decimal.Text
import Reckoner.Text.Digits

/-!
# JSON numbers

A whole number that has room in a 64-bit word stays as it is.  Any other
number becomes a double and is shown with the shortest digits that stand for
the double.

The double is made out of the first digits that have room in a word without
sign, by one multiplication with a power of ten or one division by it, so it
is not always the nearest one.
-/

namespace Reckoner.Json

/-- The parts of a written number. -/
structure Written where
  negative : Bool
  whole : List Char
  /-- The digits behind the point, if there is a point. -/
  fraction : Option (List Char)
  /-- Whether the power of ten is negative, and its digits. -/
  power : Option (Bool × List Char)
deriving DecidableEq, Repr

/-- The first number that has no room in a word without sign. -/
def wordLimit : Nat := twoPow 64

/-- Appends digits to a number as long as it has room in a word, and gives the
number of digits that were appended. -/
def absorb (n taken : Nat) : List Char → Nat × Nat
  | [] => (n, taken)
  | c :: rest =>
    let next := n * 10 + (c.toNat - 48)
    if next < wordLimit then absorb next (taken + 1) rest else (n, taken)

/-! ## Doubles -/

/-- The largest power of ten that a double has room for. -/
def maxPower : Nat := 308

/-- A power of ten. -/
def tenPower (n : Nat) : Float := Float.ofScientific 1 false n

/-- `f * 10 ^ e`, in at most `rounds` steps; none if that is too large. -/
def scaleBy : (rounds : Nat) → Float → Int → Option Float
  | 0, f, _ => some f
  | rounds + 1, f, e =>
    if e.natAbs ≤ maxPower then
      if 0 ≤ e then
        let g := f * tenPower e.natAbs
        if g.isInf then none else some g
      else some (f / tenPower e.natAbs)
    else if f == 0.0 then some f
    else if 0 ≤ e then none
    else scaleBy rounds (f / tenPower maxPower) (e + maxPower)

/-- The double of a number without sign; none if it is too large. -/
def toDouble (w : Written) : Option Float :=
  let (n, taken) := absorb 0 0 w.whole
  let (n, behind) := absorb n 0 (w.fraction.getD [])
  let places : Int := ((w.whole.length - taken : Nat) : Int) - behind
  let f := n.toUInt64.toFloat
  match w.power with
  | none => scaleBy 8 f places
  | some (down, digits) =>
    let e := Text.digitsValue digits
    if Text.maxWord < e then if n ≠ 0 && !down then none else some 0.0
    else scaleBy 8 f (if down then places - e else places + e)

/-! ## Text -/

/-- Shortest digits with a point or a power of ten: positional from `10 ^ -5`
up to `10 ^ 16`. -/
def renderDigits (d : Nat) (k : Int) : String :=
  let text := toString d
  let point : Int := text.length + k
  if 0 ≤ k ∧ point ≤ 16 then text ++ "".pushn '0' k.toNat ++ ".0"
  else if 0 < point ∧ point ≤ 16 then
    String.ofList (text.toList.take point.toNat) ++ "." ++
      String.ofList (text.toList.drop point.toNat)
  else if -5 < point ∧ point ≤ 0 then "0." ++ "".pushn '0' (-point).toNat ++ text
  else
    let e := point - 1
    let behind := String.ofList (text.toList.drop 1)
    String.ofList (text.toList.take 1) ++ (if behind.isEmpty then "" else "." ++ behind) ++ "e" ++
      (if e < 0 then "-" else "+") ++ toString e.natAbs

/-- The text of a double without sign. -/
def renderDouble (f : Float) : String :=
  let (d, k) := Shortest.digits (Shortest.Binary.ofBits f.toBits.toNat)
  renderDigits d k

/-- Whether a written number is a whole number that stays as it is; a negative
zero does not. -/
def staysWhole (w : Written) : Bool :=
  let n := Text.digitsValue w.whole
  w.fraction.isNone && w.power.isNone &&
    (if w.negative then 0 < n && n ≤ twoPow 63 else n < wordLimit)

/-- The text that a written number is shown with; none if it is too large. -/
def showNumber? (w : Written) : Option String :=
  let sign := if w.negative then "-" else ""
  if staysWhole w then some (sign ++ toString (Text.digitsValue w.whole))
  else (toDouble w).map fun f => sign ++ renderDouble f

end Reckoner.Json
