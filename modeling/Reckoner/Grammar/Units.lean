import Reckoner.Grammar.Cursor
import Reckoner.Quantity.Dimensions
import Reckoner.Text.Digits

/-!
# Units behind numbers

A unit with an optional power, then any number of further ones with stars and
slashes: `km`, `km/h`, `m*s^-2`.  A mark that no unit follows is left alone,
so `2 m * 3` has only the unit `m`.

The number of a power is read as a word of 32 bits, but its sign is turned
among all integers.  The one number that has no room with the other sign,
`-2147483648`, is no token of any source; what checked or wrapping arithmetic
makes of it is left out.
-/

namespace Reckoner.Grammar

/-- Whether a token is the name of a built-in function. -/
def isFunction : Token → Bool
  | .function _ => true
  | _ => false

/-- A unit at the front.  A function whose name is that of a unit is none if
it is called. -/
def takeUnit? : List Placed → Option (String × List Placed)
  | t :: rest =>
    match t.token.unitName? with
    | some name =>
      if isFunction t.token && (eat? .leftParen rest).isSome then none else some (name, rest)
    | none => none
  | [] => none

/-- A power at the front: a caret, a minus or none, and a whole number. -/
def takePower? (ts : List Placed) : Option (Int × List Placed) :=
  match eat? .caret ts with
  | none => none
  | some rest =>
    let (negative, rest) :=
      match eat? .minus rest with
      | some rest => (true, rest)
      | none => (false, rest)
    match rest with
    | ⟨.number text, _⟩ :: rest =>
      match Text.word? text.toList with
      | some power => some (if negative then -power else power, rest)
      | none => none
    | _ => none

/-- A unit with its power, which counts by `sign`. -/
def takeTerm? (sign : Int) (ts : List Placed) : Option (UnitTerm × List Placed) :=
  match takeUnit? ts with
  | some (unit, rest) =>
    match takePower? rest with
    | some (power, rest) => some ({ unit, exponent := sign * power }, rest)
    | none => some ({ unit, exponent := sign }, rest)
  | none => none

/-- The sign of the unit behind a mark. -/
def unitSign? : Token → Option Int
  | .mark .star => some 1
  | .mark .slash => some (-1)
  | _ => none

/-- Further units with their marks, in at most `rounds` rounds. -/
def moreTerms : (rounds : Nat) → List Placed → List UnitTerm × List Placed
  | 0, ts => ([], ts)
  | _, [] => ([], [])
  | rounds + 1, t :: rest =>
    match (unitSign? t.token).bind (takeTerm? · rest) with
    | some (term, rest) =>
      let (terms, rest) := moreTerms rounds rest
      (term :: terms, rest)
    | none => ([], t :: rest)

/-- The units at the front. -/
def takeUnits? (ts : List Placed) : Option (List UnitTerm × List Placed) :=
  match takeTerm? 1 ts with
  | some (term, rest) =>
    let (terms, rest) := moreTerms rest.length rest
    some (term :: terms, rest)
  | none => none

end Reckoner.Grammar
