import Reckoner.Decimal.Arith

/-!
# Decimals as text

* `render` writes a decimal in plain notation with exactly the places it has,
  `plain` without trailing zeros.
* `parse?` reads digits with at most one point, an optional sign and
  underscores after the first digit.  Digits that have no room are dropped;
  the first of them decides the rounding, half up.
* `parseScientific?` reads a mantissa and a power of ten, and `parseNumber?`
  picks between the two.
* `parseRounded?` reads both notations and rounds where `parseScientific?`
  finds too many places.
-/

namespace Reckoner

namespace Decimal

/-! ## Writing -/

/-- `text` with zeros in front, up to `width` characters. -/
def padZeros (width : Nat) (text : String) : String :=
  String.ofList (List.replicate (width - text.length) '0') ++ text

/-- The magnitude in plain notation. -/
def renderMagnitude (m s : Nat) : String :=
  if s == 0 then toString m
  else
    let digits := (padZeros (s + 1) (toString m)).toList
    String.ofList (digits.take (digits.length - s)) ++ "." ++
      String.ofList (digits.drop (digits.length - s))

/-- Plain notation with all places the decimal has, and its sign. -/
def render (x : Decimal) : String :=
  (if x.negative then "-" else "") ++ renderMagnitude x.mantissa x.scale

/-- Plain notation without trailing zeros. -/
def plain (x : Decimal) : String := x.normalize.render

/-- Results are shown with at most this many places. -/
def shownPlaces : Nat := 15

/-- A value as results show it: rounded to the shown places, half to even, and
without trailing zeros. -/
def shown (x : Decimal) : String := (x.roundPlaces shownPlaces .toEven).plain

/-! ## Reading -/

/-- The value of a decimal digit. -/
def digit? (c : Char) : Option Nat :=
  if '0' ≤ c ∧ c ≤ '9' then some (c.toNat - '0'.toNat) else none

/-- The decimal `± m / 10 ^ s`, if it is within both bounds.  A zero has no
sign. -/
def ofRead? (negative : Bool) (m s : Nat) : Option Decimal :=
  ofParts? (negative && m != 0) m s

/-- Whether a character may stand behind the digits that have room. -/
def isTail (c : Char) : Bool := c == '_' || (digit? c).isSome

/-- Ends a reading at the first character that has no room.  A digit of five
or more rounds up, and if that overflows the last place is given up.  Behind
it only digits and underscores may follow. -/
def roundOff? (negative : Bool) (m s : Nat) (c : Char) (rest : List Char) : Option Decimal :=
  if !isTail c || !rest.all isTail then none
  else if (digit? c).getD 0 < 5 then ofRead? negative m s
  else if m + 1 < capacity then ofRead? negative (m + 1) s
  else if s == 0 then none
  else ofRead? negative ((m + 5) / 10) (s - 1)

/-- A mantissa from here on is long. -/
abbrev longMantissa : Nat := 1844674407370954906

/-- Reads digits, a point and underscores behind the part already read: the
mantissa `m` with `s` places, `point` if the point was seen and `any` if a
digit was.  Once the mantissa was `long` before its last digit, underscores
behind the last place are passed over in search of the digit that rounds it;
before, the first of them counts as a zero. -/
def readDigits? (negative : Bool) (m s : Nat) (point any long : Bool) : List Char → Option Decimal
  | [] => if any then ofRead? negative m s else none
  | c :: rest =>
    if point && maxScale ≤ s then
      if long && c == '_' then readDigits? negative m s point any long rest
      else roundOff? negative m s c rest
    else
      match digit? c with
      | some d =>
        if m * 10 + d < capacity then
          readDigits? negative (m * 10 + d) (if point then s + 1 else 0) point true
            (decide (longMantissa ≤ m)) rest
        else if point then roundOff? negative m s c rest
        else none
      | none =>
        if c == '.' && !point then readDigits? negative m s true any long rest
        else if c == '_' && any then readDigits? negative m s point any long rest
        else none

/-- Reads a number in plain notation. -/
def parse? (text : List Char) : Option Decimal :=
  match text with
  | '-' :: rest => readDigits? true 0 0 false false false rest
  | '+' :: rest => readDigits? false 0 0 false false false rest
  | _ => readDigits? false 0 0 false false false text

/-- The value of a non-empty run of digits. -/
def readNat? : List Char → Option Nat
  | [] => none
  | cs => cs.foldl (fun acc c => do return (← acc) * 10 + (← digit? c)) (some 0)

/-- A power of ten: digits, with a plus sign in front or not. -/
def readExponent? : List Char → Option Nat
  | '+' :: rest => readNat? rest
  | cs => readNat? cs

/-- Whether `c` marks the power of ten. -/
def isExponentMark (c : Char) : Bool := c == 'e' || c == 'E'

/-- Reads a mantissa, a mark and a power of ten of at most 28 either way.  A
negative power adds to the places, which must stay within the bound; a
positive one takes places away and then appends zeros. -/
def parseScientific? (text : List Char) : Option Decimal := do
  let base ← parse? (text.takeWhile (!isExponentMark ·))
  match text.dropWhile (!isExponentMark ·) with
  | _ :: '-' :: digits =>
    let e ← readExponent? digits
    ofRead? base.negative base.mantissa (base.scale + e)
  | _ :: digits =>
    let e ← readExponent? digits
    if maxScale < e then none
    else if e ≤ base.scale then ofRead? base.negative base.mantissa (base.scale - e)
    else ofRead? base.negative (base.mantissa * tenPow (e - base.scale)) 0
  | [] => none

/-- Reads a number in either notation, with places beyond the last rounded
away: a power of ten of at most 28 either way is multiplied in. -/
def parseRounded? (text : List Char) : Option Decimal := do
  let base ← parse? (text.takeWhile (!isExponentMark ·))
  match text.dropWhile (!isExponentMark ·) with
  | [] => some base
  | _ :: '-' :: digits => base.mul? (← ofParts? false 1 (← readExponent? digits))
  | _ :: digits =>
    let e ← readExponent? digits
    if maxScale < e then none else base.mul? (← ofParts? false (tenPow e) 0)

/-- Reads a number in either notation. -/
def parseNumber? (text : String) : Option Decimal :=
  if text.toList.any isExponentMark then (parseScientific? text.toList).map normalize
  else parse? text.toList

end Decimal

end Reckoner
