/-!
# Digits and bytes

The value of a run of decimal digits, the pieces of a text between separators,
and the length of a text in bytes.
-/

namespace Reckoner.Text

/-- The number that a run of decimal digits writes. -/
def digitsValue (cs : List Char) : Nat := cs.foldl (fun n c => n * 10 + (c.toNat - 48)) 0

/-- How many decimal digits a text starts with. -/
def digitCount (cs : List Char) : Nat := (cs.takeWhile Char.isDigit).length

/-- The number that a text of decimal digits writes; none if it is empty or
has anything else in it. -/
def nat? (cs : List Char) : Option Nat :=
  if cs.isEmpty || !cs.all Char.isDigit then none else some (digitsValue cs)

/-- The largest signed 32-bit number. -/
def maxWord : Nat := 2147483647

/-- A signed 32-bit number, in digits with an optional sign. -/
def word? : List Char → Option Int
  | '+' :: rest => (nat? rest).bind fun n => if n ≤ maxWord then some (n : Int) else none
  | '-' :: rest => (nat? rest).bind fun n => if n ≤ maxWord + 1 then some (-(n : Int)) else none
  | cs => (nat? cs).bind fun n => if n ≤ maxWord then some (n : Int) else none

/-- What stands before the first `sep`, and what follows it if there is
one. -/
def splitOnce (sep : Char) : List Char → List Char × Option (List Char)
  | [] => ([], none)
  | c :: rest =>
    if c = sep then ([], some rest)
    else
      let (before, after) := splitOnce sep rest
      (c :: before, after)

/-- The length in bytes of the encoding. -/
def byteLength (cs : List Char) : Nat := cs.foldl (fun n c => n + c.utf8Size) 0

end Reckoner.Text
