/-!
# Sets of characters as ranges

A set of characters is written as the inclusive ranges of its code points, in
ascending order.  `inRanges` tests membership by halving the table.

White space is such a set (`isBlank`); it is trimmed from both ends of a text.
-/

namespace Reckoner

namespace Text

/-- The half-open search window `[lo, hi)` of the table, halved at most `steps`
times. -/
def searchRanges (table : Array (Nat × Nat)) (n : Nat) : (steps lo hi : Nat) → Bool
  | 0, _, _ => false
  | steps + 1, lo, hi =>
    if hi ≤ lo then false
    else
      let mid := (lo + hi) / 2
      match table[mid]? with
      | none => false
      | some (first, last) =>
        if n < first then searchRanges table n steps lo mid
        else if last < n then searchRanges table n steps (mid + 1) hi
        else true

/-- Whether the code point of `c` lies in one of the ranges. -/
def inRanges (table : Array (Nat × Nat)) (c : Char) : Bool :=
  searchRanges table c.toNat (table.size + 1) 0 table.size

/-! ## White space -/

/-- The code points with the property "white space". -/
def blankRanges : Array (Nat × Nat) := #[
    (9, 13), (32, 32), (133, 133), (160, 160), (5760, 5760), (8192, 8202), (8232, 8233),
    (8239, 8239), (8287, 8287), (12288, 12288)]

/-- Whether `c` is white space. -/
def isBlank (c : Char) : Bool := inRanges blankRanges c

/-- A list of characters without the blanks at its two ends. -/
def trimChars (cs : List Char) : List Char :=
  ((cs.dropWhile isBlank).reverse.dropWhile isBlank).reverse

/-- A text without the blanks at its two ends. -/
def trim (s : String) : String := String.ofList (trimChars s.toList)

end Text

end Reckoner
