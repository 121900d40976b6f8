import Reckoner.Json.Number

/-!
# JSON

The values of the JSON format, and the reading of them.  `Json.parse?` reads a
whole text, strictly by the format.  Arrays and objects nest at most 127 deep.
A key that comes twice is kept twice here, in order.
-/

namespace Reckoner

/-- A JSON value.  A number is kept as the text it is shown with. -/
inductive Json where
  | null
  | bool (b : Bool)
  | number (text : String)
  | string (text : String)
  | array (items : List Json)
  | object (entries : List (String × Json))

namespace Json

/-- Reads something from the front of a text. -/
abbrev Reader (α : Type) := List Char → Option (α × List Char)

/-- The blanks of the format. -/
def isSpace (c : Char) : Bool := c == ' ' || c == '\n' || c == '\t' || c == '\r'

/-- A text without the blanks at its front. -/
def skipSpace (cs : List Char) : List Char := cs.dropWhile isSpace

/-! ## Numbers -/

/-- The digits at the front, if there are any. -/
def digits? (cs : List Char) : Option (List Char × List Char) :=
  let ds := cs.takeWhile Char.isDigit
  if ds.isEmpty then none else some (ds, cs.dropWhile Char.isDigit)

/-- The whole part: no zero in front of other digits. -/
def wholePart? : Reader (List Char)
  | '0' :: rest => if Text.digitCount rest = 0 then some (['0'], rest) else none
  | cs => digits? cs

/-- A point and the digits behind it, or neither. -/
def fractionPart? : Reader (Option (List Char))
  | '.' :: rest => (digits? rest).map fun (ds, rest) => (some ds, rest)
  | cs => some (none, cs)

/-- The sign of a power of ten. -/
def powerSign : List Char → Bool × List Char
  | '-' :: rest => (true, rest)
  | '+' :: rest => (false, rest)
  | cs => (false, cs)

/-- A power of ten, or none. -/
def powerPart? : Reader (Option (Bool × List Char))
  | [] => some (none, [])
  | c :: rest =>
    if c = 'e' ∨ c = 'E' then
      let (down, rest) := powerSign rest
      (digits? rest).map fun (ds, rest) => (some (down, ds), rest)
    else some (none, c :: rest)

/-- A number. -/
def number? (cs : List Char) : Option (Json × List Char) := do
  let (negative, cs) := match cs with
    | '-' :: rest => (true, rest)
    | cs => (false, cs)
  let (whole, cs) ← wholePart? cs
  let (fraction, cs) ← fractionPart? cs
  let (power, cs) ← powerPart? cs
  let text ← showNumber? { negative, whole, fraction, power }
  return (.number text, cs)

/-! ## Strings -/

/-- The value of a hexadecimal digit. -/
def hexDigit? (c : Char) : Option Nat :=
  if c.isDigit then some (c.toNat - 48)
  else if 'a' ≤ c ∧ c ≤ 'f' then some (c.toNat - 87)
  else if 'A' ≤ c ∧ c ≤ 'F' then some (c.toNat - 55)
  else none

/-- Four hexadecimal digits. -/
def hexWord? (a b c d : Char) : Option Nat := do
  return (← hexDigit? a) * 4096 + (← hexDigit? b) * 256 + (← hexDigit? c) * 16 + (← hexDigit? d)

/-- The character that a letter behind a backslash stands for. -/
def escape? (c : Char) : Option Char :=
  match c with
  | '"' => some '"'
  | '\\' => some '\\'
  | '/' => some '/'
  | 'b' => some '\x08'
  | 'f' => some '\x0c'
  | 'n' => some '\n'
  | 'r' => some '\r'
  | 't' => some '\t'
  | _ => none

/-- Whether a number is the first half of a pair. -/
def isHighHalf (n : Nat) : Bool := 0xD800 ≤ n && n < 0xDC00

/-- Whether a number is the second half of a pair. -/
def isLowHalf (n : Nat) : Bool := 0xDC00 ≤ n && n < 0xE000

/-- A string behind its opening quote.  Characters beyond the first plane are
escaped as a pair of halves, and no half stands alone. -/
def text? : Reader (List Char)
  | [] => none
  | '"' :: rest => some ([], rest)
  | '\\' :: 'u' :: a :: b :: c :: d :: rest =>
    match hexWord? a b c d with
    | none => none
    | some n =>
      if isHighHalf n then
        match rest with
        | '\\' :: 'u' :: a :: b :: c :: d :: rest =>
          match hexWord? a b c d with
          | some low =>
            if isLowHalf low then
              (text? rest).map fun (cs, rest) =>
                (Char.ofNat (0x10000 + (n - 0xD800) * 1024 + (low - 0xDC00)) :: cs, rest)
            else none
          | none => none
        | _ => none
      else if isLowHalf n then none
      else (text? rest).map fun (cs, rest) => (Char.ofNat n :: cs, rest)
  | '\\' :: e :: rest =>
    match escape? e with
    | some c => (text? rest).map fun (cs, rest) => (c :: cs, rest)
    | none => none
  | c :: rest =>
    if c = '\\' ∨ c.toNat < 32 then none
    else (text? rest).map fun (cs, rest) => (c :: cs, rest)

/-! ## Values -/

/-- Items with commas between them up to `closing`, of which there is at least
one, in at most `rounds` rounds. -/
def items? {α : Type} (item : Reader α) (closing : Char) : (rounds : Nat) → Reader (List α)
  | 0, _ => none
  | rounds + 1, cs =>
    match item cs with
    | none => none
    | some (x, cs) =>
      match skipSpace cs with
      | ',' :: rest => (items? item closing rounds rest).map fun (xs, rest) => (x :: xs, rest)
      | c :: rest => if c = closing then some ([x], rest) else none
      | [] => none

/-- Any number of items up to `closing`. -/
def list? {α : Type} (item : Reader α) (closing : Char) : Reader (List α) := fun cs =>
  match skipSpace cs with
  | [] => none
  | c :: rest => if c = closing then some ([], rest) else items? item closing cs.length cs

/-- A key, a colon and a value. -/
def pair? (value : Reader Json) : Reader (String × Json) := fun cs =>
  match skipSpace cs with
  | '"' :: rest =>
    match text? rest with
    | none => none
    | some (key, rest) =>
      match skipSpace rest with
      | ':' :: rest => (value rest).map fun (v, rest) => ((String.ofList key, v), rest)
      | _ => none
  | _ => none

/-- A value in which arrays and objects nest at most `depth` deep. -/
def value? : (depth : Nat) → Reader Json
  | depth, cs =>
    match skipSpace cs with
    | 'n' :: 'u' :: 'l' :: 'l' :: rest => some (.null, rest)
    | 't' :: 'r' :: 'u' :: 'e' :: rest => some (.bool true, rest)
    | 'f' :: 'a' :: 'l' :: 's' :: 'e' :: rest => some (.bool false, rest)
    | '"' :: rest => (text? rest).map fun (cs, rest) => (.string (String.ofList cs), rest)
    | '[' :: rest =>
      match depth with
      | 0 => none
      | depth + 1 => (list? (value? depth) ']' rest).map fun (xs, rest) => (.array xs, rest)
    | '\x7b' :: rest =>
      match depth with
      | 0 => none
      | depth + 1 =>
        (list? (pair? (value? depth)) '\x7d' rest).map fun (es, rest) => (.object es, rest)
    | cs => number? cs

/-- How deep arrays and objects may nest. -/
def maxDepth : Nat := 127

/-- The value that a whole text writes. -/
def parse? (text : String) : Option Json :=
  match value? maxDepth text.toList with
  | some (j, rest) => if (skipSpace rest).isEmpty then some j else none
  | none => none

end Json

end Reckoner
