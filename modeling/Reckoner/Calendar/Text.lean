import Reckoner.Calendar.Clock
import Reckoner.Text.Digits
import Reckoner.Text.Ranges

/-!
# Reading dates

`readLayout?` reads a text against a layout of fields and marks.  A field
takes as many digits as it may have and at least one, with blanks in front
allowed; a year may have a sign and then any number of digits.

`timestamp?` reads the internet's timestamp format: a full date, a
full time with an optional fraction, and an offset or a `Z`.
-/

namespace Reckoner

namespace Calendar

/-- The fields a layout can ask for. -/
inductive Field where
  | year
  | month
  | day
  | hour
  | minute
  | second
deriving DecidableEq, Repr

/-- A piece of a layout. -/
inductive Piece where
  | field (f : Field)
  | mark (c : Char)
  | blanks
deriving DecidableEq, Repr

/-- The fields that were read so far. -/
structure Reading where
  year : Int
  month : Nat
  day : Nat
  hour : Nat
  minute : Nat
  second : Nat
deriving DecidableEq, Repr

/-- Nothing read: the start of a day that does not exist yet. -/
def Reading.start : Reading :=
  { year := 0, month := 0, day := 0, hour := 0, minute := 0, second := 0 }

/-- At most `width` digits from the front, at least `least`, and what follows
them. -/
def takeDigits? (least width : Nat) (cs : List Char) : Option (Nat × List Char) :=
  let digits := (cs.take width).takeWhile Char.isDigit
  if digits.length < least then none
  else some (Text.digitsValue digits, cs.drop digits.length)

/-- A year, with or without a sign. -/
def takeYear? : List Char → Option (Int × List Char)
  | '-' :: rest => (takeDigits? 1 rest.length rest).map fun (n, r) => (-(n : Int), r)
  | '+' :: rest => (takeDigits? 1 rest.length rest).map fun (n, r) => ((n : Int), r)
  | cs => (takeDigits? 1 4 cs).map fun (n, r) => ((n : Int), r)

/-- A field of two digits within its bounds. -/
def takeTwo? (low high : Nat) (cs : List Char) : Option (Nat × List Char) :=
  match takeDigits? 1 2 cs with
  | some (n, rest) => if low ≤ n ∧ n ≤ high then some (n, rest) else none
  | none => none

/-- Reads one field. -/
def readField? (f : Field) (r : Reading) (cs : List Char) : Option (Reading × List Char) :=
  let cs := cs.dropWhile Text.isBlank
  match f with
  | .year => (takeYear? cs).map fun (n, rest) => ({ r with year := n }, rest)
  | .month => (takeTwo? 1 12 cs).map fun (n, rest) => ({ r with month := n }, rest)
  | .day => (takeTwo? 1 31 cs).map fun (n, rest) => ({ r with day := n }, rest)
  | .hour => (takeTwo? 0 23 cs).map fun (n, rest) => ({ r with hour := n }, rest)
  | .minute => (takeTwo? 0 59 cs).map fun (n, rest) => ({ r with minute := n }, rest)
  | .second => (takeTwo? 0 60 cs).map fun (n, rest) => ({ r with second := n }, rest)

/-- Reads a whole text against a layout. -/
def readLayout? : List Piece → Reading → List Char → Option Reading
  | [], r, [] => some r
  | [], _, _ :: _ => none
  | .blanks :: pieces, r, cs => readLayout? pieces r (cs.dropWhile Text.isBlank)
  | .mark c :: pieces, r, cs =>
    match cs with
    | d :: rest => if c = d then readLayout? pieces r rest else none
    | [] => none
  | .field f :: pieces, r, cs =>
    match readField? f r cs with
    | some (r, rest) => readLayout? pieces r rest
    | none => none

/-- The reading as a time of an existing day. -/
def Reading.wall? (r : Reading) : Option Wall :=
  (Day.ofParts? r.year r.month r.day).map fun d => Wall.onDay d r.hour r.minute r.second 0

/-- Layouts of a day with a time. -/
def timeLayouts : List (List Piece) := [
  [.field .day, .mark '.', .field .month, .mark '.', .field .year, .mark 'T',
    .field .hour, .mark ':', .field .minute],
  [.field .year, .mark '-', .field .month, .mark '-', .field .day, .mark 'T',
    .field .hour, .mark ':', .field .minute, .mark ':', .field .second],
  [.field .year, .mark '-', .field .month, .mark '-', .field .day, .blanks,
    .field .hour, .mark ':', .field .minute]]

/-- Layouts of a day alone. -/
def dayLayouts : List (List Piece) := [
  [.field .day, .mark '.', .field .month, .mark '.', .field .year],
  [.field .day, .mark '/', .field .month, .mark '/', .field .year],
  [.field .year, .mark '-', .field .month, .mark '-', .field .day]]

/-- The first of the layouts that the text fits. -/
def readFirst? (layouts : List (List Piece)) (text : List Char) : Option Wall :=
  layouts.findSome? fun layout => (readLayout? layout .start text).bind (·.wall?)

/-! ## Timestamps -/

/-- A mark from the front. -/
def takeMark? (marks : List Char) : List Char → Option (List Char)
  | c :: rest => if marks.contains c then some rest else none
  | [] => none

/-- Exactly two digits within bounds. -/
def takeExact? (low high : Nat) (cs : List Char) : Option (Nat × List Char) :=
  match takeDigits? 2 2 cs with
  | some (n, rest) => if low ≤ n ∧ n ≤ high then some (n, rest) else none
  | none => none

/-- A fraction of a second in nanoseconds, if there is one.  Digits behind the
ninth do not count. -/
def takeFraction? : List Char → Option (Nat × List Char)
  | '.' :: rest =>
    match takeDigits? 1 9 rest with
    | some (n, rest') =>
      some (n * tenPow (9 - (rest.length - rest'.length)), rest'.dropWhile Char.isDigit)
    | none => none
  | cs => some (0, cs)

/-- An offset in seconds: a `Z`, or a sign, hours and minutes. -/
def takeOffset? : List Char → Option (Int × List Char)
  | 'Z' :: rest => some (0, rest)
  | 'z' :: rest => some (0, rest)
  | c :: rest =>
    if c = '+' ∨ c = '-' ∨ c = '−' then
      match takeExact? 0 23 rest with
      | some (h, rest) =>
        match takeMark? [':'] rest with
        | some rest =>
          match takeExact? 0 59 rest with
          | some (m, rest) =>
            let seconds : Int := (h * 3600 + m * 60 : Nat)
            some (if c = '+' then seconds else -seconds, rest)
          | none => none
        | none => none
      | none => none
    else none
  | [] => none

/-- The instant of a timestamp. -/
def timestamp? (text : List Char) : Option Instant := do
  let (year, cs) ← takeDigits? 4 4 text
  let cs ← takeMark? ['-'] cs
  let (month, cs) ← takeExact? 1 12 cs
  let cs ← takeMark? ['-'] cs
  let (day, cs) ← takeExact? 1 31 cs
  let cs ← takeMark? ['T', 't', ' '] cs
  let (hour, cs) ← takeExact? 0 23 cs
  let cs ← takeMark? [':'] cs
  let (minute, cs) ← takeExact? 0 59 cs
  let cs ← takeMark? [':'] cs
  let (second, cs) ← takeExact? 0 60 cs
  let (nanos, cs) ← takeFraction? cs
  let (offset, cs) ← takeOffset? cs
  let d ← Day.ofParts? year month day
  let wall := Wall.onDay d hour minute second nanos
  if cs.isEmpty then some ⟨wall.seconds - offset, wall.nanos⟩ else none

end Calendar

end Reckoner
