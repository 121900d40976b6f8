import Reckoner.Text.Digits
import Reckoner.Text.Letter
import Reckoner.Token.Basic

/-!
# Shapes of tokens

The first look at a source finds out where tokens begin and end, by their
shape alone.  `Shape.scan` takes the longest shape at the front of a text, and
`Piece.split` cuts a source into pieces.

Blanks, comments and characters that belong to no shape are passed over.  A
string that is not closed is passed over to the end, or up to a line break
that follows a backslash.
-/

namespace Reckoner

/-- What a piece of a source looks like. -/
inductive Shape where
  | dayTime
  | day
  | time
  | number
  | quoted (quote : Quote)
  | word
  | currencySign
  | mark (m : Mark)
deriving DecidableEq, Repr

namespace Shape

/-! ## Numbers, days and times

Each function gives the length of such a shape at the front of a text. -/

/-- The length of a run of digits, if it is one of the given lengths. -/
def digits? (least most : Nat) (cs : List Char) : Option Nat :=
  let n := Text.digitCount cs
  if least ≤ n ∧ n ≤ most then some n else none

/-- Exactly `n` digits, whatever follows them. -/
def exactly? (n : Nat) (cs : List Char) : Option Nat :=
  if n ≤ Text.digitCount cs then some n else none

/-- One character out of a list. -/
def oneOf? (marks : List Char) : List Char → Option Nat
  | c :: _ => if marks.contains c then some 1 else none
  | [] => none

/-- Parts that follow one another. -/
def sequence? : List (List Char → Option Nat) → List Char → Option Nat
  | [], _ => some 0
  | part :: parts, cs =>
    match part cs with
    | some n => (sequence? parts (cs.drop n)).map (n + ·)
    | none => none

/-- Day, month and a year of four digits, with dots or slashes. -/
def dayLength? : List Char → Option Nat :=
  sequence? [digits? 1 2, oneOf? ['.', '/'], digits? 1 2, oneOf? ['.', '/'], exactly? 4]

/-- Hours and two digits of minutes. -/
def timeLength? : List Char → Option Nat :=
  sequence? [digits? 1 2, oneOf? [':'], exactly? 2]

/-- A day, a `T` and a time. -/
def dayTimeLength? : List Char → Option Nat := sequence? [dayLength?, oneOf? ['T'], timeLength?]

/-- A point and at least one digit, or nothing. -/
def fractionLength : List Char → Nat
  | '.' :: rest => if Text.digitCount rest = 0 then 0 else 1 + Text.digitCount rest
  | _ => 0

/-- A mark, a sign or none, and at least one digit, or nothing. -/
def exponentLength : List Char → Nat
  | c :: rest =>
    if c = 'e' ∨ c = 'E' then
      match rest with
      | s :: digits =>
        if s = '+' ∨ s = '-' then
          if Text.digitCount digits = 0 then 0 else 2 + Text.digitCount digits
        else if Text.digitCount rest = 0 then 0
        else 1 + Text.digitCount rest
      | [] => 0
    else 0
  | [] => 0

/-- Digits, a fraction and a power of ten. -/
def numberLength (cs : List Char) : Nat :=
  let whole := Text.digitCount cs
  let withFraction := whole + fractionLength (cs.drop whole)
  withFraction + exponentLength (cs.drop withFraction)

/-- What starts with a digit. -/
def scanDigits (cs : List Char) : Shape × Nat :=
  match dayTimeLength? cs with
  | some n => (.dayTime, n)
  | none =>
    match dayLength? cs with
    | some n => (.day, n)
    | none =>
      match timeLength? cs with
      | some n => (.time, n)
      | none => (.number, numberLength cs)

/-! ## Strings -/

/-- How a string goes on behind its opening quote: whether it is closed, and
how many characters belong to it.  A backslash takes the next character with
it, unless that is a line break. -/
def scanQuoted (quote : Char) : List Char → Bool × Nat
  | [] => (false, 0)
  | '\\' :: '\n' :: _ => (false, 1)
  | '\\' :: _ :: rest =>
    let (closed, n) := scanQuoted quote rest
    (closed, n + 2)
  | c :: rest =>
    if c = quote then (true, 1)
    else
      let (closed, n) := scanQuoted quote rest
      (closed, n + 1)

/-- The quote that a character opens. -/
def quoteOf? (c : Char) : Option Quote :=
  if c = '"' then some .double
  else if c = '\'' then some .single
  else if c = '\x60' then some .template
  else none

/-! ## Marks -/

/-- Marks of two characters. -/
def doubleMark? (c d : Char) : Option Mark :=
  match c, d with
  | '<', '<' => some .shiftLeft
  | '>', '>' => some .shiftRight
  | '*', '*' => some .caret
  | '=', '>' => some .arrow
  | '=', '=' => some .equalEqual
  | '!', '=' => some .notEqual
  | '<', '=' => some .lessEqual
  | '>', '=' => some .greaterEqual
  | '+', '=' => some .plusAssign
  | '-', '=' => some .minusAssign
  | _, _ => none

/-- Marks of one character. -/
def singleMark? (c : Char) : Option Mark :=
  match c with
  | '&' => some .ampersand
  | '|' => some .pipe
  | '+' => some .plus
  | '-' => some .minus
  | '*' => some .star
  | '/' => some .slash
  | '^' => some .caret
  | '%' => some .percent
  | '=' => some .equals
  | '<' => some .less
  | '>' => some .greater
  | '!' => some .not
  | '?' => some .question
  | ':' => some .colon
  | '.' => some .dot
  | ',' => some .comma
  | '(' => some .leftParen
  | ')' => some .rightParen
  | '[' => some .leftBracket
  | ']' => some .rightBracket
  | '\x7b' => some .leftBrace
  | '\x7d' => some .rightBrace
  | _ => none

/-- A mark at the front of a text.  Any number of ampersands from two on is
one mark, and so for bars. -/
def scanMark (c : Char) (rest : List Char) : Option Shape × Nat :=
  let run := 1 + (rest.takeWhile (· == c)).length
  if c = '&' ∧ 2 ≤ run then (some (.mark .and), run)
  else if c = '|' ∧ 2 ≤ run then (some (.mark .or), run)
  else
    match rest.head?.bind (doubleMark? c) with
    | some m => (some (.mark m), 2)
    | none =>
      match singleMark? c with
      | some m => (some (.mark m), 1)
      | none => (none, 1)

/-! ## The longest shape -/

/-- The characters between tokens. -/
def isSpace (c : Char) : Bool :=
  c == ' ' || c == '\t' || c == '\r' || c == '\n' || c == '\x0c'

/-- The shape at the front of a text that starts with `c`, and its length;
nothing where the characters belong to no token. -/
def scan (c : Char) (rest : List Char) : Option Shape × Nat :=
  if c.isDigit then
    let (shape, n) := scanDigits (c :: rest)
    (some shape, n)
  else if Text.isWordStart c then (some .word, 1 + (rest.takeWhile Text.isWordPart).length)
  else if isSpace c then (none, 1)
  else if c = '#' then (none, 1 + (rest.takeWhile (· ≠ '\n')).length)
  else
    match quoteOf? c with
    | some quote =>
      let (closed, n) := scanQuoted c rest
      (if closed then some (.quoted quote) else none, n + 1)
    | none =>
      if (Currency.ofSign? c.toString).isSome then (some .currencySign, 1) else scanMark c rest

end Shape

/-- A piece of a source: its shape, its text and where it starts. -/
structure Piece where
  shape : Shape
  text : List Char
  offset : Nat
deriving DecidableEq, Repr

namespace Piece

/-- Where a piece ends. -/
def stop (p : Piece) : Nat := p.offset + Text.byteLength p.text

/-- The pieces of a text that starts at `offset`, after the first `skip`
characters. -/
def splitFrom (offset : Nat) : (skip : Nat) → List Char → List Piece
  | _, [] => []
  | skip + 1, c :: rest => splitFrom (offset + c.utf8Size) skip rest
  | 0, c :: rest =>
    let (shape?, n) := Shape.scan c rest
    let later := splitFrom (offset + c.utf8Size) (n - 1) rest
    match shape? with
    | some shape => { shape, text := (c :: rest).take n, offset } :: later
    | none => later

/-- The pieces of a text that starts at `offset`. -/
def split (offset : Nat) (text : List Char) : List Piece := splitFrom offset 0 text

end Piece

end Reckoner
