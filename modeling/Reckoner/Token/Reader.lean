import Reckoner.Builtin
import Reckoner.Constant
import Reckoner.Token.Quoted
import Reckoner.Token.Shape
import Reckoner.Zone.Name

/-!
# Reading tokens

The second look at a source makes tokens of its pieces.

* Digits that look like a day or a time are one only if they can be; else they
  are read as numbers and marks.
* A word may be glued to what follows it into the name of a zone: an offset
  behind `UTC`, a region with its slashes, a city of two words.
* Any other word is classified by `Token.ofWord`.

`Token.tokenize` is what a whole source is made of.  It ends with the one token
`finish`.

The names that may be those of zones are looked up on the way, and looking up
a name may panic.  `Token.read` gives the tokens unless one of them does.  The
later stages take the tokens, so what they say of a source is said of those
that are read.
-/

namespace Reckoner.Token

/-! ## Days and times -/

/-- Day, month and year as they are written, if the two marks are the same. -/
def dayFields? (cs : List Char) : Option (Nat × Nat × Nat) :=
  match cs.dropWhile Char.isDigit with
  | sep :: rest =>
    match rest.dropWhile Char.isDigit with
    | sep' :: year =>
      if sep = sep' then
        some (Text.digitsValue (cs.takeWhile Char.isDigit),
          Text.digitsValue (rest.takeWhile Char.isDigit), Text.digitsValue year)
      else none
    | [] => none
  | [] => none

/-- Hours and minutes as they are written. -/
def timeFields? (cs : List Char) : Option (Nat × Nat) :=
  match Text.splitOnce ':' cs with
  | (hour, some minute) => some (Text.digitsValue hour, Text.digitsValue minute)
  | _ => none

/-- Whether digits can be a day: the day at most 31, the month at most 12, the
year within two centuries. -/
def isDay (cs : List Char) : Bool :=
  match dayFields? cs with
  | some (d, m, y) => 1 ≤ d && d ≤ 31 && 1 ≤ m && m ≤ 12 && 1900 ≤ y && y ≤ 2100
  | none => false

/-- Whether digits can be a time. -/
def isTime (cs : List Char) : Bool :=
  match timeFields? cs with
  | some (hour, minute) => hour ≤ 23 && minute ≤ 59
  | none => false

/-- The mark in digits that are neither a day nor a time. -/
def fragmentMark? (c : Char) : Option Mark :=
  match c with
  | '.' => some .dot
  | '/' => some .slash
  | ':' => some .colon
  | _ => none

/-- Digits that are neither a day nor a time, as numbers and marks, after the
first `skip` characters. -/
def fragments (offset : Nat) : (skip : Nat) → List Char → List Placed
  | _, [] => []
  | skip + 1, _ :: rest => fragments (offset + 1) skip rest
  | 0, c :: rest =>
    if c.isDigit then
      let whole := Text.digitCount (c :: rest)
      let n := whole + Shape.fractionLength ((c :: rest).drop whole)
      ⟨.number (String.ofList ((c :: rest).take n)), offset⟩ :: fragments (offset + 1) (n - 1) rest
    else
      match fragmentMark? c with
      | some m => ⟨.mark m, offset⟩ :: fragments (offset + 1) 0 rest
      | none => fragments (offset + 1) 0 rest

/-- What looks like a day. -/
def ofDay (cs : List Char) (offset : Nat) : List Placed :=
  if isDay cs then [⟨.day (String.ofList cs), offset⟩] else fragments offset 0 cs

/-- What looks like a time. -/
def ofTime (cs : List Char) (offset : Nat) : List Placed :=
  if isTime cs then [⟨.time (String.ofList cs), offset⟩] else fragments offset 0 cs

/-! ## Words -/

/-- What a word stands for: a zone, a keyword, a built-in function, a
constant, a unit, a currency or an operator, in this order; else it is a
name. -/
def ofWord (text : String) : Token :=
  if (Zone.parse? text).isSome then .zone text
  else
    match Keyword.ofName? text with
    | some k => .keyword k
    | none =>
      if (Builtin.ofName? text).isSome then .function text
      else if (Constant.ofName? text).isSome then .constant text
      else if (MeasureUnit.find? text).isSome then .unit text
      else if Currency.isCode text then .currency text
      else
        match text with
        | "and" => .mark .and
        | "or" => .mark .or
        | "not" => .mark .not
        | "mod" => .mark .mod
        | "plus" => .mark .plus
        | "minus" => .mark .minus
        | "times" => .mark .star
        | _ => .name text

/-- Whether the clocks of `UTC` are meant, in any case. -/
def isUniversal (text : String) : Bool :=
  let upper := Text.toUpper text
  upper == "UTC" || upper == "GMT"

/-- Whether a piece can be the amount of an offset. -/
def isOffsetAmount (shape : Shape) : Bool :=
  match shape with
  | .number | .time => true
  | _ => false

/-- `UTC` with a sign and an amount glued to it, or `UTC` alone; also how many
of the following pieces belong to it. -/
def glueOffset? (p : Piece) (following : List Piece) : Option (String × Nat) :=
  if isUniversal (String.ofList p.text) then
    match following with
    | sign :: amount :: _ =>
      let candidate := String.ofList (p.text ++ sign.text ++ amount.text)
      if (sign.shape == .mark .plus || sign.shape == .mark .minus) && isOffsetAmount amount.shape
          && sign.offset == p.stop && amount.offset == sign.stop
          && (Zone.parse? candidate).isSome then
        some (candidate, 2)
      else some (String.ofList p.text, 0)
    | _ => some (String.ofList p.text, 0)
  else none

/-- The longest name of a region that `text` begins, which ends at `stop`;
`taken` pieces belong to it already, and `best` is the longest name so far. -/
def glueRegion? (text : List Char) (stop taken : Nat) (best : Option (String × Nat)) :
    List Piece → Option (String × Nat)
  | slash :: part :: rest =>
    if slash.shape == .mark .slash && part.shape == .word && slash.offset == stop
        && part.offset == slash.stop then
      let candidate := text ++ slash.text ++ part.text
      let best :=
        if (Zone.parse? (String.ofList candidate)).isSome then
          some (String.ofList candidate, taken + 2)
        else best
      glueRegion? candidate part.stop (taken + 2) best rest
    else best
  | _ => best

/-- A city of two words. -/
def glueCity? (p : Piece) (following : List Piece) : Option (String × Nat) :=
  let first := String.ofList p.text
  if Zone.cityOpeners.contains (Text.toLower first) then
    match following with
    | next :: _ =>
      let second := String.ofList next.text
      if next.shape == .word && Zone.isTwoWordCity first second then
        some (first ++ " " ++ second, 1)
      else none
    | [] => none
  else none

/-- The zone that a word begins, and how many of the following pieces belong
to its name. -/
def glueZone? (p : Piece) (following : List Piece) : Option (String × Nat) :=
  match glueOffset? p following with
  | some found => some found
  | none =>
    match glueRegion? p.text p.stop 0 none following with
    | some found => some found
    | none => glueCity? p following

/-! ## Whole sources -/

/-- The token of a piece that needs no other piece, and what looks like a day
with a time is none. -/
def ofPiece (p : Piece) : List Placed :=
  match p.shape with
  | .day => ofDay p.text p.offset
  | .time => ofTime p.text p.offset
  | .number => [⟨.number (String.ofList p.text), p.offset⟩]
  | .quoted quote => [⟨ofQuoted quote p.text p.offset, p.offset⟩]
  | .word => [⟨ofWord (String.ofList p.text), p.offset⟩]
  | .currencySign =>
    match Currency.ofSign? (String.ofList p.text) with
    | some code => [⟨.currency code, p.offset⟩]
    | none => []
  | .mark m => [⟨.mark m, p.offset⟩]
  | .dayTime => []

/-- The tokens of a list of pieces, after the first `skip`.  What looks like a
day with a time and is none is left to `broken`. -/
def ofPieces (broken : Piece → List Placed) : (skip : Nat) → List Piece → List Placed
  | _, [] => []
  | skip + 1, _ :: rest => ofPieces broken skip rest
  | 0, p :: rest =>
    match p.shape with
    | .word =>
      match glueZone? p rest with
      | some (found, taken) => ⟨.zone found, p.offset⟩ :: ofPieces broken taken rest
      | none => ofPiece p ++ ofPieces broken 0 rest
    | .dayTime =>
      match Text.splitOnce 'T' p.text with
      | (front, some back) =>
        if isDay front && isTime back then
          ⟨.dayTime (String.ofList p.text), p.offset⟩ :: ofPieces broken 0 rest
        else broken p ++ ofPieces broken 0 rest
      | _ => ofPieces broken 0 rest
    | _ => ofPiece p ++ ofPieces broken 0 rest

/-- A day with a time that cannot be: the day, and the rest read on its own. -/
def ofBroken (p : Piece) : List Placed :=
  let front := p.text.takeWhile (· ≠ 'T')
  let offset := p.offset + Text.byteLength front
  ofDay front p.offset ++ ofPieces (fun _ => []) 0 (Piece.split offset (p.text.drop front.length))

/-- The tokens of a source. -/
def tokenize (source : String) : List Placed :=
  ofPieces ofBroken 0 (Piece.split 0 source.toList) ++ [⟨.finish, source.utf8ByteSize⟩]

/-! ## Names that are looked up -/

/-- The name of an offset that is looked up at `UTC`: with the sign and the
amount glued to it. -/
def offsetLookups (p : Piece) : List Piece → List String
  | sign :: amount :: _ =>
    if (sign.shape == .mark .plus || sign.shape == .mark .minus) && isOffsetAmount amount.shape
        && sign.offset == p.stop && amount.offset == sign.stop then
      [String.ofList (p.text ++ sign.text ++ amount.text)]
    else []
  | _ => []

/-- The names of regions that are looked up behind `text`, which ends at
`stop`. -/
def regionLookups (text : List Char) (stop : Nat) : List Piece → List String
  | slash :: part :: rest =>
    if slash.shape == .mark .slash && part.shape == .word && slash.offset == stop
        && part.offset == slash.stop then
      let candidate := text ++ slash.text ++ part.text
      String.ofList candidate :: regionLookups candidate part.stop rest
    else []
  | _ => []

/-- The names that are looked up at a word.  The word itself is the last of
them, unless it has been glued to another. -/
def lookupsAt (p : Piece) (following : List Piece) : List String :=
  let text := String.ofList p.text
  if isUniversal text then offsetLookups p following
  else
    regionLookups p.text p.stop following ++
      if (glueZone? p following).isSome then [] else [text]

/-- The names that are looked up in a list of pieces, after the first `skip`. -/
def lookups (broken : Piece → List String) : (skip : Nat) → List Piece → List String
  | _, [] => []
  | skip + 1, _ :: rest => lookups broken skip rest
  | 0, p :: rest =>
    match p.shape with
    | .word => lookupsAt p rest ++ lookups broken ((glueZone? p rest).elim 0 (·.2)) rest
    | .dayTime =>
      match Text.splitOnce 'T' p.text with
      | (front, some back) =>
        if isDay front && isTime back then lookups broken 0 rest
        else broken p ++ lookups broken 0 rest
      | _ => lookups broken 0 rest
    | _ => lookups broken 0 rest

/-- The names that are looked up behind a day that cannot be. -/
def brokenLookups (p : Piece) : List String :=
  let front := p.text.takeWhile (· ≠ 'T')
  let offset := p.offset + Text.byteLength front
  lookups (fun _ => []) 0 (Piece.split offset (p.text.drop front.length))

/-- Looks names up, one after the other. -/
def lookUpAll : List String → Guarded Unit
  | [] => .ok ()
  | text :: texts => do
    let _ ← Zone.parse text
    lookUpAll texts

/-- Reads the tokens of a source. -/
def read (source : String) : Guarded (List Placed) := do
  lookUpAll (lookups brokenLookups 0 (Piece.split 0 source.toList))
  return tokenize source

end Reckoner.Token
