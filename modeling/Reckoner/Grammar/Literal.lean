import Reckoner.Decimal.Text
import Reckoner.Error
import Reckoner.Expr
import Reckoner.Token.Reader

/-!
# Literals

The nodes of numbers, days and times.  A literal that looks right can still be
too large a number or a day that no calendar has.
-/

namespace Reckoner.Grammar

/-- A number with units. -/
def numberLiteral (text : String) (units : List UnitTerm) (offset : Nat) : Checked Expr :=
  match Decimal.parseNumber? text with
  | some value => .ok (.number value units offset)
  | none => failAt offset (.invalidLiteral text)

/-- The day that is written so. -/
def dayOf (text : List Char) (offset : Nat) : Checked Day :=
  match (Token.dayFields? text).bind fun (d, m, y) => Day.ofParts? y m d with
  | some day => .ok day
  | none => failAt offset (.invalidLiteral (String.ofList text))

/-- The hours and minutes that are written so. -/
def timeOf (text : List Char) (offset : Nat) : Checked (Nat × Nat) :=
  match Token.timeFields? text with
  | some (hour, minute) =>
    if hour < 24 ∧ minute < 60 then .ok (hour, minute)
    else failAt offset (.invalidLiteral (String.ofList text))
  | none => failAt offset (.invalidLiteral (String.ofList text))

/-- A day. -/
def dayLiteral (text : String) (offset : Nat) : Checked Expr :=
  match dayOf text.toList offset with
  | .ok day => .ok (.day (.calendar day) none offset)
  | .error e => .error e

/-- A time. -/
def timeLiteral (text : String) (offset : Nat) : Checked Expr :=
  match timeOf text.toList offset with
  | .ok (hour, minute) => .ok (.time hour minute none offset)
  | .error e => .error e

/-- A day and a time with a `T` between them. -/
def momentLiteral (text : String) (offset : Nat) : Checked Expr :=
  match Text.splitOnce 'T' text.toList with
  | (front, some back) => do
    let day ← dayOf front offset
    let (hour, minute) ← timeOf back offset
    .ok (.moment (.reading (Wall.onDay day hour minute 0 0)) none offset)
  | _ => failAt offset (.invalidLiteral text)

/-- The text of a string that is used as a key.  Expressions in it stay as
they are written. -/
def plainText (segments : List Segment) : String :=
  String.join (segments.map fun
    | .text content => content
    | .code source _ => source)

end Reckoner.Grammar
