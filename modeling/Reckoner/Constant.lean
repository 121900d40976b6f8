import Reckoner.Decimal.Basic

/-!
# Constants

The names whose value never changes: four numbers, two truth values and null.
-/

namespace Reckoner

/-- A constant. -/
inductive Constant where
  | pi
  | e
  | tau
  | phi
  | true_
  | false_
  | null
deriving DecidableEq, Repr

namespace Constant

/-- The name under which a constant can be hidden by a binding. -/
def name : Constant → String
  | pi => "pi"
  | e => "e"
  | tau => "tau"
  | phi => "phi"
  | true_ => "true"
  | false_ => "false"
  | null => "null"

/-- The number that is written so. -/
def ofName? (text : String) : Option Constant :=
  match text with
  | "pi" | "π" | "PI" => some pi
  | "e" => some e
  | "tau" | "τ" => some tau
  | "phi" | "φ" => some phi
  | _ => none

/-- The ratio of a circle's circumference to its diameter. -/
def piValue : Decimal :=
  .ofScaled 31415926535897932384626433833 28

/-- The base of the natural logarithm. -/
def eValue : Decimal :=
  .ofScaled 27182818284590452353602874714 28

/-- The ratio of a circle's circumference to its radius. -/
def tauValue : Decimal :=
  .ofScaled 62831853071795864769252867666 28

/-- The golden ratio. -/
def phiValue : Decimal :=
  .ofScaled 16180339887498948482045868344 28

end Constant

end Reckoner
