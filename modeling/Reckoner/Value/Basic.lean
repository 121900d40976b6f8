import Reckoner.Builtin
import Reckoner.Date
import Reckoner.Expr
import Reckoner.Quantity.Basic

/-!
# Values

What expressions evaluate to.  Arrays and objects are handles of cells in the
session (see `Reckoner.Session`), so that several values can share one cell.
Functions carry an identity, by which alone they are compared.
-/

namespace Reckoner

/-- A function that a source defines. -/
structure Closure where
  name : Option String
  params : List String
  body : Expr
  /-- The scope it was made in; none if that was the root. -/
  scope : Option Nat

/-- A value. -/
inductive Value where
  | number (x : Decimal)
  | quantity (q : Quantity)
  | string (s : String)
  | bool (b : Bool)
  | null
  | date (d : Date)
  | array (cell : Nat)
  | object (cell : Nat)
  | closure (identity : Nat) (f : Closure)
  | builtin (identity : Nat) (b : Builtin)
  /-- A function with its first arguments already given. -/
  | applied (identity : Nat) (callee : Value) (bound : List Value)
  /-- Text that the host renders. -/
  | markdown (s : String)

instance : Inhabited Value := ⟨.null⟩

namespace Value

/-- The kind of a value. -/
def kind : Value → Kind
  | number _ => .number
  | quantity _ => .quantity
  | string _ => .string
  | bool _ => .boolean
  | null => .null
  | date _ => .date
  | array _ => .array
  | object _ => .object
  | closure _ _ | builtin _ _ | applied _ _ _ => .function
  | markdown _ => .markdown

/-- Whether a value can be called. -/
def isCallable : Value → Bool
  | closure _ _ | builtin _ _ | applied _ _ _ => true
  | _ => false

/-- Whether a value is a number or a quantity. -/
def isNumeric : Value → Bool
  | number _ | quantity _ => true
  | _ => false

/-- A number with or without units as a value. -/
def ofAmount : Amount → Value
  | .number x => number x
  | .quantity q => quantity q

/-- A whole number as a value. -/
def ofInt (n : Int) : Value := number (.ofInt n)

/-- A count as a value. -/
def ofNat (n : Nat) : Value := number (.ofNat n)

/-- How many arguments a function declares, less those already given; unknown
for built-in ones. -/
def declaredArity? : Value → Option Nat
  | closure _ f => some f.params.length
  | applied _ callee bound => callee.declaredArity?.map (· - bound.length)
  | _ => none

/-! ## Values of a wanted kind -/

/-- Fails because something else was wanted. -/
def wrongKind {α : Type} (v : Value) (wanted : String) (offset : Nat) : Checked α :=
  failAt offset (.typing (.expected wanted v.kind))

/-- The number. -/
def asNumber (v : Value) (offset : Nat) : Checked Decimal :=
  match v with
  | number x => .ok x
  | v => v.wrongKind "number" offset

/-- The magnitude of a number or a quantity. -/
def asMagnitude (v : Value) (offset : Nat) : Checked Decimal :=
  match v with
  | number x => .ok x
  | quantity q => .ok q.magnitude
  | v => v.wrongKind "number" offset

/-- The text of a string. -/
def asString (v : Value) (offset : Nat) : Checked String :=
  match v with
  | string s => .ok s
  | v => v.wrongKind "string" offset

/-- The cell of an array. -/
def asArray (v : Value) (offset : Nat) : Checked Nat :=
  match v with
  | array c => .ok c
  | v => v.wrongKind "array" offset

/-- The cell of an object. -/
def asObject (v : Value) (offset : Nat) : Checked Nat :=
  match v with
  | object c => .ok c
  | v => v.wrongKind "object" offset

/-- The date. -/
def asDate (v : Value) (offset : Nat) : Checked Date :=
  match v with
  | date d => .ok d
  | v => v.wrongKind "date" offset

/-- The value, if it can be called. -/
def asCallable (v : Value) (offset : Nat) : Checked Value :=
  if v.isCallable then .ok v else v.wrongKind "function" offset

/-- The key of an object that a value stands for: a string, or a number as it
is shown. -/
def asKey (v : Value) (offset : Nat) : Checked String :=
  match v with
  | string s => .ok s
  | number x => .ok x.shown
  | v => v.wrongKind "string key" offset

end Value

end Reckoner
