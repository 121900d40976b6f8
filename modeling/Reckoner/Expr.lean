import Reckoner.Calendar.Clock
import Reckoner.Constant
import Reckoner.Kind
import Reckoner.Operator
import Reckoner.Quantity.Dimensions

/-!
# Expressions

The tree of a source.  Every node has the byte offset that errors about it
give.
-/

namespace Reckoner

/-- A piece of a string: text, or something to be filled in. -/
inductive Part (α : Type) where
  | text (content : String)
  | code (content : α)

/-- The day of a date literal. -/
inductive DaySpec where
  | calendar (day : Day)
  | today
  | tomorrow
  | yesterday
deriving DecidableEq, Repr

/-- The reading of a literal with day and time. -/
inductive MomentSpec where
  | reading (wall : Wall)
  | now
deriving DecidableEq, Repr

/-- What is made of the earlier results. -/
inductive Aggregate where
  | total
  | average
deriving DecidableEq, Repr

/-- The name of an aggregate. -/
def Aggregate.name : Aggregate → String
  | total => "total"
  | average => "average"

/-- An expression. -/
inductive Expr where
  /-- A number with its units, if it has any. -/
  | number (value : Decimal) (units : List UnitTerm) (offset : Nat)
  | string (parts : List (Part Expr)) (offset : Nat)
  | constant (c : Constant) (offset : Nat)
  | name (text : String) (offset : Nat)
  | unary (op : UnaryOp) (operand : Expr) (offset : Nat)
  | binary (op : BinaryOp) (left right : Expr) (offset : Nat)
  | logical (op : LogicalOp) (left right : Expr) (offset : Nat)
  | compare (op : CompareOp) (left right : Expr) (offset : Nat)
  | conditional (condition yes no : Expr) (offset : Nat)
  /-- `x is kind`. -/
  | isKind (operand : Expr) (kind : Kind) (offset : Nat)
  /-- `x as kind`. -/
  | cast (operand : Expr) (kind : Kind) (offset : Nat)
  | convertUnits (operand : Expr) (units : List UnitTerm) (offset : Nat)
  | convertZone (operand : Expr) (zone : String) (offset : Nat)
  /-- A call of a function by its name. -/
  | call (name : String) (args : List Expr) (offset : Nat)
  /-- A call of whatever an expression gives. -/
  | apply (callee : Expr) (args : List Expr) (offset : Nat)
  | access (container key : Expr) (offset : Nat)
  /-- An assignment, or a change of what a name is bound to. -/
  | assign (name : String) (value : Expr) (compound : Option BinaryOp) (offset : Nat)
  | aggregate (kind : Aggregate) (target : Option (List UnitTerm)) (offset : Nat)
  | day (spec : DaySpec) (zone : Option String) (offset : Nat)
  | time (hour minute : Nat) (zone : Option String) (offset : Nat)
  | moment (spec : MomentSpec) (zone : Option String) (offset : Nat)
  /-- A date literal and an amount of a calendar unit. -/
  | dateShift (date : Expr) (op : BinaryOp) (amount : Expr) (unit : CalendarUnit) (offset : Nat)
  | array (elements : List Expr) (offset : Nat)
  | object (entries : List (String × Expr)) (offset : Nat)
  | lambda (name : Option String) (params : List String) (body : Expr) (offset : Nat)

namespace Expr

/-- Where a node belongs to in the source. -/
def offset : Expr → Nat
  | number _ _ o | string _ o | constant _ o | name _ o | unary _ _ o | binary _ _ _ o
  | logical _ _ _ o | compare _ _ _ o | conditional _ _ _ o | isKind _ _ o | cast _ _ o
  | convertUnits _ _ o | convertZone _ _ o | call _ _ o | apply _ _ o | access _ _ o
  | assign _ _ _ o | aggregate _ _ o | day _ _ o | time _ _ _ o | moment _ _ o
  | dateShift _ _ _ _ o | array _ o | object _ o | lambda _ _ _ o => o

/-- Whether an expression is written as a date. -/
def isDateLiteral : Expr → Bool
  | day .. | time .. | moment .. | dateShift .. => true
  | _ => false

/-- Whether an expression may give a date, as far as can be seen from its
form. -/
def mayBeDate : Expr → Bool
  | day .. | time .. | moment .. | dateShift .. | name .. => true
  | binary op _ _ _ => op != .sub
  | _ => false

/-- Whether parentheses behind an expression make it a call. -/
def isCallable : Expr → Bool
  | access .. | call .. | apply .. | lambda .. => true
  | _ => false

/-- A date literal without a zone, in the given zone. -/
def inZone? (e : Expr) (zone : String) : Option Expr :=
  match e with
  | day spec none o => some (day spec (some zone) o)
  | time h m none o => some (time h m (some zone) o)
  | moment spec none o => some (moment spec (some zone) o)
  | _ => none

end Expr

end Reckoner
