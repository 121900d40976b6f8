import Reckoner.Decimal.Text
import Reckoner.Kind

/-!
# Errors

An `Error` is a cause and the byte offset in the source that it belongs to.
Causes are data; what they say is written in one place, `Cause.text` and the
functions it uses.  `Cause.group` sorts the causes into the six groups that
callers tell apart.
-/

namespace Reckoner

/-- A value of a kind that the operation has no meaning for. -/
inductive TypeFault where
  | expected (wanted : String) (found : Kind)
  | notInteger (value : Decimal)
  | unknownUnit (name : String)
  | quantityPower
  | shiftByUnits (units : String)
  | fractionalShift (unit : String)
  | operands (operator : String) (left right : Kind)
  | operand (operator : String) (kind : Kind)
  | incomparable (left right : Kind)
  | notAFunction (name : String) (kind : Kind)
  | notCallable (kind : Kind)
  | arrayAsGroupKey
  | noDatePart (name : String)
  | notIndexable (container key : Kind)
  | noProperty (container : Kind) (key : String)
  | dateIntoUnits
  | intoUnits (kind : Kind)
  | intoZone (kind : Kind)
  | cast (source target : Kind)
deriving DecidableEq, Repr

/-- An operation that leaves the numbers or dates it is defined on. -/
inductive DomainFault where
  | overflow
  | exponentTooLarge
  | negativeRoot
  | rootDiverges
  | negativeBase (base : Decimal)
  | shiftAmount (amount : Int)
  | dateRange
  | rangeBounds
  | logarithm (of : Decimal)
  | logarithmBaseOne
  | logarithmRange
  | factorial (n : Int)
  | commonMultiple
  | zeroRate (code : String)
  | integerTooLarge
  | notFinite
  | resultRange
deriving DecidableEq, Repr

/-- An argument of the right kind that cannot be used. -/
inductive ArgumentFault where
  | emptyReduce
  | comparatorArity (found : Nat)
  | rangeArity
  | zeroStep
  | rangeLength (length limit : Nat)
  | notADay (year month day : Int)
  | replaceEmpty
  | places (n : Int)
  | noValue
  | clampArity
  | clampBounds (low high : String)
  | negativeFactorial (n : Int)
  | negativeInteger (n : Int)
deriving DecidableEq, Repr

/-- Why something failed. -/
inductive Cause where
  /-- A token that cannot stand where it stands. -/
  | unexpectedToken (token : String)
  /-- The source ends in the middle of an expression. -/
  | unexpectedEnd
  /-- A certain token has to follow. -/
  | expectedToken (expected found : String)
  /-- Something follows a complete expression. -/
  | trailingTokens (token : String)
  /-- Something other than a name is assigned to. -/
  | invalidTarget
  /-- A number or a date that does not exist. -/
  | invalidLiteral (literal : String)
  | unknownVariable (name : String)
  | unknownFunction (name : String)
  | typing (fault : TypeFault)
  | incompatibleUnits (left right : String)
  | missingRate (code : String)
  | argumentCount (name expected : String) (found : Nat)
  | divisionByZero
  | unknownZone (name : String)
  | domain (fault : DomainFault)
  | argument (fault : ArgumentFault)
  | indexOutOfBounds (index : Int) (length : Nat)
  | noValues (aggregate : String)
  /-- Calls nest deeper than the limit. -/
  | callDepth (limit : Nat)
deriving DecidableEq, Repr

/-- An error and where in the source it arose. -/
structure Error where
  cause : Cause
  offset : Nat
deriving DecidableEq, Repr

/-- The groups of errors that callers tell apart. -/
inductive ErrorGroup where
  | syntactic
  | typing
  | dimension
  | arity
  | domain
  | lookup
deriving DecidableEq, Repr

/-! ## Wording -/

/-- `text` between single quotes. -/
def inQuotes (text : String) : String := "'" ++ text ++ "'"

/-- What a type fault says. -/
def TypeFault.text : TypeFault → String
  | expected wanted found => "Expected " ++ wanted ++ ", found " ++ found.name
  | notInteger value => "expected an integer, found " ++ value.render
  | unknownUnit name => "unknown unit " ++ inQuotes name
  | quantityPower => "Quantities can only be raised to whole powers"
  | shiftByUnits units => "Cannot shift a date by " ++ inQuotes units
  | fractionalShift unit => "Cannot shift a date by a fractional number of " ++ unit ++ "s"
  | operands operator left right =>
    "Cannot apply " ++ inQuotes operator ++ " to " ++ left.name ++ " and " ++ right.name
  | operand operator kind => "Cannot apply " ++ inQuotes operator ++ " to " ++ kind.name
  | incomparable left right => "Cannot compare " ++ left.name ++ " with " ++ right.name
  | notAFunction name kind => inQuotes name ++ " is a " ++ kind.name ++ ", not a function"
  | notCallable kind => "Cannot call a value of type " ++ kind.name
  | arrayAsGroupKey => "groupBy key cannot be an array"
  | noDatePart name => "dates have no " ++ inQuotes name
  | notIndexable container key => "Cannot index " ++ container.name ++ " with " ++ key.name
  | noProperty container key => container.name ++ " has no property " ++ inQuotes key
  | dateIntoUnits => "Cannot convert a date into units"
  | intoUnits kind => "Cannot convert " ++ kind.name ++ " into units"
  | intoZone kind => "Cannot convert " ++ kind.name ++ " to a timezone"
  | cast source target => "Cannot convert " ++ source.name ++ " to " ++ target.name

/-- What a domain fault says. -/
def DomainFault.text : DomainFault → String
  | overflow => "Numeric overflow"
  | exponentTooLarge => "Exponent is too large"
  | negativeRoot => "Square root of a negative number"
  | rootDiverges => "Square root failed to converge"
  | negativeBase base =>
    "Cannot raise negative number " ++ base.render ++ " to a fractional power"
  | shiftAmount amount => "Shift amount " ++ toString amount ++ " is out of range"
  | dateRange => "Date out of range"
  | rangeBounds => "Range bounds are too large"
  | logarithm x => "Logarithm of " ++ x.render
  | logarithmBaseOne => "Logarithm base 1"
  | logarithmRange => "Logarithm out of range"
  | factorial n => toString n ++ "! is too large"
  | commonMultiple => "Least common multiple is too large"
  | zeroRate code => "Exchange rate for " ++ inQuotes code ++ " is zero"
  | integerTooLarge => "Integer is too large"
  | notFinite => "Result is not a finite number"
  | resultRange => "Result is out of range"

/-- What an argument fault says. -/
def ArgumentFault.text : ArgumentFault → String
  | emptyReduce => "cannot reduce an empty array without an initial value"
  | comparatorArity found =>
    "sort comparator must take 2 parameters, not " ++ toString found
  | rangeArity => "range takes 1 to 3 numbers"
  | zeroStep => "range step cannot be 0"
  | rangeLength length limit =>
    "range of " ++ toString length ++ " elements exceeds " ++ toString limit
  | notADay year month day =>
    toString year ++ "-" ++ toString month ++ "-" ++ toString day ++ " is not a calendar date"
  | replaceEmpty => "cannot replace an empty string"
  | places n => "cannot round to " ++ toString n ++ " places"
  | noValue => "expected at least one value"
  | clampArity => "clamp takes three values"
  | clampBounds low high => "lower bound " ++ low ++ " exceeds upper bound " ++ high
  | negativeFactorial n => "factorial of negative number " ++ toString n
  | negativeInteger n => "expected a non-negative integer, found " ++ toString n

/-- What a cause says, without the place and the full stop. -/
def Cause.text : Cause → String
  | unexpectedToken token => "Unexpected token " ++ inQuotes token
  | unexpectedEnd => "Unexpected end of input"
  | expectedToken expected found => "Expected " ++ expected ++ ", found " ++ inQuotes found
  | trailingTokens token => "Extra tokens after expression starting at " ++ inQuotes token
  | invalidTarget => "Only names can be assigned to"
  | invalidLiteral literal => "Invalid literal " ++ inQuotes literal
  | unknownVariable name => "Unknown variable " ++ inQuotes name
  | unknownFunction name => "Unknown function " ++ inQuotes name
  | typing fault => "Type error: " ++ fault.text
  | incompatibleUnits left right =>
    "Cannot combine " ++ inQuotes left ++ " with " ++ inQuotes right
  | missingRate code => "No exchange rate for " ++ inQuotes code
  | argumentCount name expected found =>
    inQuotes name ++ " expects " ++ expected ++ " argument(s), got " ++ toString found
  | divisionByZero => "Division by zero"
  | unknownZone name => "Unknown timezone " ++ inQuotes name
  | domain fault => fault.text
  | argument fault => "Invalid argument: " ++ fault.text
  | indexOutOfBounds index length =>
    "Index " ++ toString index ++ " is out of bounds for length " ++ toString length
  | noValues aggregate => "no values to " ++ aggregate
  | callDepth limit => "Maximum call depth of " ++ toString limit ++ " exceeded"

/-- The group a cause belongs to. -/
def Cause.group : Cause → ErrorGroup
  | unexpectedToken _ | unexpectedEnd | expectedToken _ _ | trailingTokens _ | invalidTarget
  | invalidLiteral _ => .syntactic
  | unknownVariable _ | unknownFunction _ => .lookup
  | typing _ | argument _ => .typing
  | incompatibleUnits _ _ | missingRate _ => .dimension
  | argumentCount _ _ _ => .arity
  | divisionByZero | unknownZone _ | domain _ | indexOutOfBounds _ _ | noValues _
  | callDepth _ => .domain

/-- The whole message. -/
def Error.message (e : Error) : String :=
  let head := if e.cause.group = .syntactic then "Syntax error at " else "Error at "
  head ++ toString e.offset ++ ": " ++ e.cause.text ++ "."

/-! ## Failing at an offset -/

/-- Computations that may fail. -/
abbrev Checked := Except Error

/-- Fails with a cause. -/
def failAt {α : Type} (offset : Nat) (cause : Cause) : Checked α :=
  .error { cause, offset }

/-- The value of an optional result, or a failure. -/
def orFail {α : Type} (offset : Nat) (cause : Cause) (x? : Option α) : Checked α :=
  match x? with
  | some x => .ok x
  | none => failAt offset cause

/-- The result of a decimal operation, or a numeric overflow. -/
def orOverflow (offset : Nat) (x? : Option Decimal) : Checked Decimal :=
  orFail offset (.domain .overflow) x?

/-! ## Whole numbers out of decimals -/

namespace Decimal

/-- The whole number a decimal is, within a signed 64-bit word. -/
def toInteger (x : Decimal) (offset : Nat) : Checked Int :=
  if !x.isWhole then failAt offset (.typing (.notInteger x))
  else orFail offset (.domain .integerTooLarge) x.toInt64?

/-- The whole number a decimal is, if it is not negative. -/
def toCount (x : Decimal) (offset : Nat) : Checked Nat := do
  let n ← x.toInteger offset
  if n < 0 then failAt offset (.argument (.negativeInteger n)) else pure n.toNat

end Decimal

end Reckoner
