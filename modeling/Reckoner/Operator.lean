/-!
# Operators

The operators of the language and the signs they are shown with.
-/

namespace Reckoner

/-- Operators on two values. -/
inductive BinaryOp where
  | add
  | sub
  | mul
  | div
  | mod
  | pow
  | bitAnd
  | bitOr
  | shiftLeft
  | shiftRight
deriving DecidableEq, Repr

/-- The sign of an operator. -/
def BinaryOp.symbol : BinaryOp → String
  | add => "+"
  | sub => "-"
  | mul => "*"
  | div => "/"
  | mod => "%"
  | pow => "^"
  | bitAnd => "&"
  | bitOr => "|"
  | shiftLeft => "<<"
  | shiftRight => ">>"

/-- Operators on one value. -/
inductive UnaryOp where
  | negate
  | plus
  | not
  | percent
deriving DecidableEq, Repr

/-- The sign of an operator. -/
def UnaryOp.symbol : UnaryOp → String
  | negate => "-"
  | plus => "+"
  | not => "not"
  | percent => "%"

/-- Operators that look at their right operand only if they have to. -/
inductive LogicalOp where
  | and
  | or
deriving DecidableEq, Repr

/-- The word of an operator. -/
def LogicalOp.symbol : LogicalOp → String
  | and => "and"
  | or => "or"

/-- Comparisons. -/
inductive CompareOp where
  | equal
  | notEqual
  | less
  | lessEqual
  | greater
  | greaterEqual
deriving DecidableEq, Repr

/-- The sign of a comparison. -/
def CompareOp.symbol : CompareOp → String
  | equal => "=="
  | notEqual => "!="
  | less => "<"
  | lessEqual => "<="
  | greater => ">"
  | greaterEqual => ">="

end Reckoner
