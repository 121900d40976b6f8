import Reckoner.Eval.Monad
import Reckoner.Value.Equality

/-!
# Comparisons

The order of values and the equality that `==` tests.  Quantities are
converted before they are compared, so a kilometre equals a thousand metres;
inside arrays and objects they are compared as they are written.
-/

namespace Reckoner.Eval

/-- The order of two values. -/
def compareValues (ctx : Context) (left right : Value) (offset : Nat) : Checked Ordering :=
  match left, right with
  | .number x, .number y => .ok (x.compare y)
  | .quantity p, .quantity q => do
    let q ← q.convertTo p.dims ctx.rates offset
    .ok (p.magnitude.compare q.magnitude)
  | .number x, .quantity q => .ok (x.compare q.magnitude)
  | .quantity p, .number y => .ok (p.magnitude.compare y)
  | .string t, .string u => .ok (compare t u)
  | .date d, .date e => .ok (d.compare e)
  | .bool a, .bool b => .ok (compare a b)
  | left, right => failAt offset (.typing (.incomparable left.kind right.kind))

/-- Whether two values are equal for `==`. -/
def equals (ctx : Context) (s : Session) (left right : Value) (offset : Nat) : Bool :=
  match left, right with
  | .quantity p, .quantity q =>
    if p.dims.compatible q.dims then
      match q.convertTo p.dims ctx.rates offset with
      | .ok q => q.magnitude.sameValue p.magnitude
      | .error _ => false
    else s.same left right
  | left, right => s.same left right

/-- A comparison of two values. -/
def comparison (ctx : Context) (op : CompareOp) (left right : Value) (offset : Nat) :
    EvalM Value := do
  match op with
  | .equal => return .bool (equals ctx (← get) left right offset)
  | .notEqual => return .bool (!equals ctx (← get) left right offset)
  | .less => return .bool ((← compareValues ctx left right offset) == .lt)
  | .lessEqual => return .bool ((← compareValues ctx left right offset) != .gt)
  | .greater => return .bool ((← compareValues ctx left right offset) == .gt)
  | .greaterEqual => return .bool ((← compareValues ctx left right offset) != .lt)

end Reckoner.Eval
