import Reckoner.Eval.Call
import Reckoner.Grammar.Expression

/-!
# Evaluating sources

`evaluate` reads one source and evaluates it at the root of a session, which
keeps what the source binds.  The rest is what a host does with a session
between sources.
-/

namespace Reckoner

/-- How deep calls may nest, those of built-in functions included.  No stack
holds as many. -/
def callBound : Nat := 1000000000

/-- The value of a source. -/
def evaluate (ctx : Context) (source : String) : EvalM Value := do
  let e ← Expr.parse source
  Eval.evalExpr ctx (Eval.callValue ctx callBound) (← get).root e

/-- Calls a built-in function by its name. -/
def callByName (ctx : Context) (name : String) (args : List Value) (offset : Nat) :
    EvalM Value :=
  match Builtin.ofName? name with
  | some b => Eval.callBuiltin ctx (Eval.callValue ctx callBound) b args offset
  | none => Eval.fail offset (.unknownFunction name)

/-- Computes with a new, empty root, and goes back to the old one. -/
def apart {α : Type} (act : EvalM α) : EvalM α := fun s =>
  let fresh := { s.newScope { bindings := [], parent := none } with root := s.scopes.size }
  match act fresh with
  | .ok x t => .ok x { t with root := s.root }
  | .error e t => .error e { t with root := s.root }

namespace Session

/-- The value of a name at the root. -/
def get? (s : Session) (name : String) : Option Value := s.lookup s.root name

/-- Binds a copy of a value to a name at the root. -/
def set (name : String) (v : Value) : EvalM Unit := do Eval.define (← get).root name v

/-- The session without a name at the root. -/
def remove (s : Session) (name : String) : Session := s.unbind s.root name

/-- The names that are bound at the root, in order. -/
def names (s : Session) : List String :=
  ((s.bindings s.root).keys).mergeSort fun a b => decide (a ≤ b)

end Session

end Reckoner
