import Reckoner.Context
import Reckoner.Session
import Reckoner.Value.Text

/-!
# Computations on a session

Evaluation reads and changes a session and may stop early.  The session as it
is then stays: what was done before an error is not undone.

`Session.copyTo` copies arrays and objects, so that the copy shares no cell
with the value it was made of.
-/

namespace Reckoner

/-- Why an evaluation stops early. -/
inductive Stop where
  | fault (e : Error)
  /-- Calls nest deeper than the given bound allows to follow. -/
  | exhausted
deriving DecidableEq, Repr

/-- A computation on a session. -/
abbrev EvalM := EStateM Stop Session

/-- A call of a value with arguments, at an offset. -/
abbrev Caller := Value → List Value → Nat → EvalM Value

instance : MonadLift Checked EvalM where
  monadLift
    | .ok x => pure x
    | .error e => throw (.fault e)

namespace Eval

/-- Stops with an error. -/
def fail {α : Type} (offset : Nat) (cause : Cause) : EvalM α := throw (.fault { cause, offset })

/-- A new array. -/
def newArray (items : Array Value) : EvalM Value :=
  modifyGet fun s => (.array s.cells.size, s.newCell (.array items))

/-- A new array out of a list. -/
def newList (items : List Value) : EvalM Value := newArray items.toArray

/-- A new object. -/
def newObject (entries : Entries Value) : EvalM Value :=
  modifyGet fun s => (.object s.cells.size, s.newCell (.object entries))

/-- A new identity for a function. -/
def newIdentity : EvalM Nat :=
  modifyGet fun s => (s.identity, { s with identity := s.identity + 1 })

/-- The items of an array. -/
def itemsOf (v : Value) (offset : Nat) : EvalM (Array Value) := do
  let cell ← v.asArray offset
  return (← get).items cell

/-- The entries of an object. -/
def entriesOf (v : Value) (offset : Nat) : EvalM (Entries Value) := do
  let cell ← v.asObject offset
  return (← get).entries cell

/-- Whether a value counts as true. -/
def isTrue (v : Value) : EvalM Bool := return (← get).isTrue v

/-- The text of a value. -/
def textOf (v : Value) : EvalM String := return (← get).render v

end Eval

namespace Session

/-- A copy of a value of which arrays and objects nest at most `nesting`
deep. -/
def copyTo : (nesting : Nat) → Value → StateM Session Value
  | n + 1, .array c => do
    let items ← ((← get).items c).mapM (copyTo n)
    modifyGet fun s => (.array s.cells.size, s.newCell (.array items))
  | n + 1, .object c => do
    let entries ← ((← get).entries c).mapM fun (key, v) => return (key, ← copyTo n v)
    modifyGet fun s => (.object s.cells.size, s.newCell (.object entries))
  | _, v => pure v

/-- A copy of a value. -/
def copy (v : Value) : StateM Session Value := fun s => copyTo s.nesting v s

end Session

namespace Eval

/-- A copy of a value that shares no cell with it. -/
def copy (v : Value) : EvalM Value := modifyGet (Session.copy v)

/-- Binds a copy of a value to a name. -/
def define (scope : Nat) (name : String) (v : Value) : EvalM Unit := do
  let v ← copy v
  modify fun s => s.bind scope name v

end Eval

end Reckoner
