import Reckoner.Eval.Monad

/-!
# Functions on objects

Keys are strings; a number stands for its text.

`put` copies the value first and changes the object then.  That the object is
already held for the change, so that a copy which looks into it panics, as that of
`set(o, "k", o)` does, is left out.
-/

namespace Reckoner.Eval

/-- The keys in order. -/
def keys (o : Value) (offset : Nat) : EvalM Value := do
  newList ((← entriesOf o offset).keys.map .string)

/-- The values in order. -/
def values (o : Value) (offset : Nat) : EvalM Value := do
  newList (← entriesOf o offset).values

/-- Whether a key is there. -/
def has (o key : Value) (offset : Nat) : EvalM Value := do
  let entries ← entriesOf o offset
  return .bool (entries.hasKey (← key.asKey offset))

/-- The value of a key, or another one. -/
def lookup (o key : Value) (other : Option Value) (offset : Nat) : EvalM Value := do
  let entries ← entriesOf o offset
  let key ← key.asKey offset
  return (entries.find? key).getD (other.getD .null)

/-- Puts a copy of a value under a key. -/
def put (o key v : Value) (offset : Nat) : EvalM Value := do
  let cell ← o.asObject offset
  let key ← key.asKey offset
  let v ← copy v
  modify fun s => s.setCell cell (.object ((s.entries cell).insert key v))
  return o

/-- The entries of several objects, later values replacing earlier ones. -/
def mergeEntries (offset : Nat) : (merged : Entries Value) → List Value → EvalM (Entries Value)
  | merged, [] => pure merged
  | merged, o :: rest => do
    let entries ← entriesOf o offset
    mergeEntries offset (merged.insertAll entries) rest

/-- A new object with the entries of several ones. -/
def mergeObjects (objects : List Value) (offset : Nat) : EvalM Value := do
  newObject (← mergeEntries offset [] objects)

end Reckoner.Eval
