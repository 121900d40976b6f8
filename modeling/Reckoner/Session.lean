import Reckoner.Value.Basic
import Reckoner.Value.Entries

/-!
# Sessions

All that outlives the evaluation of one source: the cells of arrays and
objects, the scopes with their bindings, and the counter of identities.  It
also counts the calls that are going on.

* Cells are only added and overwritten (`newCell`, `setCell`).
* A scope has a parent, in which names are looked up that it does not bind
  (`lookup`).  Scopes are only added, so a parent comes before its children.
* `root` is the scope of the session itself.
-/

namespace Reckoner

/-- What an array or an object holds. -/
inductive Cell where
  | array (items : Array Value)
  | object (entries : Entries Value)

instance : Inhabited Cell := ⟨.array #[]⟩

/-- Names with their values, and the scope around it. -/
structure Scope where
  bindings : Entries Value
  parent : Option Nat

/-- What outlives the evaluation of one source. -/
structure Session where
  cells : Array Cell
  scopes : Array Scope
  root : Nat
  /-- The next identity of a function. -/
  identity : Nat
  /-- How many calls of functions from sources are going on. -/
  depth : Nat

namespace Session

/-- A session without bindings. -/
def empty : Session :=
  { cells := #[], scopes := #[{ bindings := [], parent := none }], root := 0, identity := 0,
    depth := 0 }

/-! ## Cells -/

/-- The items of an array. -/
def items (s : Session) (cell : Nat) : Array Value :=
  match s.cells[cell]? with
  | some (.array items) => items
  | _ => #[]

/-- The entries of an object. -/
def entries (s : Session) (cell : Nat) : Entries Value :=
  match s.cells[cell]? with
  | some (.object entries) => entries
  | _ => []

/-- A new cell; its handle is the number of cells before. -/
def newCell (s : Session) (c : Cell) : Session := { s with cells := s.cells.push c }

/-- The session with another content of a cell. -/
def setCell (s : Session) (cell : Nat) (c : Cell) : Session :=
  { s with cells := s.cells.setIfInBounds cell c }

/-! ## Scopes -/

/-- The value of a name in a scope or the nearest scope around it that binds
the name, in at most `steps` steps. -/
def lookupFrom (scopes : Array Scope) (name : String) : (steps : Nat) → (scope : Nat) → Option Value
  | 0, _ => none
  | steps + 1, scope =>
    match scopes[scope]? with
    | none => none
    | some sc =>
      match sc.bindings.find? name with
      | some v => some v
      | none =>
        match sc.parent with
        | some parent => lookupFrom scopes name steps parent
        | none => none

/-- The value of a name as seen from a scope. -/
def lookup (s : Session) (scope : Nat) (name : String) : Option Value :=
  lookupFrom s.scopes name s.scopes.size scope

/-- A new scope; its number is that of the scopes before. -/
def newScope (s : Session) (sc : Scope) : Session := { s with scopes := s.scopes.push sc }

/-- The session with a name bound in a scope. -/
def bind (s : Session) (scope : Nat) (name : String) (v : Value) : Session :=
  { s with
    scopes := s.scopes.modify scope fun sc => { sc with bindings := sc.bindings.insert name v } }

/-- The session without a name in a scope. -/
def unbind (s : Session) (scope : Nat) (name : String) : Session :=
  { s with
    scopes := s.scopes.modify scope fun sc => { sc with bindings := sc.bindings.erase name } }

/-- The bindings of a scope. -/
def bindings (s : Session) (scope : Nat) : Entries Value :=
  match s.scopes[scope]? with
  | some sc => sc.bindings
  | none => []

/-! ## What is seen of values -/

/-- A bound on how deep arrays and objects nest: no cell contains itself, so
it is the number of cells. -/
def nesting (s : Session) : Nat := s.cells.size

/-- Whether a value counts as true.  Zero, empty texts and collections, false
and null do not. -/
def isTrue (s : Session) : Value → Bool
  | .number x => !x.isZero
  | .quantity q => !q.magnitude.isZero
  | .string t | .markdown t => !t.isEmpty
  | .bool b => b
  | .null => false
  | .array c => !(s.items c).isEmpty
  | .object c => !(s.entries c).isEmpty
  | .date _ | .closure _ _ | .builtin _ _ | .applied _ _ _ => true

end Session

end Reckoner
