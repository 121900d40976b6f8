import Reckoner.Proofs.Discipline.Basic

/-!
# Copies

`Session.copyTo` makes its copies by way of computations on a session.  Here it
is put as plain recursion: `copyListTo` copies values one after the other, and
a copied array or object is a new cell with copies of what the old one holds
(`copyTo_eq`), and anything else is its own copy (`copyTo_of_cell?_eq_none`).
-/

namespace Reckoner

/-- The cell of an array or an object. -/
def Value.cell? : Value → Option Nat
  | .array c | .object c => some c
  | _ => none

/-- An array or an object in another cell. -/
def Value.moved : Value → Nat → Value
  | .array _, c => .array c
  | .object _, c => .object c
  | v, _ => v

namespace Session

/-- Copies of values, made one after the other, of which arrays and objects
nest at most `nesting` deep. -/
def copyListTo (nesting : Nat) : List Value → Session → List Value × Session
  | [], s => ([], s)
  | v :: rest, s =>
    let (w, s) := copyTo nesting v s
    let (ws, s) := copyListTo nesting rest s
    (w :: ws, s)

theorem mapM_copyTo (n : Nat) (vs : List Value) (s : Session) :
    (vs.mapM (copyTo n) : StateM Session (List Value)) s = copyListTo n vs s := by
  induction vs generalizing s with
  | nil => rfl
  | cons v vs ih =>
    rw [List.mapM_cons]
    show StateT.bind (vs.mapM (copyTo n)) (fun ws => pure ((copyTo n v s).1 :: ws))
      (copyTo n v s).2 = _
    unfold StateT.bind
    rw [ih]
    rfl

theorem mapM_copyEntry (n : Nat) (entries : Entries Value) (s : Session) :
    (entries.mapM (fun (key, v) => do return (key, ← copyTo n v)) :
        StateM Session (Entries Value)) s =
      (entries.keys.zip (copyListTo n entries.values s).1,
        (copyListTo n entries.values s).2) := by
  induction entries generalizing s with
  | nil => rfl
  | cons entry rest ih =>
    rcases entry with ⟨key, v⟩
    rw [List.mapM_cons]
    show StateT.bind (rest.mapM fun (key, v) => do return (key, ← copyTo n v))
      (fun es => pure ((key, (copyTo n v s).1) :: es)) (copyTo n v s).2 = _
    unfold StateT.bind
    rw [ih]
    rfl

theorem copyTo_array (n c : Nat) (s : Session) :
    copyTo (n + 1) (.array c) s =
      (.array (copyListTo n (s.items c).toList s).2.cells.size,
        (copyListTo n (s.items c).toList s).2.newCell
          (.array (copyListTo n (s.items c).toList s).1.toArray)) := by
  have hitems : ((s.items c).mapM (copyTo n) : StateM Session (Array Value)) s =
      ((copyListTo n (s.items c).toList s).1.toArray,
        (copyListTo n (s.items c).toList s).2) := by
    rw [Array.mapM_eq_mapM_toList, ← mapM_copyTo]
    rfl
  have hrun : copyTo (n + 1) (.array c) s =
      (.array (((s.items c).mapM (copyTo n) : StateM Session (Array Value)) s).2.cells.size,
        (((s.items c).mapM (copyTo n) : StateM Session (Array Value)) s).2.newCell
          (.array (((s.items c).mapM (copyTo n) : StateM Session (Array Value)) s).1)) := by
    unfold copyTo
    rfl
  rw [hrun, hitems]

theorem copyTo_object (n c : Nat) (s : Session) :
    copyTo (n + 1) (.object c) s =
      (.object (copyListTo n (s.entries c).values s).2.cells.size,
        (copyListTo n (s.entries c).values s).2.newCell
          (.object ((s.entries c).keys.zip (copyListTo n (s.entries c).values s).1))) := by
  have hentries := mapM_copyEntry n (s.entries c) s
  have hrun : copyTo (n + 1) (.object c) s =
      (.object (((s.entries c).mapM (fun (key, v) => do return (key, ← copyTo n v)) :
          StateM Session (Entries Value)) s).2.cells.size,
        (((s.entries c).mapM (fun (key, v) => do return (key, ← copyTo n v)) :
          StateM Session (Entries Value)) s).2.newCell
          (.object (((s.entries c).mapM (fun (key, v) => do return (key, ← copyTo n v)) :
            StateM Session (Entries Value)) s).1)) := by
    conv =>
      lhs
      unfold copyTo
    rfl
  rw [hrun, hentries]

/-! ## Arrays and objects alike -/

/-- The values that an array or an object holds. -/
def contents (s : Session) : Value → List Value
  | .array c => (s.items c).toList
  | .object c => (s.entries c).values
  | _ => []

/-- The cell of an array or an object with other values. -/
def refilled (s : Session) : Value → List Value → Cell
  | .object c, ws => .object ((s.entries c).keys.zip ws)
  | _, ws => .array ws.toArray

theorem copyTo_eq {v : Value} {c : Nat} (hv : v.cell? = some c) (n : Nat) (s : Session) :
    copyTo (n + 1) v s =
      (v.moved (copyListTo n (s.contents v) s).2.cells.size,
        (copyListTo n (s.contents v) s).2.newCell
          (s.refilled v (copyListTo n (s.contents v) s).1)) := by
  cases v with
  | array c => exact copyTo_array n c s
  | object c => exact copyTo_object n c s
  | _ => cases hv

theorem copyTo_of_cell?_eq_none {v : Value} (hv : v.cell? = none) (n : Nat) (s : Session) :
    copyTo n v s = (v, s) := by
  cases v with
  | array c => cases hv
  | object c => cases hv
  | _ => cases n <;> rfl

theorem copyTo_zero (v : Value) (s : Session) : copyTo 0 v s = (v, s) := by
  cases v <;> rfl

theorem length_copyListTo (n : Nat) (vs : List Value) (s : Session) :
    (copyListTo n vs s).1.length = vs.length := by
  induction vs generalizing s with
  | nil => rfl
  | cons v vs ih => exact congrArg (· + 1) (ih _)

theorem values_refilled (s : Session) (v : Value) {ws : List Value}
    (h : ws.length = (s.contents v).length) : (s.refilled v ws).values = ws := by
  cases v with
  | object c =>
    have hlength : (s.entries c).keys.length = ws.length := by
      rw [h]
      simp [contents, Entries.keys, Entries.values]
    show ((s.entries c).keys.zip ws).map (·.2) = ws
    exact List.map_snd_zip (by omega)
  | _ => rfl

end Session

end Reckoner
