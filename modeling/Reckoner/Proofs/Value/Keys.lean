import Reckoner.Proofs.Session.Planted
import Reckoner.Proofs.Value.Equality

/-!
# No object has a key twice

Objects come from literals, from the functions that make them, from external arguments and
from copies.  All of these insert one entry after the other, which puts a value in the place
of an earlier one with the same key.

* `Session.KeysDistinct.newCell`, `setCell` and `copyTo`: the changes of cells.
* `keying_lawful`: evaluation keeps it that no object has a key twice.
-/

namespace Reckoner

namespace Session

variable {s t : Session} {v : Value}

/-! ## What the cells of a later session hold -/

theorem Extends.items_eq (h : Extends none s t) {c : Nat} (hc : c < s.cells.size) :
    t.items c = s.items c := by
  rw [items, h.cell_eq c hc (Option.some_ne_none c).symm, items]

theorem Extends.entries_eq (h : Extends none s t) {c : Nat} (hc : c < s.cells.size) :
    t.entries c = s.entries c := by
  rw [entries, h.cell_eq c hc (Option.some_ne_none c).symm, entries]

theorem items_newCell (s : Session) (xs : Array Value) :
    (s.newCell (.array xs)).items s.cells.size = xs := by
  simp [items, newCell]

theorem entries_newCell (s : Session) (es : Entries Value) :
    (s.newCell (.object es)).entries s.cells.size = es := by
  simp [entries, newCell]

/-! ## Changes of cells -/

theorem keysDistinct_of_cells_eq (h : t.cells = s.cells) (hs : s.KeysDistinct) :
    t.KeysDistinct := by
  intro c
  rw [entries, h]
  exact hs c

theorem keysDistinct_empty : empty.KeysDistinct := fun _ => Entries.nodup_keys_nil

theorem KeysDistinct.newCell (hs : s.KeysDistinct) {cell : Cell}
    (hcell : ∀ es, cell = .object es → es.keys.Nodup) : (s.newCell cell).KeysDistinct := by
  intro c
  rcases Nat.lt_trichotomy c s.cells.size with hlt | rfl | hgt
  · rw [(extends_newCell s cell).entries_eq hlt]
    exact hs c
  · cases cell with
    | array xs => simp [entries, Session.newCell, Entries.keys]
    | object es =>
      rw [entries_newCell]
      exact hcell es rfl
  · have hnone : (s.newCell cell).cells[c]? = none :=
      Array.getElem?_eq_none (by simpa [Session.newCell] using hgt)
    simp [entries, hnone, Entries.keys]

theorem KeysDistinct.setCell (hs : s.KeysDistinct) (c : Nat) {cell : Cell}
    (hcell : ∀ es, cell = .object es → es.keys.Nodup) : (s.setCell c cell).KeysDistinct := by
  intro d
  by_cases hd : c = d ∧ c < s.cells.size
  · obtain ⟨rfl, hlt⟩ := hd
    cases cell with
    | array xs => simp [entries, Session.setCell, hlt, Entries.keys]
    | object es =>
      have hentries : (s.setCell c (.object es)).entries c = es := by
        simp [entries, Session.setCell, hlt]
      rw [hentries]
      exact hcell es rfl
  · have hcells : (s.setCell c cell).cells[d]? = s.cells[d]? := by
      rw [Session.setCell, Array.getElem?_setIfInBounds]
      split
      · rename_i heq
        have hle : s.cells.size ≤ c := Nat.le_of_not_lt fun hlt => hd ⟨heq, hlt⟩
        simp [← heq, hle]
      · rfl
    rw [entries, hcells]
    exact hs d

theorem keys_zip {es : Entries Value} {ws : List Value} (h : ws.length = es.values.length) :
    Entries.keys (es.keys.zip ws) = es.keys := by
  have hlength : es.keys.length ≤ ws.length := by
    rw [h]
    simp [Entries.keys, Entries.values]
  exact List.map_fst_zip hlength

/-- A copy of an object has the keys of the object. -/
theorem KeysDistinct.copyTo (hs : s.KeysDistinct) (n : Nat) (v : Value) :
    (Session.copyTo n v s).2.KeysDistinct := by
  induction n generalizing s v with
  | zero =>
    rw [copyTo_zero]
    exact hs
  | succ n ih =>
    have hlist {s : Session} (hs : s.KeysDistinct) (vs : List Value) :
        (copyListTo n vs s).2.KeysDistinct := by
      induction vs generalizing s with
      | nil => exact hs
      | cons w vs ihvs => exact ihvs (ih hs w)
    cases hc : v.cell? with
    | none =>
      rw [copyTo_of_cell?_eq_none hc]
      exact hs
    | some c =>
      rw [copyTo_eq hc]
      refine (hlist hs _).newCell fun es hes => ?_
      cases v with
      | object d =>
        obtain rfl := Cell.object.inj hes
        have hlength : (copyListTo n (s.entries d).values s).1.length = (s.entries d).values.length :=
          length_copyListTo _ _ _
        exact (keys_zip hlength).symm ▸ hs d
      | _ => cases hes

theorem KeysDistinct.copyList (hs : s.KeysDistinct) (vs : List Value) :
    (Session.copyList vs s).2.KeysDistinct := by
  induction vs generalizing s with
  | nil => exact hs
  | cons v vs ih => exact ih (hs.copyTo _ v)

end Session

/-! ## The discipline -/

/-- No object has a key twice. -/
def keying : Discipline where
  units := False
  known := False
  units_of_known := id
  FitsOffset _ := True
  FitsNode _ := True
  Allows _ := True
  Holds := Session.KeysDistinct
  Leads _ _ _ := True
  Fits _ _ := True

theorem keying_lawful : keying.Lawful where
  offset_of_node _ := trivial
  units_of_node _ h := h.elim
  allows_of_name _ _ := trivial
  allows_of_call _ _ := trivial
  leads_refl := trivial
  leads_trans _ _ := trivial
  leads_of_none _ := trivial
  fits_of_leads _ _ := trivial
  fits_atomic _ := trivial
  measured_of_fits _ _ _ h := h.elim
  fits_builtin := ⟨fun _ => trivial, fun _ => trivial⟩
  fits_closure := ⟨fun _ => Expr.every_of_forall (fun _ => trivial) _, fun _ => trivial⟩
  fits_applied := ⟨fun _ => ⟨trivial, fun _ _ => trivial⟩, fun _ => trivial⟩
  fits_item _ _ _ := trivial
  fits_entry _ _ _ := trivial
  fits_lookup _ _ := trivial
  newArray hs _ := ⟨⟨hs.newCell (fun _ h => by cases h), trivial⟩, trivial⟩
  newObject hs hkeys _ := ⟨⟨hs.newCell fun _ h => Cell.object.inj h ▸ hkeys, trivial⟩, trivial⟩
  newIdentity hs := ⟨hs, trivial⟩
  withBinding _ hs _ := ⟨hs.copyTo _ _, trivial⟩
  withItems _ hs _ _ := ⟨(hs.copyList _).setCell _ (fun _ h => by cases h), trivial⟩
  withoutLast _ hs _ := ⟨hs.setCell _ (fun _ h => by cases h), trivial⟩
  withEntry {s c key v} _ hs _ _ :=
    have hcopy := hs.copyTo s.nesting v
    ⟨hcopy.setCell c fun _ h => Cell.object.inj h ▸ Entries.nodup_keys_insert (hcopy c), trivial⟩
  entered hs _ _ := hs
  left _ _ ht _ := ⟨ht, trivial⟩
  fits_left _ := trivial

/-- Evaluation makes no object with a key twice. -/
theorem Session.KeysDistinct.evalExpr {ctx : Context} {bound scope : Nat} {e : Expr} {v : Value}
    {s t : Session} (hs : s.KeysDistinct)
    (h : Eval.evalExpr ctx (Eval.callValue ctx bound) scope e s = .ok v t) : t.KeysDistinct := by
  have hctx : keying.FitsContext ctx := fun _ _ _ _ h => h.elim
  have hrun := Discipline.keeps_evalExpr keying_lawful hctx
    (Discipline.calls_callValue keying_lawful hctx bound) scope hs e
    (Expr.every_of_forall (fun _ => trivial) e)
  unfold Discipline.Keeps at hrun
  rw [h] at hrun
  cases hrun with
  | ok step _ => exact step.holds

end Reckoner
