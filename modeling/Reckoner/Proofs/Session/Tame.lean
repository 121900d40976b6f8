import Reckoner.Proofs.Session.Lookup

/-!
# What changes no cell

Only `push`, `append`, `pop` and `set` change cells that are there.  An
expression that names none of them, in a session whose functions name none of
them either, leaves all cells as they were; if it assigns no name besides, all
scopes too.

* `Expr.Tame`, `Value.Tame`, `Session.Tame`: none of the four is named.
* `tameness` is the discipline of it.
* `Session.Undisturbed` says that what was there is as it was, and
  `undisturbed_evalExpr` that such expressions leave it so.
-/

namespace Reckoner

open Eval

/-! ## Functions that change cells -/

namespace Builtin

/-- Whether a function changes a cell that is there. -/
def changesCells : Builtin → Bool
  | push | append | pop | put => true
  | _ => false

/-- The names of the functions that change cells. -/
def changers : List String := ["push", "append", "pop", "set"]

theorem name_of_ofName? {name : String} {b : Builtin} (h : ofName? name = some b) :
    b.name = name := by
  have hb := List.find?_some h
  exact beq_iff_eq.1 hb

theorem changesCells_eq_false {name : String} {b : Builtin} (hname : name ∉ changers)
    (h : ofName? name = some b) : b.changesCells = false := by
  rw [← name_of_ofName? h] at hname
  cases b with
  | push | append | pop | put => exact absurd (by decide) hname
  | _ => rfl

end Builtin

/-- The node names no function that changes cells. -/
def Expr.Tame : Expr → Prop
  | name text _ => text ∉ Builtin.changers
  | call callee _ _ => callee ∉ Builtin.changers
  | _ => True

namespace Value

/-- No function in a value changes cells, nor does a body name one that does. -/
structure Tame (v : Value) : Prop where
  closure : ∀ i f, In (closure i f) v → f.body.Every Expr.Tame
  builtin : ∀ i b, In (builtin i b) v → b.changesCells = false

theorem tame_applied {i : Nat} {f : Value} {bound : List Value} :
    (applied i f bound).Tame ↔ f.Tame ∧ ∀ v ∈ bound, v.Tame := by
  constructor
  · exact fun h => ⟨⟨fun i g hg => h.closure i g (.callee hg), fun i b hb => h.builtin i b (.callee hb)⟩,
      fun v hv => ⟨fun i g hg => h.closure i g (.bound hv hg),
        fun i b hb => h.builtin i b (.bound hv hb)⟩⟩
  · rintro ⟨hf, hbound⟩
    constructor
    · intro i g hg
      cases hg with
      | callee hg => exact hf.closure i g hg
      | bound hv hg => exact (hbound _ hv).closure i g hg
    · intro i b hb
      cases hb with
      | callee hb => exact hf.builtin i b hb
      | bound hv hb => exact (hbound _ hv).builtin i b hb

theorem tame_closure {i : Nat} {f : Closure} :
    (Value.closure i f).Tame ↔ f.body.Every Expr.Tame := by
  constructor
  · exact fun h => h.closure i f .here
  · intro hf
    constructor
    · intro j g hg
      cases hg.eq_of_not_applied (by simp)
      exact hf
    · intro j b hb
      cases hb.eq_of_not_applied (by simp)

theorem tame_builtin {i : Nat} {b : Builtin} :
    (Value.builtin i b).Tame ↔ b.changesCells = false := by
  constructor
  · exact fun h => h.builtin i b .here
  · intro hb
    constructor
    · intro j g hg
      cases hg.eq_of_not_applied (by simp)
    · intro j b' hb'
      cases hb'.eq_of_not_applied (by simp)
      exact hb

/-- What is no function is tame. -/
theorem tame_of_not_callable {v : Value} (h : v.isCallable = false) : v.Tame := by
  have hv : ∀ i f bound, v ≠ applied i f bound := by
    rintro i f bound rfl
    cases h
  constructor
  · intro i f hf
    cases hf.eq_of_not_applied hv
    cases h
  · intro i b hb
    cases hb.eq_of_not_applied hv
    cases h

theorem Tame.moved {v : Value} (h : v.Tame) (k : Nat) : (v.moved k).Tame := by
  cases v with
  | array c | object c => exact tame_of_not_callable rfl
  | _ => exact h

theorem tame_of_atomic {care : Care} {v : Value} (h : v.Atomic care) : v.Tame := by
  cases v with
  | closure i f | builtin i b | applied i f bound => exact h.elim
  | _ => exact tame_of_not_callable rfl

end Value

namespace Session

/-- No function in a session changes cells. -/
def Tame (s : Session) : Prop := s.All Value.Tame

/-- The cells of `s` are as they were. -/
structure CellsKept (s t : Session) : Prop where
  root_eq : t.root = s.root
  size_le : s.cells.size ≤ t.cells.size
  cell_eq : ∀ c < s.cells.size, t.cells[c]? = s.cells[c]?

variable {s t u : Session}

theorem cellsKept_of_cells_eq (hroot : t.root = s.root) (h : t.cells = s.cells) :
    CellsKept s t where
  root_eq := hroot
  size_le := by rw [h]
  cell_eq c _ := by rw [h]

theorem Extends.cellsKept (h : Extends none s t) : CellsKept s t where
  root_eq := h.root_eq
  size_le := h.size_le
  cell_eq c hc := h.cell_eq c hc (Option.some_ne_none c).symm

theorem CellsKept.trans (hst : CellsKept s t) (htu : CellsKept t u) : CellsKept s u where
  root_eq := htu.root_eq.trans hst.root_eq
  size_le := hst.size_le.trans htu.size_le
  cell_eq c hc := (htu.cell_eq c (hc.trans_le hst.size_le)).trans (hst.cell_eq c hc)

theorem cellsKept_withBinding (s : Session) (scope : Nat) (name : String) (v : Value) :
    CellsKept s (s.withBinding scope name v) :=
  have h : CellsKept s (copy v s).2 := (extends_copyTo s.nesting v s).cellsKept
  ⟨h.root_eq, h.size_le, h.cell_eq⟩

end Session

/-! ## The discipline -/

/-- No function changes cells, and none is changed. -/
def tameness : Discipline where
  units := False
  known := False
  units_of_known := id
  FitsOffset _ := True
  FitsNode := Expr.Tame
  Allows b := b.changesCells = false
  Holds := Session.Tame
  Leads _ := Session.CellsKept
  Fits _ := Value.Tame

theorem tameness_lawful : tameness.Lawful where
  offset_of_node _ := trivial
  units_of_node _ h := h.elim
  allows_of_name h hb := Builtin.changesCells_eq_false h hb
  allows_of_call h hb := Builtin.changesCells_eq_false h hb
  leads_refl := Session.cellsKept_of_cells_eq rfl rfl
  leads_trans := Session.CellsKept.trans
  leads_of_none h := h
  fits_of_leads _ h := h
  fits_atomic := Value.tame_of_atomic
  measured_of_fits _ _ _ h := h.elim
  fits_builtin := Value.tame_builtin
  fits_closure := Value.tame_closure
  fits_applied := Value.tame_applied
  fits_item hs _ hv := hs.item hv
  fits_entry hs _ hv := hs.entry hv
  fits_lookup hs h := hs.lookup h
  newArray hs h :=
    ⟨⟨hs.newCell fun v hv => h v (Array.mem_toList_iff.1 hv),
      (Session.extends_newCell _ _).cellsKept⟩, Value.tame_of_not_callable rfl⟩
  newObject hs _ h :=
    ⟨⟨hs.newCell h, (Session.extends_newCell _ _).cellsKept⟩, Value.tame_of_not_callable rfl⟩
  newIdentity hs := ⟨⟨hs.cells, hs.bindings⟩, Session.cellsKept_of_cells_eq rfl rfl⟩
  withBinding _ hs hv :=
    ⟨hs.withBinding (fun _ k h => h.moved k) _ _ hv, Session.cellsKept_withBinding _ _ _ _⟩
  withItems h := by rcases h with h | h <;> cases h
  withoutLast h := by cases h
  withEntry h := by cases h
  entered := by
    intro s bindings parent hs _ h
    have hnew : (s.newScope { bindings, parent := some parent }).Tame := hs.newScope h
    exact ⟨hnew.cells, hnew.bindings⟩
  left _ _ ht h := ⟨⟨ht.cells, ht.bindings⟩, h.root_eq, h.size_le, h.cell_eq⟩
  fits_left h := h

/-! ## Expressions that change nothing -/

/-- The cells and the scopes of `s` are as they were. -/
structure Session.Undisturbed (s t : Session) : Prop extends Session.CellsKept s t where
  scopes_le : s.scopes.size ≤ t.scopes.size
  scope_eq : ∀ i < s.scopes.size, t.scopes[i]? = s.scopes[i]?

/-- An expression that assigns no name leaves all scopes as they were. -/
theorem framed_evalExpr (ctx : Context) (bound : Nat) (s : Session) (scope : Nat) {e : Expr}
    (he : ∀ name, ¬ e.Assigns name) :
    s.Framed none (sessionAfter (evalExpr ctx (callValue ctx bound) scope e) s) :=
  tracks_framed.evalExpr ctx bound s scope fun name hname => (he name hname).elim

/-- An expression that names no function that changes cells leaves all cells as
they were, if the functions of the session name none. -/
theorem cellsKept_evalExpr (ctx : Context) (bound : Nat) {s : Session} (hs : s.Tame) (scope : Nat)
    {e : Expr} (he : e.Every Expr.Tame) :
    s.CellsKept (sessionAfter (evalExpr ctx (callValue ctx bound) scope e) s) := by
  have hD := tameness_lawful
  have hctx : tameness.FitsContext ctx := fun _ _ _ _ h => h.elim
  exact (Discipline.keeps_evalExpr hD hctx (Discipline.calls_callValue hD hctx bound) scope hs e
    he).step.leads

/-- An expression that neither assigns names nor names a function that changes
cells leaves all as it was, if the functions of the session change no cells. -/
theorem undisturbed_evalExpr (ctx : Context) (bound : Nat) {s : Session} (hs : s.Tame)
    (scope : Nat) {e : Expr} (htame : e.Every Expr.Tame) (he : ∀ name, ¬ e.Assigns name) :
    s.Undisturbed (sessionAfter (evalExpr ctx (callValue ctx bound) scope e) s) where
  toCellsKept := cellsKept_evalExpr ctx bound hs scope htame
  scopes_le := (framed_evalExpr ctx bound s scope he).size_le
  scope_eq i hi := (framed_evalExpr ctx bound s scope he).scope_eq i hi (Option.some_ne_none i).symm

end Reckoner
