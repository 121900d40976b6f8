import Reckoner.Proofs.Discipline.Evaluate
import Reckoner.Proofs.Session.Ranks

/-!
# Bindings of the root stand apart

`Session.Separate r s` is what keeps the names of the root scope `r` apart.
There is a set of cells that belong to the root: each of them stands at most
once under a name of the root or in a cell of the set, and nothing else stands
there.  Other cells are temporary, and what stands in them is free; but no cell
contains itself.

A value comes under a name or into a cell only as a copy, so each change of a
session plants a tree and hangs it up in one place (`Separate.graft`).  That is
all that a discipline needs.

* `Separate.newCell`, `Separate.bind` and `Separate.setCell`: the changes.
* `separation_lawful`: evaluation keeps the bindings of the root apart.
-/

namespace Reckoner

namespace Session

variable {r : Nat} {s t u : Session} {ws : List Value}

/-- The arrays and objects under the names of a scope. -/
def scopeHandles (s : Session) (scope : Nat) : Multiset Nat :=
  Value.handles (s.bindings scope).values

/-- The cells of a set are those of the root: the arrays and objects under the
names of the root and in the cells of the set are all in it, each of them
once. -/
structure Owns (r : Nat) (s : Session) (owned : Finset Nat) : Prop where
  lt_size : ∀ c ∈ owned, c < s.cells.size
  sum_le : s.scopeHandles r + ∑ c ∈ owned, s.handles c ≤ owned.val

/-- The bindings of the root `r` stand apart. -/
structure Separate (r : Nat) (s : Session) : Prop where
  root_eq : s.root = r
  root_scope : ∃ bindings, s.scopes[r]? = some { bindings, parent := none }
  all_within : s.All (Value.Within s.cells.size)
  ranked : ∃ rank, s.Ranked rank
  owned : ∃ owned, Owns r s owned

theorem separate_empty : Separate 0 empty where
  root_eq := rfl
  root_scope := ⟨[], rfl⟩
  all_within := all_empty _
  ranked := ⟨fun _ => 0, fun c hc => by simp [empty] at hc, fun c d hd => by
    simp [handles_of_size_le (t := empty) (Nat.zero_le c)] at hd⟩
  owned := ⟨∅, by simp, by simp [scopeHandles, bindings, empty, Entries.values, Value.handles]⟩

namespace Separate

/-! ## Changes that leave cells and root alone -/

theorem congr (hs : Separate r s) (hcells : t.cells = s.cells) (hroot : t.root = s.root)
    (hscope : t.scopes[r]? = s.scopes[r]?)
    (hall : ∀ sc ∈ t.scopes, ∀ v ∈ sc.bindings.values, v.Within s.cells.size) : Separate r t where
  root_eq := hroot.trans hs.root_eq
  root_scope := hscope ▸ hs.root_scope
  all_within := by
    rw [hcells]
    exact ⟨hcells ▸ hs.all_within.cells, hall⟩
  ranked := by
    obtain ⟨rank, hrank⟩ := hs.ranked
    exact ⟨rank, hcells ▸ hrank.lt_size, handles_congr hcells ▸ hrank.lt_of_mem⟩
  owned := by
    obtain ⟨owned, howned⟩ := hs.owned
    have hnames : t.scopeHandles r = s.scopeHandles r := by
      rw [scopeHandles, bindings, hscope]
      rfl
    exact ⟨owned, hcells ▸ howned.lt_size, by
      rw [hnames, handles_congr hcells]
      exact howned.sum_le⟩

/-! ## A new cell -/

/-- A new cell is temporary, and its rank is above all others. -/
theorem newCell (hs : Separate r s) {cell : Cell}
    (hcell : ∀ v ∈ cell.values, v.Within s.cells.size) : Separate r (s.newCell cell) where
  root_eq := hs.root_eq
  root_scope := hs.root_scope
  all_within := by
    have hle : s.cells.size ≤ (s.newCell cell).cells.size := (extends_newCell s cell).size_le
    exact (hs.all_within.mono fun v hv => hv.mono hle).newCell fun v hv => (hcell v hv).mono hle
  ranked := by
    obtain ⟨rank, hrank⟩ := hs.ranked
    exact ranked_newCell hs.all_within hrank hcell
  owned := by
    obtain ⟨owned, howned⟩ := hs.owned
    refine ⟨owned, fun c hc => (howned.lt_size c hc).trans_le (extends_newCell s cell).size_le, ?_⟩
    have hsum : ∑ c ∈ owned, (s.newCell cell).handles c = ∑ c ∈ owned, s.handles c :=
      Finset.sum_congr rfl fun c hc =>
        (extends_newCell s cell).handles_eq (howned.lt_size c hc)
          (Option.some_ne_none c).symm
    rw [hsum]
    exact howned.sum_le

/-! ## Copies in their places -/

/-- Copies of values that come into one place each leave the root apart.  The
new cells belong to the root from then on, also where the place does not. -/
theorem graft (hs : Separate r s) (ht : Copied s ws t) (hsize : u.cells.size = t.cells.size)
    (hroot : u.root = s.root)
    (hscope : ∃ bindings, u.scopes[r]? = some { bindings, parent := none })
    (hall : u.All (Value.Within u.cells.size))
    (hnew : ∀ c, s.cells.size ≤ c → u.handles c = t.handles c)
    (hold : ∀ c < s.cells.size, u.handles c ≤ s.handles c + Value.handles ws)
    (hsum : ∀ owned : Finset Nat, (∀ c ∈ owned, c < s.cells.size) →
      u.scopeHandles r + ∑ c ∈ owned, u.handles c ≤
        s.scopeHandles r + ∑ c ∈ owned, s.handles c + Value.handles ws) : Separate r u where
  root_eq := hroot.trans hs.root_eq
  root_scope := hscope
  all_within := hall
  ranked := by
    obtain ⟨rank, hrank⟩ := hs.ranked
    exact ⟨_, ranked_graft hs.all_within hrank ht hsize hnew hold⟩
  owned := by
    obtain ⟨owned, howned⟩ := hs.owned
    let fresh := Finset.Ico s.cells.size t.cells.size
    have hdisjoint : Disjoint owned fresh := by
      rw [Finset.disjoint_left]
      intro c hc hfresh
      have := howned.lt_size c hc
      have := (Finset.mem_Ico.1 hfresh).1
      omega
    refine ⟨owned.disjUnion fresh hdisjoint, fun c hc => ?_, ?_⟩
    · have hle := ht.later.size_le
      rcases Finset.mem_disjUnion.1 hc with hc | hc
      · have := howned.lt_size c hc
        omega
      · have := (Finset.mem_Ico.1 hc).2
        omega
    · have hfresh : ∑ c ∈ fresh, u.handles c = ∑ c ∈ fresh, t.handles c :=
        Finset.sum_congr rfl fun c hc => hnew c (Finset.mem_Ico.1 hc).1
      calc u.scopeHandles r + ∑ c ∈ owned.disjUnion fresh hdisjoint, u.handles c
          = u.scopeHandles r + ∑ c ∈ owned, u.handles c + ∑ c ∈ fresh, t.handles c := by
            rw [Finset.sum_disjUnion, hfresh, add_assoc]
        _ ≤ s.scopeHandles r + ∑ c ∈ owned, s.handles c + Value.handles ws +
              ∑ c ∈ fresh, t.handles c := add_le_add_left (hsum owned howned.lt_size) _
        _ = s.scopeHandles r + ∑ c ∈ owned, s.handles c +
              (∑ c ∈ fresh, t.handles c + Value.handles ws) := by
            rw [add_assoc _ (Value.handles ws), add_comm (Value.handles ws)]
        _ = s.scopeHandles r + ∑ c ∈ owned, s.handles c + fresh.val := by
            rw [ht.planted.sum_add]
        _ ≤ owned.val + fresh.val := add_le_add_left howned.sum_le _
        _ = (owned.disjUnion fresh hdisjoint).val := rfl

/-- A copy under a name, of the root or of another scope. -/
theorem bind (hs : Separate r s) {w : Value} (ht : Copied s [w] t) (scope : Nat) (name : String) :
    Separate r (t.bind scope name w) := by
  obtain ⟨names, hnames⟩ := hs.root_scope
  have hhandles (c : Nat) : (t.bind scope name w).handles c = t.handles c := rfl
  have hbindings : (t.bind scope name w).scopes[r]? =
      some { bindings := if scope = r then names.insert name w else names, parent := none } := by
    simp only [Session.bind, Array.getElem?_modify, ht.later.scopes_eq, hnames]
    split <;> rfl
  have hle : (t.bind scope name w).scopeHandles r ≤ s.scopeHandles r + Value.handles [w] := by
    rw [scopeHandles, bindings, hbindings, scopeHandles, bindings, hnames]
    show Value.handles (Entries.values (if scope = r then names.insert name w else names)) ≤ _
    split
    · exact Value.handles_insert_le names name w
    · exact le_self_add
  refine hs.graft ht rfl ht.later.root_eq ⟨_, hbindings⟩
    (ht.all_within.bind (ht.within w List.mem_cons_self)) (fun c _ => hhandles c) ?_ ?_
  · intro c hc
    rw [hhandles, ht.later.handles_eq hc (Option.some_ne_none c).symm]
    exact le_self_add
  · intro owned howned
    have hsum : ∑ c ∈ owned, (t.bind scope name w).handles c = ∑ c ∈ owned, s.handles c :=
      Finset.sum_congr rfl fun c hc => ht.later.handles_eq (howned c hc)
        (Option.some_ne_none c).symm
    rw [hsum, add_right_comm]
    exact add_le_add_left hle _

theorem scopeHandles_eq_of_extends {changed : Option Nat} (ht : Extends changed s t) :
    t.scopeHandles r = s.scopeHandles r := by
  rw [scopeHandles, bindings, ht.scopes_eq]
  rfl

/-- Other content in a cell that was there before. -/
theorem setCell (hs : Separate r s) {c : Nat} {cell : Cell} (h : Refill s c ws t cell) :
    Separate r (t.setCell c cell) := by
  have hlater : Extends (some c) s (t.setCell c cell) := h.copied.later.setCell c cell
  have hscope : ∃ bindings, (t.setCell c cell).scopes[r]? = some { bindings, parent := none } := by
    rw [hlater.scopes_eq]
    exact hs.root_scope
  refine hs.graft h.copied h.size_eq hlater.root_eq hscope h.all_within (fun _ => h.handles_new)
    (fun _ => h.handles_old_le) fun owned howned => ?_
  rw [scopeHandles_eq_of_extends hlater, add_assoc]
  refine add_le_add_right ?_ _
  by_cases hmem : c ∈ owned
  · have hrest : ∑ d ∈ owned.erase c, (t.setCell c cell).handles d =
        ∑ d ∈ owned.erase c, s.handles d :=
      Finset.sum_congr rfl fun d hd =>
        h.handles_old (howned d (Finset.mem_of_mem_erase hd)) (Finset.ne_of_mem_erase hd)
    rw [← Finset.add_sum_erase owned _ hmem, ← Finset.add_sum_erase owned s.handles hmem,
      h.handles_self, hrest, add_right_comm]
    exact add_le_add_left h.handles_le _
  · have hsame : ∑ d ∈ owned, (t.setCell c cell).handles d = ∑ d ∈ owned, s.handles d :=
      Finset.sum_congr rfl fun d hd => h.handles_old (howned d hd) fun heq => hmem (heq ▸ hd)
    rw [hsame]
    exact le_self_add

/-! ## The changes of evaluation -/

theorem withBinding (hs : Separate r s) (scope : Nat) (name : String) {v : Value}
    (hv : v.Within s.cells.size) : Separate r (s.withBinding scope name v) := by
  obtain ⟨rank, hrank⟩ := hs.ranked
  exact hs.bind (copied_copy hs.all_within hrank hv) scope name

theorem withItems (hs : Separate r s) {c : Nat} (hc : c < s.cells.size) {more : List Value}
    (hmore : ∀ v ∈ more, v.Within s.cells.size) : Separate r (s.withItems c more) := by
  obtain ⟨rank, hrank⟩ := hs.ranked
  exact hs.setCell (refill_items hs.all_within hrank hc hmore)

theorem withoutLast (hs : Separate r s) {c : Nat} (hc : c < s.cells.size) :
    Separate r (s.withoutLast c) := by
  obtain ⟨rank, hrank⟩ := hs.ranked
  exact hs.setCell (refill_pop hs.all_within hrank hc)

theorem withEntry (hs : Separate r s) {c : Nat} (hc : c < s.cells.size) (key : String) {v : Value}
    (hv : v.Within s.cells.size) : Separate r (s.withEntry c key v) := by
  obtain ⟨rank, hrank⟩ := hs.ranked
  exact hs.setCell (refill_entry hs.all_within hrank hc key hv)

theorem unbind (hs : Separate r s) (name : String) : Separate r (s.unbind r name) := by
  obtain ⟨rank, hrank⟩ := hs.ranked
  obtain ⟨owned, howned⟩ := hs.owned
  obtain ⟨names, hnames⟩ := hs.root_scope
  have hbindings : (s.unbind r name).scopes[r]? =
      some { bindings := names.erase name, parent := none } := by
    simp [Session.unbind, Array.getElem?_modify, hnames]
  have hle : (s.unbind r name).scopeHandles r ≤ s.scopeHandles r := by
    rw [scopeHandles, bindings, hbindings, scopeHandles, bindings, hnames]
    exact Value.handles_erase_le names name
  exact {
    root_eq := hs.root_eq
    root_scope := ⟨_, hbindings⟩
    all_within := hs.all_within.unbind
    ranked := ⟨rank, hrank.lt_size, hrank.lt_of_mem⟩
    owned := ⟨owned, howned.lt_size, (add_le_add_left hle _).trans howned.sum_le⟩ }

/-- A call adds a scope, which is not the root. -/
theorem entered (hs : Separate r s) {sc : Scope}
    (hsc : ∀ v ∈ sc.bindings.values, v.Within s.cells.size) : Separate r (s.entered sc) := by
  obtain ⟨names, hnames⟩ := hs.root_scope
  have hlt : r < s.scopes.size := (Array.getElem?_eq_some_iff.1 hnames).1
  refine hs.congr rfl rfl ?_ (hs.all_within.newScope hsc).bindings
  simp [Session.entered, Session.newScope, Array.getElem?_push, Nat.ne_of_lt hlt]

end Separate

end Session

/-! ## The discipline -/

/-- The bindings of the root `r` stand apart. -/
def separation (r : Nat) : Discipline where
  units := False
  known := False
  units_of_known := id
  FitsOffset _ := True
  FitsNode _ := True
  Allows _ := True
  Holds := Session.Separate r
  Leads _ s t := s.cells.size ≤ t.cells.size
  Fits s v := v.Within s.cells.size

theorem separation_lawful (r : Nat) : (separation r).Lawful where
  offset_of_node _ := trivial
  units_of_node _ h := h.elim
  allows_of_name _ _ := trivial
  allows_of_call _ _ := trivial
  leads_refl := le_rfl
  leads_trans := le_trans
  leads_of_none := id
  fits_of_leads h hv := hv.mono h
  fits_atomic := by
    intro s v hv
    cases v with
    | array c | object c | closure i f | builtin i b | applied i f bound => exact hv.elim
    | _ => exact Value.within_of_not_applied (by simp) (fun _ h => by cases h)
  measured_of_fits _ _ _ h := h.elim
  fits_builtin := ⟨fun _ => trivial, fun _ => Value.within_of_not_applied (by simp) nofun⟩
  fits_closure :=
    ⟨fun _ => Expr.every_of_forall (fun _ => trivial) _,
      fun _ => Value.within_of_not_applied (by simp) nofun⟩
  fits_applied := Value.within_applied
  fits_item hs _ hv := hs.all_within.item hv
  fits_entry hs _ hv := hs.all_within.entry hv
  fits_lookup hs h := hs.all_within.lookup h
  newArray hs h :=
    ⟨⟨hs.newCell fun v hv => h v (Array.mem_toList_iff.1 hv),
        (Session.extends_newCell _ _).size_le⟩,
      Value.within_array.2 (by simp [Session.newCell])⟩
  newObject hs _ h :=
    ⟨⟨hs.newCell h, (Session.extends_newCell _ _).size_le⟩,
      Value.within_object.2 (by simp [Session.newCell])⟩
  newIdentity hs := ⟨hs.congr rfl rfl rfl hs.all_within.bindings, le_rfl⟩
  withBinding := by
    intro s scope name v e compound offset _ hs hv
    obtain ⟨rank, hrank⟩ := hs.ranked
    exact ⟨hs.withBinding scope name hv, (Session.copied_copy hs.all_within hrank hv).later.size_le⟩
  withItems := by
    intro s c more _ hs hc hmore
    obtain ⟨rank, hrank⟩ := hs.ranked
    have hlater := (Session.copied_copyList hs.all_within hrank hmore).later
    exact ⟨hs.withItems (Value.within_array.1 hc) hmore, (hlater.setCell c _).size_le⟩
  withoutLast := by
    intro s c _ hs hc
    exact ⟨hs.withoutLast (Value.within_array.1 hc), ((Session.extends_refl s).setCell c _).size_le⟩
  withEntry := by
    intro s c key v _ hs hc hv
    obtain ⟨rank, hrank⟩ := hs.ranked
    have hlater := (Session.copied_copy hs.all_within hrank hv).later
    exact ⟨hs.withEntry (Value.within_object.1 hc) key hv, (hlater.setCell c _).size_le⟩
  entered hs _ h := hs.entered h
  left _ _ ht hle := ⟨ht.congr rfl rfl rfl ht.all_within.bindings, hle⟩
  fits_left h := h

end Reckoner
