import Reckoner.Proofs.Renaming.Mirror
import Reckoner.Proofs.Session.Isolation
import Reckoner.Proofs.Session.Tame

/-!
# Sessions without what nobody can reach

A session keeps all cells and scopes that evaluation has ever made.  What counts
of it is the root, the values under its names and the cells that are reached from
them.

* `Session.Live`: the values that can be reached, and `Session.CallableFree`: no
  function is among them.
* `Session.packed` has the root and the cells of a list alone, under the numbers
  that they have in the list.
* `Session.Covers` says of a list that it has all the cells that can be reached, and
  `exists_covers` that there is such a list.  Then the session is the packed one
  with other numbers, next to all the rest (`embeds_packed`); so is every later session
  in which nothing of it has changed.
-/

namespace Reckoner

open Renamable

/-! ## What can be reached -/

namespace Session

/-- The values that can be reached from the names of the root. -/
inductive Live (s : Session) : Value → Prop where
  | binding {v : Value} (hv : v ∈ (s.bindings s.root).values) : Live s v
  | content {v w : Value} {c : Nat} (h : Live s v) (hc : v.cell? = some c)
    (hw : w ∈ s.cellValues c) : Live s w

/-- No function can be reached from the names of the root. -/
def CallableFree (s : Session) : Prop := ∀ v, s.Live v → v.isCallable = false

end Session

/-- A value that is no function, of which the cell, if it has one, is in a list. -/
structure Value.Data (live : List Nat) (v : Value) : Prop where
  not_callable : v.isCallable = false
  mem : ∀ c, v.cell? = some c → c ∈ live

namespace Session

variable {s t : Session} {live : List Nat}

/-- All values that can be reached have their cells in the list, and there is no function
among them. -/
structure Covers (s : Session) (live : List Nat) : Prop where
  nodup : live.Nodup
  lt_size : ∀ c ∈ live, c < s.cells.size
  binding : ∀ v ∈ (s.bindings s.root).values, v.Data live
  content : ∀ c ∈ live, ∀ v ∈ s.cellValues c, v.Data live

theorem Live.prop {P : Value → Prop} (hs : s.All P) {v : Value} (hv : s.Live v) : P v := by
  cases hv with
  | binding hv => exact hs.bound hv
  | content _ _ hw => exact hs.cellValue hw

theorem exists_covers (hs : s.All (Value.Within s.cells.size)) (hfree : s.CallableFree) :
    ∃ live, s.Covers live := by
  classical
  let live := (List.range s.cells.size).filter fun c => ∃ v, s.Live v ∧ v.cell? = some c
  have hmem {c : Nat} : c ∈ live ↔ c < s.cells.size ∧ ∃ v, s.Live v ∧ v.cell? = some c := by
    simp [live]
  have hdata {v : Value} (hv : s.Live v) : v.Data live :=
    ⟨hfree v hv, fun c hc => hmem.2 ⟨(hv.prop hs).cell_lt hc, v, hv, hc⟩⟩
  refine ⟨live, List.nodup_range.filter _, fun c hc => (hmem.1 hc).1,
    fun v hv => hdata (.binding hv), fun c hc w hw => ?_⟩
  obtain ⟨-, v, hv, hvc⟩ := hmem.1 hc
  exact hdata (.content hv hvc hw)

theorem Covers.length_le (h : s.Covers live) : live.length ≤ s.cells.size := by
  have hsub : live ⊆ List.range s.cells.size := fun c hc => List.mem_range.2 (h.lt_size c hc)
  simpa using (h.nodup.subperm hsub).length_le

end Session

/-! ## The two renamings -/

namespace Renaming

/-- The place of a cell in a list. -/
def packing (live : List Nat) : Renaming where
  cell := live.idxOf
  scope := id
  identity := id

/-- The cells of a list, and the root, under the numbers that they have in a session; what
comes next gets the next numbers of the session. -/
def unpacking (live : List Nat) (t : Session) : Renaming where
  cell c := live[c]?.getD (t.cells.size + (c - live.length))
  scope i := if i = 0 then t.root else t.scopes.size + (i - 1)
  identity i := t.identity + i

variable {live : List Nat} {t : Session} {c : Nat}

theorem unpacking_cell_of_lt (h : c < live.length) : (unpacking live t).cell c = live[c] := by
  simp [unpacking, h]

theorem unpacking_cell_of_le (h : live.length ≤ c) :
    (unpacking live t).cell c = t.cells.size + (c - live.length) := by
  simp [unpacking, List.getElem?_eq_none h]

theorem unpacking_packing (h : c ∈ live) :
    (unpacking live t).cell ((packing live).cell c) = c := by
  have hlt : live.idxOf c < live.length := List.idxOf_lt_length_of_mem h
  show (unpacking live t).cell (live.idxOf c) = c
  rw [unpacking_cell_of_lt hlt, List.getElem_idxOf hlt]

theorem injective_unpacking (hnodup : live.Nodup) (hlive : ∀ c ∈ live, c < t.cells.size)
    (hroot : t.root < t.scopes.size) : (unpacking live t).Injective where
  cell c d h := by
    rcases Nat.lt_or_ge c live.length with hc | hc <;>
      rcases Nat.lt_or_ge d live.length with hd | hd
    · rw [unpacking_cell_of_lt hc, unpacking_cell_of_lt hd] at h
      exact hnodup.getElem_inj_iff.1 h
    · rw [unpacking_cell_of_lt hc, unpacking_cell_of_le hd] at h
      have := hlive _ (List.getElem_mem hc)
      omega
    · rw [unpacking_cell_of_le hc, unpacking_cell_of_lt hd] at h
      have := hlive _ (List.getElem_mem hd)
      omega
    · rw [unpacking_cell_of_le hc, unpacking_cell_of_le hd] at h
      omega
  scope i j h := by
    simp only [unpacking] at h
    split at h <;> split at h <;> omega
  identity i j h := Nat.add_left_cancel h

end Renaming

namespace Value

variable {live : List Nat} {v : Value}

/-- A renaming that leaves the cell of a value as it is leaves the value as it is. -/
theorem renamed_eq_self {ρ : Renaming} (hv : v.isCallable = false)
    (h : ∀ c, v.cell? = some c → ρ.cell c = c) : v.renamed ρ = v := by
  cases v with
  | array c | object c => simp only [renamed, h c rfl]
  | closure i f | builtin i b | applied i callee bound => cases hv
  | _ => rfl

theorem Data.unpacked (hv : v.Data live) (t : Session) :
    (v.renamed (.packing live)).renamed (.unpacking live t) = v := by
  rw [renamed_renamed]
  exact renamed_eq_self hv.not_callable fun c hc => Renaming.unpacking_packing (hv.mem c hc)

theorem Data.packed (hv : v.Data live) :
    (v.renamed (.packing live)).Data (List.range live.length) where
  not_callable := (isCallable_renamed _ v).trans hv.not_callable
  mem c hc := by
    rw [cell?_renamed] at hc
    obtain ⟨d, hd, rfl⟩ := Option.map_eq_some_iff.1 hc
    exact List.mem_range.2 (List.idxOf_lt_length_of_mem (hv.mem d hd))

theorem Data.sound {n : Nat} (hv : v.Data (List.range n)) : v.Sound n :=
  sound_of_not_applied (fun i f bound h => by simpa [h, isCallable] using hv.not_callable)
    fun c hc => List.mem_range.1 (hv.mem c hc)

end Value

theorem Entries.unpacked {live : List Nat} {entries : Entries Value}
    (h : ∀ v ∈ entries.values, v.Data live) (t : Session) :
    rename (.unpacking live t) (rename (.packing live) entries) = entries := by
  show List.map _ (List.map _ entries) = entries
  rw [List.map_map]
  refine (List.map_congr_left fun e he => ?_).trans (List.map_id _)
  exact congrArg (Prod.mk e.1) ((h e.2 (List.mem_map_of_mem he)).unpacked t)

theorem Cell.unpacked {live : List Nat} {cell : Cell} (h : ∀ v ∈ cell.values, v.Data live)
    (t : Session) : (cell.renamed (.packing live)).renamed (.unpacking live t) = cell := by
  cases cell with
  | array items =>
    refine congrArg Cell.array (Array.toList_inj.1 ?_)
    simp only [rename, Array.toList_map, List.map_map]
    exact (List.map_congr_left fun v hv => (h v hv).unpacked t).trans (List.map_id _)
  | object entries => exact congrArg Cell.object (Entries.unpacked h t)

theorem Cell.values_renamed (ρ : Renaming) (cell : Cell) :
    (cell.renamed ρ).values = cell.values.map (Value.renamed ρ) := by
  cases cell with
  | array items => exact Array.toList_map
  | object entries => exact Entries.values_rename entries

/-! ## Packed sessions -/

namespace Session

/-- The root and some cells of a session, and nothing else. -/
def packed (s : Session) (live : List Nat) : Session where
  cells := (live.map fun c => (s.cells[c]?.getD default).renamed (.packing live)).toArray
  scopes := #[{ bindings := rename (Renaming.packing live) (s.bindings s.root), parent := none }]
  root := 0
  identity := 0
  depth := s.depth

variable {s t : Session} {live : List Nat}

theorem packed_cells_size (s : Session) (live : List Nat) :
    (s.packed live).cells.size = live.length := by
  simp [packed]

theorem packed_cell (s : Session) {c : Nat} (hc : c < live.length) :
    (s.packed live).cells[c]? = some ((s.cells[live[c]]?.getD default).renamed (.packing live)) := by
  simp [packed, hc]

theorem cellValues_packed (h : s.Covers live) {c : Nat} (hc : c < live.length) :
    (s.packed live).cellValues c =
      (s.cellValues live[c]).map (Value.renamed (.packing live)) := by
  have hlt := h.lt_size _ (List.getElem_mem hc)
  rw [cellValues, packed_cell s hc, cellValues, Array.getElem?_eq_getElem hlt]
  exact Cell.values_renamed _ _

theorem all_packed (h : s.Covers live) :
    (s.packed live).All (Value.Data (List.range live.length)) where
  cells cell hcell v hv := by
    obtain ⟨c, hc, rfl⟩ := List.mem_map.1 (List.mem_toArray.1 hcell)
    rw [Cell.values_renamed] at hv
    obtain ⟨w, hw, rfl⟩ := List.mem_map.1 hv
    rw [Array.getElem?_eq_getElem (h.lt_size c hc)] at hw
    refine (h.content c hc w ?_).packed
    rw [cellValues, Array.getElem?_eq_getElem (h.lt_size c hc)]
    exact hw
  bindings sc hsc v hv := by
    obtain rfl := Array.mem_singleton.1 hsc
    rw [Entries.values_rename] at hv
    obtain ⟨w, hw, rfl⟩ := List.mem_map.1 hv
    exact (h.binding w hw).packed

theorem acyclic_packed (h : s.Covers live) {rank : Nat → Nat} (hrank : s.Ranked rank) :
    (s.packed live).Acyclic := by
  suffices h : ∀ c, ∀ d ∈ (s.packed live).handles c,
      rank (live[d]?.getD 0) < rank (live[c]?.getD 0) from
    @acyclic_of_lt _ (fun c => rank (live[c]?.getD 0)) h
  intro c d hd
  obtain ⟨w, hw, hwd⟩ := Value.mem_handles.1 hd
  have hc : c < live.length := by
    by_contra hge
    have hnone : (s.packed live).cells[c]? = none :=
      Array.getElem?_eq_none (by rw [packed_cells_size]; exact Nat.not_lt.1 hge)
    rw [cellValues, hnone] at hw
    simp at hw
  rw [cellValues_packed h hc] at hw
  obtain ⟨v, hv, rfl⟩ := List.mem_map.1 hw
  rw [Value.cell?_renamed] at hwd
  obtain ⟨e, he, rfl⟩ := Option.map_eq_some_iff.1 hwd
  have hmem := (h.content _ (List.getElem_mem hc) v hv).mem e he
  have hlt : live.idxOf e < live.length := List.idxOf_lt_length_of_mem hmem
  have hidx : live[live.idxOf e]?.getD 0 = e := by simp [hlt, List.getElem_idxOf hlt]
  show rank (live[live.idxOf e]?.getD 0) < _
  rw [hidx, List.getElem?_eq_getElem hc]
  exact hrank.lt_of_mem _ _ (Value.mem_handles.2 ⟨v, hv, he⟩)

theorem tidy_packed (h : s.Covers live) {rank : Nat → Nat} (hrank : s.Ranked rank) :
    (s.packed live).Tidy := by
  have hsound : (s.packed live).All (Value.Sound (s.packed live).cells.size) := by
    rw [packed_cells_size]
    exact (all_packed h).mono fun v hv => hv.sound
  have hwithin := hsound.mono fun v hv => hv.within
  exact ⟨hwithin, hsound.mono fun v hv => hv.proper,
    (acyclic_packed h hrank).exists_ranked hwithin⟩

theorem tame_packed (h : s.Covers live) : (s.packed live).Tame :=
  (all_packed h).mono fun _ hv => Value.tame_of_not_callable hv.not_callable

/-- A later session in which nothing has changed is the packed one with other numbers, next
to all the rest. -/
theorem embeds_packed (h : s.Covers live) {names : Entries Value}
    (hroot : s.scopes[s.root]? = some { bindings := names, parent := none })
    (ht : s.Undisturbed t) (hdepth : t.depth = s.depth) :
    Embeds (.unpacking live t) t (s.packed live) t := by
  have hroot_lt : s.root < s.scopes.size := (Array.getElem?_eq_some_iff.1 hroot).1
  have hroot_lt' : t.root < t.scopes.size := by
    rw [ht.root_eq]
    exact hroot_lt.trans_le ht.scopes_le
  exact {
    injective := Renaming.injective_unpacking h.nodup
      (fun c hc => (h.lt_size c hc).trans_le ht.size_le) hroot_lt'
    root_eq := rfl
    depth_eq := hdepth
    cell_eq := fun c => by
      rcases Nat.lt_or_ge c live.length with hc | hc
      · have hmem := List.getElem_mem hc
        have hcell := Array.getElem?_eq_getElem (h.lt_size _ hmem)
        rw [Renaming.unpacking_cell_of_lt hc, packed_cell s hc, ht.cell_eq _ (h.lt_size _ hmem),
          hcell]
        refine congrArg some (Cell.unpacked (fun v hv => h.content _ hmem v ?_) t).symm
        rw [cellValues, hcell]
        exact hv
      · rw [Renaming.unpacking_cell_of_le hc, Array.getElem?_eq_none (Nat.le_add_right _ _),
          Array.getElem?_eq_none (by rwa [packed_cells_size])]
        rfl
    scope_eq := fun i => by
      cases i with
      | zero =>
        have hnames : s.bindings s.root = names := by rw [bindings, hroot]
        have hunpacked : rename (.unpacking live t) (rename (.packing live) names) = names :=
          Entries.unpacked (fun v hv => h.binding v (hnames ▸ hv)) t
        have hscope : (s.packed live).scopes[0]? =
            some { bindings := rename (.packing live) names, parent := none } := by
          rw [← hnames]
          rfl
        rw [hscope]
        show t.scopes[t.root]? = _
        rw [ht.root_eq, ht.scope_eq _ hroot_lt, hroot]
        exact congrArg some (congrArg (Scope.mk · none) hunpacked.symm)
      | succ i =>
        show t.scopes[t.scopes.size + i]? = none
        exact Array.getElem?_eq_none (Nat.le_add_right _ _)
    next_cell := fun k => by
      rw [packed_cells_size, Renaming.unpacking_cell_of_le (Nat.le_add_right _ _),
        Nat.add_sub_cancel_left]
    next_scope := fun k => by
      show (if 1 + k = 0 then _ else t.scopes.size + (1 + k - 1)) = _
      rw [if_neg (by omega), Nat.add_sub_cancel_left]
    next_identity := fun k => congrArg (t.identity + ·) (Nat.zero_add k)
    cells_le := by
      rw [packed_cells_size]
      exact h.length_le.trans ht.size_le
    scopes_le := Nat.one_le_of_lt hroot_lt'
    cell_kept := fun _ _ => rfl
    scope_kept := fun _ _ => rfl }

end Session

end Reckoner
