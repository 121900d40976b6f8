import Mathlib.Data.Finset.Card
import Mathlib.Data.Multiset.OrderedMonoid
import Mathlib.Logic.Relation
import Reckoner.Proofs.Session.Values

/-!
# Cells that point to cells

The arrays and objects of a session as a graph.  Functions are leaves of it,
also those with given arguments.

* `Session.Slot` and `Session.Contains`: which cell stands where in which cell.
* `Session.handles`: all the cells that stand in a cell, as often as they do.
* `Session.Acyclic` and `Session.Ranked`: no cell contains itself; the cells
  can be ranked, with less than as many ranks as there are cells.
* `Session.Extends`: a later session with new cells and the old ones as they
  were, except for one.
-/

namespace Reckoner

/-! ## Handles -/

namespace Value

/-- Every array and object in a value has one of the first `size` cells. -/
def Within (size : Nat) (v : Value) : Prop := ∀ w c, In w v → w.cell? = some c → c < size

variable {size size' : Nat} {v : Value} {c : Nat}

theorem Within.mono (h : v.Within size) (hsize : size ≤ size') : v.Within size' :=
  fun w c hw hc => Nat.lt_of_lt_of_le (h w c hw hc) hsize

theorem Within.cell_lt (h : v.Within size) (hc : v.cell? = some c) : c < size := h v c .here hc

theorem within_of_not_applied (hv : ∀ i f bound, v ≠ applied i f bound)
    (h : ∀ c, v.cell? = some c → c < size) : v.Within size := by
  intro w c hw hc
  cases hw.eq_of_not_applied hv
  exact h c hc

theorem within_array : (array c).Within size ↔ c < size :=
  ⟨fun h => h.cell_lt rfl, fun h => within_of_not_applied (by simp) (by rintro _ ⟨⟩; exact h)⟩

theorem within_object : (object c).Within size ↔ c < size :=
  ⟨fun h => h.cell_lt rfl, fun h => within_of_not_applied (by simp) (by rintro _ ⟨⟩; exact h)⟩

theorem within_applied {i : Nat} {f : Value} {bound : List Value} :
    (applied i f bound).Within size ↔ f.Within size ∧ ∀ v ∈ bound, v.Within size := by
  constructor
  · exact fun h => ⟨fun w c hw => h w c (.callee hw), fun v hv w c hw => h w c (.bound hv hw)⟩
  · rintro ⟨hf, hbound⟩ w c hw hc
    cases hw with
    | here => cases hc
    | callee hw => exact hf w c hw hc
    | bound hv hw => exact hbound _ hv w c hw hc

theorem cell?_moved (hc : v.cell? = some c) (k : Nat) : (v.moved k).cell? = some k := by
  cases v with
  | array _ | object _ => rfl
  | _ => cases hc

/-- The cells of the arrays and objects among values. -/
def handles (vs : List Value) : Multiset Nat := (vs.filterMap cell? : List Nat)

theorem mem_handles {vs : List Value} : c ∈ handles vs ↔ ∃ v ∈ vs, v.cell? = some c := by
  simp [handles]

theorem handles_append (vs ws : List Value) : handles (vs ++ ws) = handles vs + handles ws := by
  simp [handles]

theorem handles_singleton_of_none (hv : v.cell? = none) : handles [v] = 0 := by
  simp [handles, hv]

theorem handles_singleton_of_some (hv : v.cell? = some c) : handles [v] = {c} := by
  simp [handles, hv]

theorem handles_le_of_sublist {vs ws : List Value} (h : vs.Sublist ws) :
    handles vs ≤ handles ws :=
  (h.filterMap _).subperm

theorem handles_cons (v : Value) (vs : List Value) : handles (v :: vs) = handles [v] + handles vs :=
  handles_append [v] vs

theorem handles_replace_le (entries : Entries Value) (key : String) (v : Value) :
    handles (entries.replace key v).values ≤ handles entries.values + handles [v] := by
  induction entries with
  | nil => exact Multiset.zero_le _
  | cons entry rest ih =>
    rcases entry with ⟨k, u⟩
    show handles (Entries.replace key v ((k, u) :: rest)).values ≤
      handles (u :: Entries.values rest) + handles [v]
    rw [handles_cons u, Entries.replace]
    split
    · show handles (v :: Entries.values rest) ≤ _
      rw [handles_cons v, add_comm, add_assoc]
      exact le_add_self
    · show handles (u :: (Entries.replace key v rest).values) ≤ _
      rw [handles_cons u, add_assoc]
      exact add_le_add_right ih _

/-- An entry brings in at most its own handle. -/
theorem handles_insert_le (entries : Entries Value) (key : String) (v : Value) :
    handles (entries.insert key v).values ≤ handles entries.values + handles [v] := by
  unfold Entries.insert
  split
  · exact handles_replace_le entries key v
  · simp only [Entries.values, List.map_append, handles_append]
    exact le_rfl

theorem handles_erase_le (entries : Entries Value) (key : String) :
    handles (entries.erase key).values ≤ handles entries.values :=
  handles_le_of_sublist (List.filter_sublist.map _)

end Value

/-! ## The graph of a session -/

namespace Session

variable {s t : Session}

/-- The values in a cell. -/
def cellValues (s : Session) (c : Nat) : List Value := (s.cells[c]?.map Cell.values).getD []

/-- In cell `c`, the value with index `i` is the array or object with cell `d`. -/
def Slot (s : Session) (c i d : Nat) : Prop :=
  ∃ v, (s.cellValues c)[i]? = some v ∧ v.cell? = some d

/-- In cell `c` stands the array or object with cell `d`. -/
def Contains (s : Session) (c d : Nat) : Prop := ∃ i, s.Slot c i d

/-- No array or object contains itself, nor something that contains it. -/
def Acyclic (s : Session) : Prop := ∀ c, ¬ Relation.TransGen s.Contains c c

/-- The arrays and objects that stand in a cell. -/
def handles (s : Session) (c : Nat) : Multiset Nat := Value.handles (s.cellValues c)

theorem mem_handles {c d : Nat} : d ∈ s.handles c ↔ s.Contains c d := by
  rw [handles, Value.mem_handles]
  constructor
  · rintro ⟨v, hv, hd⟩
    obtain ⟨i, hi⟩ := List.getElem?_of_mem hv
    exact ⟨i, v, hi, hd⟩
  · rintro ⟨i, v, hi, hd⟩
    exact ⟨v, List.mem_of_getElem? hi, hd⟩

theorem mem_cellValues_of_mem_contents {v w : Value} {c : Nat} (hc : v.cell? = some c)
    (hw : w ∈ s.contents v) : w ∈ s.cellValues c := by
  unfold cellValues
  cases v with
  | array _ =>
    cases hc
    simp only [contents, items, Array.mem_toList_iff] at hw
    split at hw
    · rename_i vs hcell
      rw [hcell]
      exact Array.mem_toList_iff.2 hw
    · simp at hw
  | object _ =>
    cases hc
    simp only [contents, entries] at hw
    split at hw
    · rename_i es hcell
      rw [hcell]
      exact hw
    · simp [Entries.values] at hw
  | _ => cases hc

theorem All.cellValue {P : Value → Prop} (hs : s.All P) {c : Nat} {v : Value}
    (hv : v ∈ s.cellValues c) : P v := by
  unfold cellValues at hv
  cases hcell : s.cells[c]? with
  | none => simp [hcell] at hv
  | some cell =>
    rw [hcell] at hv
    exact hs.cells cell (Array.mem_of_getElem? hcell) v hv

/-- A handle in a cell is the handle of a cell. -/
theorem lt_size_of_mem_handles (hs : s.All (Value.Within s.cells.size)) {c d : Nat}
    (hd : d ∈ s.handles c) : d < s.cells.size := by
  obtain ⟨v, hv, hvd⟩ := Value.mem_handles.1 hd
  exact (hs.cellValue hv).cell_lt hvd

theorem lt_size_of_contains {c d : Nat} (h : s.Contains c d) : c < s.cells.size := by
  obtain ⟨i, v, hv, -⟩ := h
  unfold cellValues at hv
  cases hcell : s.cells[c]? with
  | none => simp [hcell] at hv
  | some cell => exact (Array.getElem?_eq_some_iff.1 hcell).1

/-! ## Ranks -/

/-- What stands in a cell has a lower rank, and there are not more ranks than
cells. -/
structure Ranked (s : Session) (rank : Nat → Nat) : Prop where
  lt_size : ∀ c < s.cells.size, rank c < s.cells.size
  lt_of_mem : ∀ c, ∀ d ∈ s.handles c, rank d < rank c

/-- A value in a cell ranks below the cell. -/
theorem rank_lt_of_content {rank : Nat → Nat} (hrank : s.Ranked rank) {v w : Value} {c d : Nat}
    (hc : v.cell? = some c) (hw : w ∈ s.contents v) (hd : w.cell? = some d) : rank d < rank c :=
  hrank.lt_of_mem c d (Value.mem_handles.2 ⟨w, mem_cellValues_of_mem_contents hc hw, hd⟩)

theorem acyclic_of_lt {rank : Nat → Nat} (h : ∀ c, ∀ d ∈ s.handles c, rank d < rank c) :
    s.Acyclic := by
  intro c hc
  have hlt : ∀ d, Relation.TransGen s.Contains c d → rank d < rank c := by
    intro d hd
    induction hd with
    | single hcd => exact h _ _ (mem_handles.2 hcd)
    | tail _ hde ih => exact (h _ _ (mem_handles.2 hde)).trans ih
  exact Nat.lt_irrefl _ (hlt c hc)

theorem Ranked.acyclic {rank : Nat → Nat} (h : s.Ranked rank) : s.Acyclic :=
  acyclic_of_lt h.lt_of_mem

/-- Without cycles, the number of cells that stand in a cell at any depth is a
rank. -/
theorem Acyclic.exists_ranked (hs : s.All (Value.Within s.cells.size)) (h : s.Acyclic) :
    ∃ rank, s.Ranked rank := by
  classical
  let below (c : Nat) : Finset Nat :=
    (Finset.range s.cells.size).filter (Relation.TransGen s.Contains c)
  have hmem {c d : Nat} : d ∈ below c ↔ d < s.cells.size ∧ Relation.TransGen s.Contains c d := by
    simp [below]
  refine ⟨fun c => (below c).card, fun c hc => ?_, fun c d hd => ?_⟩
  · have hself : c ∉ below c := fun hcc => h c (hmem.1 hcc).2
    have hsub : below c ⊂ Finset.range s.cells.size :=
      Finset.ssubset_iff_subset_ne.2 ⟨Finset.filter_subset _ _, fun heq =>
        hself (heq ▸ Finset.mem_range.2 hc)⟩
    simpa using Finset.card_lt_card hsub
  · have hcd := mem_handles.1 hd
    refine Finset.card_lt_card (Finset.ssubset_iff_subset_ne.2 ⟨fun e he => ?_, fun heq => ?_⟩)
    · obtain ⟨hlt, hde⟩ := hmem.1 he
      exact hmem.2 ⟨hlt, .head hcd hde⟩
    · have hdc : d ∈ below c := hmem.2 ⟨lt_size_of_mem_handles hs hd, .single hcd⟩
      exact h d (hmem.1 (heq ▸ hdc)).2

/-! ## Later sessions -/

/-- A later session with the same scopes and further cells, in which the old
cells are as they were, except perhaps for the given one. -/
structure Extends (changed : Option Nat) (s t : Session) : Prop where
  size_le : s.cells.size ≤ t.cells.size
  cell_eq : ∀ c < s.cells.size, changed ≠ some c → t.cells[c]? = s.cells[c]?
  scopes_eq : t.scopes = s.scopes
  root_eq : t.root = s.root

variable {changed : Option Nat}

theorem extends_refl (s : Session) : Extends none s s := ⟨le_rfl, fun _ _ _ => rfl, rfl, rfl⟩

theorem Extends.trans {u : Session} (hst : Extends changed s t) (htu : Extends changed t u) :
    Extends changed s u where
  size_le := hst.size_le.trans htu.size_le
  cell_eq c hc hne := (htu.cell_eq c (hc.trans_le hst.size_le) hne).trans (hst.cell_eq c hc hne)
  scopes_eq := htu.scopes_eq.trans hst.scopes_eq
  root_eq := htu.root_eq.trans hst.root_eq

theorem extends_newCell (s : Session) (cell : Cell) : Extends none s (s.newCell cell) where
  size_le := by simp [newCell]
  cell_eq c hc _ := by simp [newCell, Array.getElem?_push, Nat.ne_of_lt hc]
  scopes_eq := rfl
  root_eq := rfl

theorem Extends.setCell (h : Extends none s t) (c : Nat) (cell : Cell) :
    Extends (some c) s (t.setCell c cell) where
  size_le := by simpa [Session.setCell] using h.size_le
  cell_eq d hd hne := by
    rw [← h.cell_eq d hd (by simp)]
    simp only [Session.setCell]
    exact Array.getElem?_setIfInBounds_ne (fun heq => hne (congrArg some heq))
  scopes_eq := h.scopes_eq
  root_eq := h.root_eq

theorem Extends.cellValues_eq (h : Extends changed s t) {c : Nat} (hc : c < s.cells.size)
    (hne : changed ≠ some c) : t.cellValues c = s.cellValues c := by
  rw [cellValues, h.cell_eq c hc hne, cellValues]

theorem Extends.handles_eq (h : Extends changed s t) {c : Nat} (hc : c < s.cells.size)
    (hne : changed ≠ some c) : t.handles c = s.handles c := by
  rw [handles, h.cellValues_eq hc hne, handles]

/-- Only cells matter for what stands in them. -/
theorem handles_congr (h : t.cells = s.cells) : t.handles = s.handles := by
  funext c
  rw [handles, cellValues, h]
  rfl

theorem cellValues_newCell_size (s : Session) (cell : Cell) :
    (s.newCell cell).cellValues s.cells.size = cell.values := by
  simp [cellValues, newCell]

theorem cellValues_setCell {c : Nat} (hc : c < s.cells.size) (cell : Cell) :
    (s.setCell c cell).cellValues c = cell.values := by
  simp [cellValues, setCell, hc]

end Session

end Reckoner
