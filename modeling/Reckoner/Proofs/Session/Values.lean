import Reckoner.Proofs.Discipline.Array
import Reckoner.Proofs.Session.Copy

/-!
# The values of a session

`Session.All P` says that every value in a cell or under a name has `P`.  The
changes of a session keep it where the values that they bring in have `P`;
copies bring in none but handles of new cells.  `Value.In` looks into a value
itself, into the arguments that a function was given in advance.
-/

namespace Reckoner

namespace Value

/-- `w` stands in a value: it is the value, or it stands in the function or in
one of the arguments of a function with given arguments. -/
inductive In (w : Value) : Value → Prop where
  | here : In w w
  | callee {i : Nat} {f : Value} {bound : List Value} (h : In w f) : In w (applied i f bound)
  | bound {i : Nat} {f v : Value} {bound : List Value} (hv : v ∈ bound) (h : In w v) :
    In w (applied i f bound)

/-- Only functions with given arguments have other values in them. -/
theorem In.eq_of_not_applied {w v : Value} (h : In w v)
    (hv : ∀ i f bound, v ≠ applied i f bound) : w = v := by
  cases h with
  | here => rfl
  | callee h => exact absurd rfl (hv _ _ _)
  | bound hv' h => exact absurd rfl (hv _ _ _)

end Value

namespace Session

variable {P : Value → Prop} {s : Session}

/-- Every value in a cell or under a name has `P`. -/
structure All (P : Value → Prop) (s : Session) : Prop where
  cells : ∀ c ∈ s.cells, ∀ v ∈ c.values, P v
  bindings : ∀ sc ∈ s.scopes, ∀ v ∈ sc.bindings.values, P v

/-- Whether all values of a session have a property can be looked up. -/
instance decidableAll (P : Value → Prop) [DecidablePred P] (s : Session) : Decidable (s.All P) :=
  decidable_of_iff ((∀ c ∈ s.cells, ∀ v ∈ c.values, P v) ∧
      ∀ sc ∈ s.scopes, ∀ v ∈ sc.bindings.values, P v)
    ⟨fun h => ⟨h.1, h.2⟩, fun h => ⟨h.cells, h.bindings⟩⟩

theorem all_empty (P : Value → Prop) : All P empty where
  cells := by simp [empty]
  bindings := by simp [empty, Entries.values]

theorem All.mono {Q : Value → Prop} (hs : All P s) (h : ∀ v, P v → Q v) : All Q s where
  cells c hc v hv := h v (hs.cells c hc v hv)
  bindings sc hsc v hv := h v (hs.bindings sc hsc v hv)

/-! ## Reading -/

theorem All.item (hs : All P s) {c : Nat} {v : Value} (hv : v ∈ s.items c) : P v := by
  unfold items at hv
  split at hv
  · rename_i vs hcell
    exact hs.cells _ (Array.mem_of_getElem? hcell) v (by simpa [Cell.values] using hv)
  · simp at hv

theorem All.entry (hs : All P s) {c : Nat} {v : Value} (hv : v ∈ (s.entries c).values) : P v := by
  unfold entries at hv
  split at hv
  · rename_i es hcell
    exact hs.cells _ (Array.mem_of_getElem? hcell) v hv
  · simp [Entries.values] at hv

theorem All.content (hs : All P s) {v w : Value} (hw : w ∈ s.contents v) : P w := by
  cases v with
  | array c => exact hs.item (by simpa [contents] using hw)
  | object c => exact hs.entry hw
  | _ => simp [contents] at hw

theorem All.bound (hs : All P s) {scope : Nat} {v : Value}
    (hv : v ∈ (s.bindings scope).values) : P v := by
  unfold Session.bindings at hv
  split at hv
  · rename_i sc hsc
    exact hs.bindings sc (Array.mem_of_getElem? hsc) v hv
  · simp [Entries.values] at hv

theorem All.lookup (hs : All P s) {scope : Nat} {name : String} {v : Value}
    (h : s.lookup scope name = some v) : P v := by
  unfold Session.lookup at h
  generalize s.scopes.size = steps at h
  induction steps generalizing scope with
  | zero => cases h
  | succ steps ih =>
    unfold lookupFrom at h
    split at h
    · cases h
    · rename_i sc hsc
      split at h
      · rename_i w hw
        cases h
        exact hs.bindings sc (Array.mem_of_getElem? hsc) _ (Entries.mem_values_of_find? hw)
      · split at h
        · exact ih h
        · cases h

/-! ## Changes -/

theorem All.newCell (hs : All P s) {c : Cell} (hc : ∀ v ∈ c.values, P v) :
    All P (s.newCell c) where
  cells d hd := by
    rcases Array.mem_push.1 hd with hd | rfl
    · exact hs.cells d hd
    · exact hc
  bindings := hs.bindings

theorem All.setCell (hs : All P s) {k : Nat} {c : Cell} (hc : ∀ v ∈ c.values, P v) :
    All P (s.setCell k c) where
  cells d hd := by
    rcases Array.mem_or_eq_of_mem_setIfInBounds hd with hd | rfl
    · exact hs.cells d hd
    · exact hc
  bindings := hs.bindings

theorem All.newScope (hs : All P s) {sc : Scope} (hsc : ∀ v ∈ sc.bindings.values, P v) :
    All P (s.newScope sc) where
  cells := hs.cells
  bindings d hd := by
    rcases Array.mem_push.1 hd with hd | rfl
    · exact hs.bindings d hd
    · exact hsc

theorem mem_modify {α : Type} {xs : Array α} {i : Nat} {f : α → α} {y : α}
    (h : y ∈ xs.modify i f) : y ∈ xs ∨ ∃ x ∈ xs, y = f x := by
  obtain ⟨k, hk, rfl⟩ := Array.mem_iff_getElem.1 h
  rw [Array.getElem_modify]
  split
  · exact .inr ⟨_, Array.getElem_mem _, rfl⟩
  · exact .inl (Array.getElem_mem _)

theorem All.bind (hs : All P s) {scope : Nat} {name : String} {v : Value} (hv : P v) :
    All P (s.bind scope name v) where
  cells := hs.cells
  bindings d hd := by
    simp only [Session.bind] at hd
    rcases mem_modify hd with hd | ⟨sc, hsc, rfl⟩
    · exact hs.bindings d hd
    · exact Entries.forall_values_insert hv (hs.bindings sc hsc)

theorem All.unbind (hs : All P s) {scope : Nat} {name : String} : All P (s.unbind scope name) where
  cells := hs.cells
  bindings d hd := by
    simp only [Session.unbind] at hd
    rcases mem_modify hd with hd | ⟨sc, hsc, rfl⟩
    · exact hs.bindings d hd
    · exact fun v hv => hs.bindings sc hsc v (Entries.mem_values_erase hv)

/-! ## Copies -/

theorem All.copyTo (hcells : ∀ (v : Value) (k : Nat), P v → P (v.moved k)) (n : Nat)
    (hs : All P s) {v : Value} (hv : P v) :
    All P (copyTo n v s).2 ∧ P (copyTo n v s).1 := by
  induction n generalizing s v with
  | zero =>
    rw [copyTo_zero]
    exact ⟨hs, hv⟩
  | succ n ih =>
    have hlist {t : Session} (ht : All P t) {vs : List Value} (hvs : ∀ w ∈ vs, P w) :
        All P (copyListTo n vs t).2 ∧ ∀ w ∈ (copyListTo n vs t).1, P w := by
      induction vs generalizing t with
      | nil => exact ⟨ht, by simp [copyListTo]⟩
      | cons w vs ihvs =>
        obtain ⟨ht', hw⟩ := ih ht (hvs w List.mem_cons_self)
        obtain ⟨ht'', hws⟩ := ihvs ht' fun x hx => hvs x (List.mem_cons_of_mem _ hx)
        exact ⟨ht'', List.forall_mem_cons.2 ⟨hw, hws⟩⟩
    cases hc : v.cell? with
    | none =>
      rw [copyTo_of_cell?_eq_none hc]
      exact ⟨hs, hv⟩
    | some c =>
      rw [copyTo_eq hc]
      obtain ⟨ht, hws⟩ := hlist hs fun w (hw : w ∈ s.contents v) => hs.content hw
      refine ⟨ht.newCell ?_, hcells v _ hv⟩
      rw [values_refilled s v (length_copyListTo _ _ _)]
      exact hws

theorem All.copy (hcells : ∀ (v : Value) (k : Nat), P v → P (v.moved k)) (hs : All P s)
    {v : Value} (hv : P v) : All P (copy v s).2 ∧ P (copy v s).1 :=
  hs.copyTo hcells s.nesting hv

theorem All.copyList (hcells : ∀ (v : Value) (k : Nat), P v → P (v.moved k)) (hs : All P s)
    {vs : List Value} (hvs : ∀ v ∈ vs, P v) :
    All P (copyList vs s).2 ∧ ∀ w ∈ (copyList vs s).1, P w := by
  induction vs generalizing s with
  | nil => exact ⟨hs, by simp [Session.copyList]⟩
  | cons v vs ih =>
    obtain ⟨ht, hw⟩ := hs.copy hcells (hvs v List.mem_cons_self)
    obtain ⟨hu, hws⟩ := ih ht fun x hx => hvs x (List.mem_cons_of_mem _ hx)
    exact ⟨hu, List.forall_mem_cons.2 ⟨hw, hws⟩⟩

theorem All.withBinding (hcells : ∀ (v : Value) (k : Nat), P v → P (v.moved k)) (hs : All P s)
    (scope : Nat) (name : String) {v : Value} (hv : P v) :
    All P (s.withBinding scope name v) :=
  (hs.copy hcells hv).1.bind (hs.copy hcells hv).2

theorem All.withItems (hcells : ∀ (v : Value) (k : Nat), P v → P (v.moved k)) (hs : All P s)
    (c : Nat) {more : List Value} (hmore : ∀ v ∈ more, P v) : All P (s.withItems c more) := by
  obtain ⟨ht, hws⟩ := hs.copyList hcells hmore
  refine ht.setCell fun v hv => ?_
  simp only [Cell.values, Array.toList_appendList, List.mem_append] at hv
  rcases hv with hv | hv
  · exact ht.item (by simpa using hv)
  · exact hws v hv

theorem All.withoutLast (hs : All P s) (c : Nat) : All P (s.withoutLast c) := by
  refine hs.setCell fun v hv => hs.item (c := c) ?_
  simp only [Cell.values, Array.toList_pop] at hv
  simpa using List.dropLast_subset _ hv

theorem All.withEntry (hcells : ∀ (v : Value) (k : Nat), P v → P (v.moved k)) (hs : All P s)
    (c : Nat) (key : String) {v : Value} (hv : P v) : All P (s.withEntry c key v) := by
  obtain ⟨ht, hw⟩ := hs.copy hcells hv
  exact ht.setCell (Entries.forall_values_insert hw fun u hu => ht.entry hu)

end Session

end Reckoner
