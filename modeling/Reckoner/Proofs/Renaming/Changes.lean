import Reckoner.Proofs.Renaming.Session

/-!
# Changes of sessions with other numbers

The same change in two sessions, of which one is the other with other numbers,
leads to two such sessions again (`Embeds.newCell` and so on).  Copies are made of
the same cells in the same order (`Embeds.copyTo`), so the new cells correspond.

The changes that evaluation makes keep a session tidy (`Tidy.newCell` and so
on).
-/

namespace Reckoner

open Renamable

namespace Session

variable {ρ : Renaming} {base s s' t t' : Session}

namespace Embeds

/-! ## Single changes -/

theorem lt_size_iff (h : Embeds ρ base s s') {c : Nat} :
    ρ.cell c < s'.cells.size ↔ c < s.cells.size := by
  have hnone : s'.cells[ρ.cell c]? = none ↔ s.cells[c]? = none := by
    rw [h.cell_eq, Option.map_eq_none_iff]
  rw [Array.getElem?_eq_none_iff, Array.getElem?_eq_none_iff] at hnone
  omega

/-- The next cell in one session is the next cell in the other. -/
theorem new_cell (h : Embeds ρ base s s') : ρ.cell s.cells.size = s'.cells.size := h.next_cell 0

theorem new_scope (h : Embeds ρ base s s') : ρ.scope s.scopes.size = s'.scopes.size :=
  h.next_scope 0

theorem new_identity (h : Embeds ρ base s s') : ρ.identity s.identity = s'.identity :=
  h.next_identity 0

theorem cell_eq_size_iff (h : Embeds ρ base s s') {c : Nat} :
    ρ.cell c = s'.cells.size ↔ c = s.cells.size := by
  rw [← h.new_cell, h.injective.cell.eq_iff]

theorem scope_eq_size_iff (h : Embeds ρ base s s') {i : Nat} :
    ρ.scope i = s'.scopes.size ↔ i = s.scopes.size := by
  rw [← h.new_scope, h.injective.scope.eq_iff]

theorem newCell (h : Embeds ρ base s s') (cell : Cell) :
    Embeds ρ base (s.newCell cell) (s'.newCell (cell.renamed ρ)) where
  injective := h.injective
  root_eq := h.root_eq
  depth_eq := h.depth_eq
  cell_eq c := by
    simp only [Session.newCell, Array.getElem?_push, h.cell_eq_size_iff, h.cell_eq]
    split <;> rfl
  scope_eq := h.scope_eq
  next_cell k := by
    simp only [Session.newCell, Array.size_push, Nat.add_assoc, h.next_cell]
  next_scope := h.next_scope
  next_identity := h.next_identity
  cells_le := by
    simp only [Session.newCell, Array.size_push]
    exact Nat.add_le_add_right h.cells_le 1
  scopes_le := h.scopes_le
  cell_kept c hc := by
    have hne : c ≠ s'.cells.size := fun heq => hc s.cells.size (h.new_cell.trans heq.symm)
    simp only [Session.newCell, Array.getElem?_push, if_neg hne]
    exact h.cell_kept c hc
  scope_kept := h.scope_kept

theorem setCell (h : Embeds ρ base s s') (c : Nat) (cell : Cell) :
    Embeds ρ base (s.setCell c cell) (s'.setCell (ρ.cell c) (cell.renamed ρ)) where
  injective := h.injective
  root_eq := h.root_eq
  depth_eq := h.depth_eq
  cell_eq d := by
    simp only [Session.setCell, Array.getElem?_setIfInBounds, h.injective.cell.eq_iff,
      h.lt_size_iff, h.cell_eq]
    split
    · split <;> rfl
    · rfl
  scope_eq := h.scope_eq
  next_cell k := by
    simp only [Session.setCell, Array.size_setIfInBounds, h.next_cell]
  next_scope := h.next_scope
  next_identity := h.next_identity
  cells_le := by simpa only [Session.setCell, Array.size_setIfInBounds] using h.cells_le
  scopes_le := h.scopes_le
  cell_kept d hd := by
    simp only [Session.setCell, Array.getElem?_setIfInBounds, if_neg (hd c)]
    exact h.cell_kept d hd
  scope_kept := h.scope_kept

theorem bind (h : Embeds ρ base s s') (scope : Nat) (name : String) (v : Value) :
    Embeds ρ base (s.bind scope name v) (s'.bind (ρ.scope scope) name (v.renamed ρ)) where
  injective := h.injective
  root_eq := h.root_eq
  depth_eq := h.depth_eq
  cell_eq := h.cell_eq
  scope_eq i := by
    simp only [Session.bind, Array.getElem?_modify, h.injective.scope.eq_iff, h.scope_eq]
    split
    · cases s.scopes[i]? with
      | none => rfl
      | some sc =>
        have hinsert : (rename ρ sc.bindings : Entries Value).insert name (v.renamed ρ) =
            rename ρ (sc.bindings.insert name v) := Entries.insert_rename _ _ _
        simp only [Option.map_some, Scope.renamed, hinsert]
    · rfl
  next_cell := h.next_cell
  next_scope k := by simp only [Session.bind, Array.size_modify, h.next_scope]
  next_identity := h.next_identity
  cells_le := h.cells_le
  scopes_le := by simpa only [Session.bind, Array.size_modify] using h.scopes_le
  cell_kept := h.cell_kept
  scope_kept i hi := by
    simp only [Session.bind, Array.getElem?_modify, if_neg (hi scope)]
    exact h.scope_kept i hi

theorem newScope (h : Embeds ρ base s s') (sc : Scope) :
    Embeds ρ base (s.newScope sc) (s'.newScope (sc.renamed ρ)) where
  injective := h.injective
  root_eq := h.root_eq
  depth_eq := h.depth_eq
  cell_eq := h.cell_eq
  scope_eq i := by
    simp only [Session.newScope, Array.getElem?_push, h.scope_eq_size_iff, h.scope_eq]
    split <;> rfl
  next_cell := h.next_cell
  next_scope k := by
    simp only [Session.newScope, Array.size_push, Nat.add_assoc, h.next_scope]
  next_identity := h.next_identity
  cells_le := h.cells_le
  scopes_le := by
    simp only [Session.newScope, Array.size_push]
    exact Nat.add_le_add_right h.scopes_le 1
  cell_kept := h.cell_kept
  scope_kept i hi := by
    have hne : i ≠ s'.scopes.size := fun heq => hi s.scopes.size (h.new_scope.trans heq.symm)
    simp only [Session.newScope, Array.getElem?_push, if_neg hne]
    exact h.scope_kept i hi

theorem newIdentity (h : Embeds ρ base s s') :
    Embeds ρ base { s with identity := s.identity + 1 }
      { s' with identity := s'.identity + 1 } :=
  { h with next_identity := fun k => by simp only [Nat.add_assoc, h.next_identity] }

/-- As many calls more or less go on in both sessions. -/
theorem atDepth (h : Embeds ρ base s s') (change : Nat → Nat) :
    Embeds ρ base { s with depth := change s.depth } { s' with depth := change s'.depth } :=
  { h with depth_eq := congrArg change h.depth_eq }

/-! ## Copies -/

/-- The copies of a value at any two depths that its arrays and objects do not
exceed. -/
theorem copyTo {rank : Nat → Nat} (hs : s.All (Value.Within s.cells.size))
    (hrank : s.Ranked rank) (n m : Nat) {v : Value} (ht : Extends none s t)
    (h : Embeds ρ base t t') (hv : v.Within s.cells.size)
    (hdepth : ∀ c, v.cell? = some c → rank c < n ∧ rank c < m) :
    Embeds ρ base (copyTo n v t).2 (copyTo m (v.renamed ρ) t').2 ∧
      (copyTo m (v.renamed ρ) t').1 = (copyTo n v t).1.renamed ρ := by
  induction n generalizing m t t' v with
  | zero =>
    have hc : v.cell? = none := Option.eq_none_iff_forall_not_mem.2 fun c hc =>
      Nat.not_lt_zero _ (hdepth c hc).1
    have hc' : (v.renamed ρ).cell? = none := by rw [Value.cell?_renamed, hc]; rfl
    rw [copyTo_of_cell?_eq_none hc', copyTo_zero]
    exact ⟨h, rfl⟩
  | succ n ih =>
    cases hc : v.cell? with
    | none =>
      have hc' : (v.renamed ρ).cell? = none := by rw [Value.cell?_renamed, hc]; rfl
      rw [copyTo_of_cell?_eq_none hc', copyTo_of_cell?_eq_none hc]
      exact ⟨h, rfl⟩
    | some c =>
      obtain ⟨k, rfl⟩ : ∃ k, m = k + 1 := ⟨m - 1, by have := (hdepth c hc).2; omega⟩
      have hlist {t t' : Session} {vs : List Value} (ht : Extends none s t)
          (h : Embeds ρ base t t') (hvs : ∀ w ∈ vs, w ∈ s.contents v) :
          Embeds ρ base (copyListTo n vs t).2 (copyListTo k (rename ρ vs) t').2 ∧
            (copyListTo k (rename ρ vs) t').1 = rename ρ (copyListTo n vs t).1 := by
        induction vs generalizing t t' with
        | nil => exact ⟨h, rfl⟩
        | cons w vs ihvs =>
          have hw := hvs w List.mem_cons_self
          obtain ⟨hcopy, hvalue⟩ := ih k ht h (hs.content hw) fun d hd => by
            have := rank_lt_of_content hrank hc hw hd
            have := hdepth c hc
            omega
          obtain ⟨hrest, hvalues⟩ := ihvs (ht.trans (extends_copyTo n w t)) hcopy
            fun x hx => hvs x (List.mem_cons_of_mem _ hx)
          exact ⟨hrest, congrArg₂ List.cons hvalue hvalues⟩
      obtain ⟨hcopies, hvalues⟩ := hlist ht h fun w hw => ht.contents_eq hv ▸ hw
      have hc' : (v.renamed ρ).cell? = some (ρ.cell c) := by rw [Value.cell?_renamed, hc]; rfl
      rw [copyTo_eq hc, copyTo_eq hc', h.contents_renamed, hvalues, h.refilled_renamed]
      refine ⟨hcopies.newCell _, ?_⟩
      rw [Value.renamed_moved, hcopies.new_cell]

theorem copy (hs : s.Tidy) (ht : Extends none s t) (h : Embeds ρ base t t') {v : Value}
    (hv : v.Within s.cells.size) :
    Embeds ρ base (copy v t).2 (copy (v.renamed ρ) t').2 ∧
      (Session.copy (v.renamed ρ) t').1 = (Session.copy v t).1.renamed ρ := by
  obtain ⟨rank, hrank⟩ := hs.ranked
  refine copyTo hs.within hrank _ _ ht h hv fun c hc => ?_
  have hlt := (hrank.lt_size c (hv.cell_lt hc)).trans_le ht.size_le
  exact ⟨hlt, hlt.trans_le h.cells_le⟩

theorem copyList (hs : s.Tidy) (ht : Extends none s t) (h : Embeds ρ base t t') {vs : List Value}
    (hvs : ∀ v ∈ vs, v.Within s.cells.size) :
    Embeds ρ base (copyList vs t).2 (copyList (rename ρ vs) t').2 ∧
      (Session.copyList (rename ρ vs) t').1 = rename ρ (Session.copyList vs t).1 := by
  induction vs generalizing t t' with
  | nil => exact ⟨h, rfl⟩
  | cons v vs ih =>
    obtain ⟨hcopy, hvalue⟩ := copy hs ht h (hvs v List.mem_cons_self)
    obtain ⟨hrest, hvalues⟩ := ih (ht.trans (extends_copyTo _ v t)) hcopy
      fun x hx => hvs x (List.mem_cons_of_mem _ hx)
    exact ⟨hrest, congrArg₂ List.cons hvalue hvalues⟩

/-! ## The changes of evaluation -/

theorem withBinding (hs : s.Tidy) (h : Embeds ρ base s s') (scope : Nat) (name : String)
    {v : Value} (hv : v.Within s.cells.size) :
    Embeds ρ base (s.withBinding scope name v)
      (s'.withBinding (ρ.scope scope) name (v.renamed ρ)) := by
  obtain ⟨hcopy, hvalue⟩ := copy hs (extends_refl s) h hv
  have hbind := hcopy.bind scope name (Session.copy v s).1
  rw [← hvalue] at hbind
  exact hbind

theorem withItems (hs : s.Tidy) (h : Embeds ρ base s s') (c : Nat) {more : List Value}
    (hmore : ∀ v ∈ more, v.Within s.cells.size) :
    Embeds ρ base (s.withItems c more) (s'.withItems (ρ.cell c) (rename ρ more)) := by
  obtain ⟨hcopies, hvalues⟩ := copyList hs (extends_refl s) h hmore
  have hcell := hcopies.setCell c
    (.array ((Session.copyList more s).2.items c ++ (Session.copyList more s).1))
  have hitems : rename ρ ((Session.copyList more s).2.items c ++ (Session.copyList more s).1) =
      rename ρ ((Session.copyList more s).2.items c) ++ rename ρ (Session.copyList more s).1 :=
    Array.toList_inj.1 (by simp [rename])
  rw [Cell.renamed, hitems, ← hcopies.items_renamed, ← hvalues] at hcell
  exact hcell

theorem withoutLast (h : Embeds ρ base s s') (c : Nat) :
    Embeds ρ base (s.withoutLast c) (s'.withoutLast (ρ.cell c)) := by
  have hcell := h.setCell c (.array (s.items c).pop)
  have hitems : rename ρ (s.items c).pop = (rename ρ (s.items c)).pop :=
    Array.toList_inj.1 (by simp [rename])
  rw [Cell.renamed, hitems, ← h.items_renamed] at hcell
  exact hcell

theorem withEntry (hs : s.Tidy) (h : Embeds ρ base s s') (c : Nat) (key : String) {v : Value}
    (hv : v.Within s.cells.size) :
    Embeds ρ base (s.withEntry c key v) (s'.withEntry (ρ.cell c) key (v.renamed ρ)) := by
  obtain ⟨hcopy, hvalue⟩ := copy hs (extends_refl s) h hv
  have hcell := hcopy.setCell c
    (.object (((Session.copy v s).2.entries c).insert key (Session.copy v s).1))
  have hinsert : rename ρ (((Session.copy v s).2.entries c).insert key (Session.copy v s).1) =
      (rename ρ ((Session.copy v s).2.entries c) : Entries Value).insert key
        ((Session.copy v s).1.renamed ρ) :=
    (Entries.insert_rename _ _ _).symm
  rw [Cell.renamed, hinsert, ← hcopy.entries_renamed, ← hvalue] at hcell
  exact hcell

end Embeds

/-! ## Tidy sessions -/

namespace Tidy

theorem congr (hs : s.Tidy) (hcells : t.cells = s.cells)
    (hbindings : ∀ sc ∈ t.scopes, ∀ v ∈ sc.bindings.values, v.Sound s.cells.size) : t.Tidy where
  within := by
    rw [hcells]
    exact ⟨hcells ▸ hs.within.cells, fun sc hsc v hv => (hbindings sc hsc v hv).within⟩
  proper := ⟨hcells ▸ hs.proper.cells, fun sc hsc v hv => (hbindings sc hsc v hv).proper⟩
  ranked := by
    obtain ⟨rank, hrank⟩ := hs.ranked
    exact ⟨rank, hcells ▸ hrank.lt_size, handles_congr hcells ▸ hrank.lt_of_mem⟩

theorem newCell (hs : s.Tidy) {cell : Cell} (hcell : ∀ v ∈ cell.values, v.Sound s.cells.size) :
    (s.newCell cell).Tidy where
  within := by
    have hle : s.cells.size ≤ (s.newCell cell).cells.size := (extends_newCell s cell).size_le
    exact (hs.within.mono fun v hv => hv.mono hle).newCell fun v hv => (hcell v hv).within.mono hle
  proper := hs.proper.newCell fun v hv => (hcell v hv).proper
  ranked := by
    obtain ⟨rank, hrank⟩ := hs.ranked
    exact ranked_newCell hs.within hrank fun v hv => (hcell v hv).within

theorem newScope (hs : s.Tidy) {sc : Scope}
    (hsc : ∀ v ∈ sc.bindings.values, v.Sound s.cells.size) : (s.newScope sc).Tidy :=
  hs.congr rfl (hs.sound.newScope hsc).bindings

theorem withBinding (hs : s.Tidy) (scope : Nat) (name : String) {v : Value}
    (hv : v.Sound s.cells.size) : (s.withBinding scope name v).Tidy := by
  obtain ⟨rank, hrank⟩ := hs.ranked
  have ht := copied_copy hs.within hrank hv.within
  obtain ⟨rank', hrank'⟩ := ranked_copied hs.within hrank ht
  exact {
    within := ht.all_within.bind (ht.within _ List.mem_cons_self)
    proper := hs.proper.withBinding (fun _ k h => h.moved k) scope name hv.proper
    ranked := ⟨rank', hrank'.lt_size, hrank'.lt_of_mem⟩ }

theorem withItems (hs : s.Tidy) {c : Nat} (hc : c < s.cells.size) {more : List Value}
    (hmore : ∀ v ∈ more, v.Sound s.cells.size) : (s.withItems c more).Tidy := by
  obtain ⟨rank, hrank⟩ := hs.ranked
  have h := refill_items hs.within hrank hc fun v hv => (hmore v hv).within
  exact {
    within := h.all_within
    proper := hs.proper.withItems (fun _ k h => h.moved k) c fun v hv => (hmore v hv).proper
    ranked := h.ranked hs.within hrank }

theorem withoutLast (hs : s.Tidy) {c : Nat} (hc : c < s.cells.size) : (s.withoutLast c).Tidy := by
  obtain ⟨rank, hrank⟩ := hs.ranked
  have h := refill_pop hs.within hrank hc
  exact {
    within := h.all_within
    proper := hs.proper.withoutLast c
    ranked := h.ranked hs.within hrank }

theorem withEntry (hs : s.Tidy) {c : Nat} (hc : c < s.cells.size) (key : String) {v : Value}
    (hv : v.Sound s.cells.size) : (s.withEntry c key v).Tidy := by
  obtain ⟨rank, hrank⟩ := hs.ranked
  have h := refill_entry hs.within hrank hc key hv.within
  exact {
    within := h.all_within
    proper := hs.proper.withEntry (fun _ k h => h.moved k) c key hv.proper
    ranked := h.ranked hs.within hrank }

end Tidy

end Session

end Reckoner
