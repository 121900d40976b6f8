import Reckoner.Proofs.Session.Planted

/-!
# Changes of a session keep it free of cycles

A new cell ranks above all others (`ranked_newCell`).  Copies that come into one
place each rank below all that was there (`ranked_graft`), whether the place is a
name or a cell.

`Refill` says what the content of a cell may be changed to: values that it held,
and copies.  The changes of evaluation are of this kind (`refill_items`,
`refill_pop`, `refill_entry`).
-/

namespace Reckoner.Session

variable {s t u : Session} {ws : List Value}

/-- A new cell ranks above all others. -/
theorem ranked_newCell {rank : Nat → Nat} (hs : s.All (Value.Within s.cells.size))
    (hrank : s.Ranked rank) {cell : Cell} (hcell : ∀ v ∈ cell.values, v.Within s.cells.size) :
    ∃ rank, (s.newCell cell).Ranked rank := by
  have hsize : (s.newCell cell).cells.size = s.cells.size + 1 := by simp [Session.newCell]
  have hupdate {c : Nat} (hc : c < s.cells.size) :
      Function.update rank s.cells.size s.cells.size c = rank c :=
    Function.update_of_ne (Nat.ne_of_lt hc) _ _
  refine ⟨Function.update rank s.cells.size s.cells.size, fun c hc => ?_, fun c d hd => ?_⟩
  · rw [hsize] at hc ⊢
    rcases Nat.lt_succ_iff_lt_or_eq.1 hc with hlt | rfl
    · rw [hupdate hlt]
      exact (hrank.lt_size c hlt).trans (Nat.lt_succ_self _)
    · rw [Function.update_self]
      exact Nat.lt_succ_self _
  · rcases lt_trichotomy c s.cells.size with hlt | rfl | hlt
    · rw [(extends_newCell s cell).handles_eq hlt (Option.some_ne_none c).symm] at hd
      rw [hupdate hlt, hupdate (lt_size_of_mem_handles hs hd)]
      exact hrank.lt_of_mem c d hd
    · rw [handles, cellValues_newCell_size] at hd
      obtain ⟨v, hv, hvd⟩ := Value.mem_handles.1 hd
      have hdlt := (hcell v hv).cell_lt hvd
      rw [Function.update_self, hupdate hdlt]
      exact hrank.lt_size d hdlt
    · rw [handles_of_size_le (by rw [hsize]; exact hlt)] at hd
      simp at hd

/-! ## Copies in their places -/

/-- Old cells rank above all new ones, and among new cells later ones above
earlier ones. -/
theorem ranked_graft {rank : Nat → Nat} (hs : s.All (Value.Within s.cells.size))
    (hrank : s.Ranked rank) (ht : Copied s ws t) (hsize : u.cells.size = t.cells.size)
    (hnew : ∀ c, s.cells.size ≤ c → u.handles c = t.handles c)
    (hold : ∀ c < s.cells.size, u.handles c ≤ s.handles c + Value.handles ws) :
    u.Ranked fun c =>
      if c < s.cells.size then rank c + (u.cells.size - s.cells.size) else c - s.cells.size where
  lt_size c hc := by
    have hle := ht.later.size_le
    split
    · have := hrank.lt_size c ‹_›
      omega
    · omega
  lt_of_mem c d hd := by
    have hle := ht.later.size_le
    rcases Nat.lt_or_ge c s.cells.size with hlt | hge
    · rw [if_pos hlt]
      rcases Multiset.mem_add.1 (Multiset.mem_of_le (hold c hlt) hd) with hd | hd
      · rw [if_pos (lt_size_of_mem_handles hs hd)]
        have := hrank.lt_of_mem c d hd
        omega
      · have := ht.planted.mem_root hd
        rw [if_neg (by omega)]
        omega
    · rw [hnew c hge] at hd
      have := ht.planted.mem_handles hge hd
      have := ht.planted.lt_of_mem c hge d hd
      rw [if_neg (by omega), if_neg (by omega)]
      omega

/-- Copies alone. -/
theorem ranked_copied {rank : Nat → Nat} (hs : s.All (Value.Within s.cells.size))
    (hrank : s.Ranked rank) (ht : Copied s ws t) : ∃ rank, t.Ranked rank := by
  refine ⟨_, ranked_graft hs hrank ht rfl (fun _ _ => rfl) fun c hc => ?_⟩
  rw [ht.later.handles_eq hc (Option.some_ne_none c).symm]
  exact le_self_add

/-! ## Other content for a cell -/

/-- What a cell of `s` may hold instead, after the copies `ws` were made: what it held
and these copies. -/
structure Refill (s : Session) (c : Nat) (ws : List Value) (t : Session) (cell : Cell) : Prop where
  copied : Copied s ws t
  lt_size : c < s.cells.size
  handles_le : Value.handles cell.values ≤ s.handles c + Value.handles ws
  within : ∀ v ∈ cell.values, v.Within t.cells.size

namespace Refill

variable {c : Nat} {cell : Cell}

theorem size_eq (_ : Refill s c ws t cell) : (t.setCell c cell).cells.size = t.cells.size := by
  simp [Session.setCell]

theorem handles_self (h : Refill s c ws t cell) :
    (t.setCell c cell).handles c = Value.handles cell.values := by
  rw [handles, cellValues_setCell (h.lt_size.trans_le h.copied.later.size_le)]

theorem handles_other (_ : Refill s c ws t cell) {d : Nat} (hd : d ≠ c) :
    (t.setCell c cell).handles d = t.handles d := by
  have hd' : (t.setCell c cell).cells[d]? = t.cells[d]? :=
    Array.getElem?_setIfInBounds_ne hd.symm
  rw [handles, cellValues, hd']
  rfl

theorem handles_old (h : Refill s c ws t cell) {d : Nat} (hd : d < s.cells.size) (hne : d ≠ c) :
    (t.setCell c cell).handles d = s.handles d := by
  rw [h.handles_other hne, h.copied.later.handles_eq hd (Option.some_ne_none d).symm]

theorem handles_new (h : Refill s c ws t cell) {d : Nat} (hd : s.cells.size ≤ d) :
    (t.setCell c cell).handles d = t.handles d :=
  h.handles_other (h.lt_size.trans_le hd).ne'

theorem handles_old_le (h : Refill s c ws t cell) {d : Nat} (hd : d < s.cells.size) :
    (t.setCell c cell).handles d ≤ s.handles d + Value.handles ws := by
  by_cases hdc : d = c
  · subst hdc
    rw [h.handles_self]
    exact h.handles_le
  · rw [h.handles_old hd hdc]
    exact le_self_add

theorem all_within (h : Refill s c ws t cell) :
    (t.setCell c cell).All (Value.Within (t.setCell c cell).cells.size) := by
  rw [h.size_eq]
  exact h.copied.all_within.setCell h.within

theorem ranked {rank : Nat → Nat} (h : Refill s c ws t cell)
    (hs : s.All (Value.Within s.cells.size)) (hrank : s.Ranked rank) :
    ∃ rank, (t.setCell c cell).Ranked rank :=
  ⟨_, ranked_graft hs hrank h.copied h.size_eq (fun _ => h.handles_new) fun _ => h.handles_old_le⟩

end Refill

/-! ## The changes of evaluation -/

theorem handles_items_le (s : Session) (c : Nat) :
    Value.handles (s.items c).toList ≤ s.handles c := by
  rw [handles, cellValues, items]
  split
  · rename_i vs hcell
    rw [hcell]
    exact le_rfl
  · exact Multiset.zero_le _

theorem handles_entries_le (s : Session) (c : Nat) :
    Value.handles (s.entries c).values ≤ s.handles c := by
  rw [handles, cellValues, entries]
  split
  · rename_i es hcell
    rw [hcell]
    exact le_rfl
  · exact Multiset.zero_le _

section

variable {rank : Nat → Nat} {c : Nat}

theorem refill_items (hs : s.All (Value.Within s.cells.size)) (hrank : s.Ranked rank)
    (hc : c < s.cells.size) {more : List Value} (hmore : ∀ v ∈ more, v.Within s.cells.size) :
    Refill s c (copyList more s).1 (copyList more s).2
      (.array ((copyList more s).2.items c ++ (copyList more s).1)) := by
  have ht := copied_copyList hs hrank hmore
  refine ⟨ht, hc, ?_, fun v hv => ?_⟩
  · have hitems : ((copyList more s).2.items c).toList = (s.items c).toList :=
      ht.later.contents_eq (Value.within_array.2 hc)
    simp only [Cell.values, Array.toList_appendList, Value.handles_append, hitems]
    exact add_le_add_left (handles_items_le s c) _
  · simp only [Cell.values, Array.toList_appendList, List.mem_append] at hv
    rcases hv with hv | hv
    · exact ht.all_within.item (by simpa using hv)
    · exact ht.within v hv

theorem refill_pop (hs : s.All (Value.Within s.cells.size)) (hrank : s.Ranked rank)
    (hc : c < s.cells.size) : Refill s c [] s (.array (s.items c).pop) := by
  have ht : Copied s [] s := copied_copyList hs hrank (List.forall_mem_nil _)
  have hsublist : (s.items c).pop.toList.Sublist (s.items c).toList := by
    rw [Array.toList_pop]
    exact List.dropLast_sublist _
  refine ⟨ht, hc, ?_, fun v hv => ?_⟩
  · exact ((Value.handles_le_of_sublist hsublist).trans (handles_items_le s c)).trans le_self_add
  · exact hs.item (Array.mem_toList_iff.1 (hsublist.subset hv))

theorem refill_entry (hs : s.All (Value.Within s.cells.size)) (hrank : s.Ranked rank)
    (hc : c < s.cells.size) (key : String) {v : Value} (hv : v.Within s.cells.size) :
    Refill s c [(copy v s).1] (copy v s).2
      (.object (((copy v s).2.entries c).insert key (copy v s).1)) := by
  have ht := copied_copy hs hrank hv
  refine ⟨ht, hc, ?_, ?_⟩
  · have hentries : ((copy v s).2.entries c).values = (s.entries c).values :=
      ht.later.contents_eq (Value.within_object.2 hc)
    have hinsert := Value.handles_insert_le ((copy v s).2.entries c) key (copy v s).1
    rw [hentries] at hinsert
    exact hinsert.trans (add_le_add_left (handles_entries_le s c) _)
  · exact Entries.forall_values_insert (ht.within _ List.mem_cons_self)
      fun w hw => ht.all_within.entry hw

end

end Reckoner.Session
