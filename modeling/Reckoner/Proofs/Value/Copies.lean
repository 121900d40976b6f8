import Reckoner.Proofs.Value.Keys

/-!
# A copy is equal to what it was made of

A copy of an array or an object is a new cell, so it is never the same handle.  Its content
is equal, item by item and key by key, at every depth: the copy follows a value as deep as
its cells rank, and so does the comparison.

* `Session.sameTo_copyTo`: the copy of a value is equal to it, and stays so when further
  cells are added.
* `Session.same_copy`: the statement for `Session.copy` and `Session.same`.
-/

namespace Reckoner

/-- Entries that agree in their keys and are related in their values match. -/
theorem Entries.matches_zip {α : Type} {R : α → α → Prop} {es : Entries α} {ws : List α}
    (hes : es.keys.Nodup) (h : List.Forall₂ R ws es.values) : Matches R (es.keys.zip ws) es where
  length_eq := by
    have hlength := h.length_eq
    simp only [values, List.length_map] at hlength
    simp [keys, hlength]
  found := by
    intro key w hw
    have hmem := mem_of_find? hw
    suffices hentry : ∃ v, (key, v) ∈ es ∧ R w v by
      obtain ⟨v, hv, hwv⟩ := hentry
      exact ⟨v, find?_of_mem hes hv, hwv⟩
    clear hw hes
    induction es generalizing ws with
    | nil => simp [keys] at hmem
    | cons entry rest ih =>
      obtain ⟨k, v⟩ := entry
      cases h with
      | @cons x _ xs _ hxv hxs =>
        rcases List.mem_cons.1 hmem with heq | hmem
        · obtain ⟨rfl, rfl⟩ := Prod.mk.inj heq
          exact ⟨v, List.mem_cons_self, hxv⟩
        · obtain ⟨v', hv', hwv'⟩ := ih hxs hmem
          exact ⟨v', List.mem_cons_of_mem _ hv', hwv'⟩

namespace Session

variable {s t u : Session} {v : Value}

theorem lt_size_newCell (s : Session) (cell : Cell) :
    s.cells.size < (s.newCell cell).cells.size := by
  simp [newCell]

theorem extends_copyListTo (n : Nat) (vs : List Value) (s : Session) :
    Extends none s (copyListTo n vs s).2 := by
  induction vs generalizing s with
  | nil => exact extends_refl s
  | cons v vs ih => exact (extends_copyTo n v s).trans (ih _)

/-- The copy of a value is equal to it in every later session: the comparison goes as deep as
the copy did. -/
theorem sameTo_copyTo {rank : Nat → Nat} (hs : s.All (Value.Within s.cells.size))
    (hrank : s.Ranked rank) (hkeys : s.KeysDistinct) (n : Nat) {m : Nat}
    (ht : Extends none s t) (hv : v.Within s.cells.size)
    (hn : ∀ c, v.cell? = some c → rank c < n) (hm : ∀ c, v.cell? = some c → rank c < m)
    (hu : Extends none (copyTo n v t).2 u) (hukeys : u.KeysDistinct) :
    u.sameTo m (copyTo n v t).1 v = true := by
  induction n generalizing t v m with
  | zero =>
    rw [copyTo_zero]
    exact sameTo_refl u m v
  | succ n ih =>
    -- The copies of the values in a cell, one after the other.
    have hlist {t : Session} {vs : List Value} {m : Nat} (ht : Extends none s t)
        (hvs : ∀ w ∈ vs, w.Within s.cells.size)
        (hn : ∀ w ∈ vs, ∀ c, w.cell? = some c → rank c < n)
        (hm : ∀ w ∈ vs, ∀ c, w.cell? = some c → rank c < m)
        (hu : Extends none (copyListTo n vs t).2 u) :
        List.Forall₂ (fun w v => u.sameTo m w v = true) (copyListTo n vs t).1 vs := by
      induction vs generalizing t with
      | nil => exact .nil
      | cons w vs ihvs =>
        have hlater := extends_copyTo n w t
        have hrest : Extends none (copyTo n w t).2 (copyListTo n vs (copyTo n w t).2).2 :=
          extends_copyListTo n vs _
        refine .cons ?_ ?_
        · exact ih ht (hvs w List.mem_cons_self) (hn w List.mem_cons_self)
            (hm w List.mem_cons_self) (hrest.trans hu)
        · exact ihvs (ht.trans hlater) (fun x hx => hvs x (List.mem_cons_of_mem _ hx))
            (fun x hx => hn x (List.mem_cons_of_mem _ hx))
            (fun x hx => hm x (List.mem_cons_of_mem _ hx)) hu
    cases hc : v.cell? with
    | none =>
      rw [copyTo_of_cell?_eq_none hc]
      exact sameTo_refl u m v
    | some c =>
      obtain ⟨m, rfl⟩ : ∃ k, m = k + 1 :=
        Nat.exists_eq_succ_of_ne_zero (Nat.ne_of_gt (Nat.zero_lt_of_lt (hm c hc)))
      rw [copyTo_eq hc] at hu ⊢
      have hcontents : t.contents v = s.contents v := ht.contents_eq hv
      have hlt : c < s.cells.size := hv.cell_lt hc
      have hlater : Extends none s (copyListTo n (t.contents v) t).2 :=
        ht.trans (extends_copyListTo n _ t)
      have hwithin : ∀ w ∈ t.contents v, w.Within s.cells.size := fun w hw =>
        hs.content (hcontents ▸ hw)
      have hranks {k : Nat} (hk : rank c < k + 1) :
          ∀ w ∈ t.contents v, ∀ d, w.cell? = some d → rank d < k := by
        intro w hw d hd
        have := rank_lt_of_content hrank hc (hcontents ▸ hw) hd
        omega
      have hws := hlist ht hwithin (hranks (hn c hc)) (hranks (hm c hc))
        ((extends_newCell _ _).trans hu)
      have huv : Extends none s u := (hlater.trans (extends_newCell _ _)).trans hu
      cases v with
      | array d =>
        obtain rfl : d = c := Option.some.inj hc
        have hitems : u.items (copyListTo n (t.contents (.array d)) t).2.cells.size =
            (copyListTo n (t.contents (.array d)) t).1.toArray := by
          rw [hu.items_eq (lt_size_newCell _ _)]
          exact items_newCell _ _
        refine sameTo_array_iff.2 ⟨d, rfl, .inr ⟨m, rfl, ?_⟩⟩
        rw [hitems, huv.items_eq hlt, ← ht.items_eq hlt]
        exact hws
      | object d =>
        obtain rfl : d = c := Option.some.inj hc
        have hentries : u.entries (copyListTo n (t.contents (.object d)) t).2.cells.size =
            (t.entries d).keys.zip (copyListTo n (t.contents (.object d)) t).1 := by
          rw [hu.entries_eq (lt_size_newCell _ _)]
          exact entries_newCell _ _
        refine (sameTo_object_iff hukeys).2 ⟨d, rfl, .inr ⟨m, rfl, ?_⟩⟩
        rw [hentries, huv.entries_eq hlt, ← ht.entries_eq hlt]
        refine Entries.matches_zip (ht.entries_eq hlt ▸ hkeys d) (hws.imp fun w v h => ?_)
        exact (equivalence_sameTo hukeys m).symm h
      | _ => cases hc

/-- A copy of an array or an object is a new cell. -/
theorem size_le_of_copy {c : Nat} (hv : v.Within s.cells.size)
    (h : (copy v s).1.cell? = some c) : s.cells.size ≤ c := by
  unfold copy nesting at h
  cases hcell : v.cell? with
  | none =>
    rw [copyTo_of_cell?_eq_none hcell, hcell] at h
    cases h
  | some d =>
    obtain ⟨n, hn⟩ : ∃ n, s.cells.size = n + 1 :=
      Nat.exists_eq_succ_of_ne_zero (Nat.ne_of_gt (Nat.zero_lt_of_lt (hv.cell_lt hcell)))
    rw [hn, copyTo_eq hcell] at h
    refine (extends_copyListTo n (s.contents v) s).size_le.trans (Nat.le_of_eq ?_)
    cases v with
    | array d => exact Option.some.inj h
    | object d => exact Option.some.inj h
    | _ => cases hcell

/-- Equality sees the cells alone. -/
theorem same_of_cells_eq (h : t.cells = s.cells) (v w : Value) : t.same v w = s.same v w := by
  have hitems : t.items = s.items := funext fun c => by rw [items, items, h]
  have hentries : t.entries = s.entries := funext fun c => by rw [entries, entries, h]
  have hsame (n : Nat) : t.sameTo n v w = s.sameTo n v w := by
    induction n generalizing v w with
    | zero => cases v <;> cases w <;> rfl
    | succ n ih => cases v <;> cases w <;> simp only [sameTo, hitems, hentries, ih]
  rw [same, same, hsame, nesting, nesting, h]

/-- A value is equal to its copy. -/
theorem same_copy {rank : Nat → Nat} (hs : s.All (Value.Within s.cells.size))
    (hrank : s.Ranked rank) (hkeys : s.KeysDistinct) (hv : v.Within s.cells.size) :
    (copy v s).2.same (copy v s).1 v = true := by
  have hlt : ∀ c, v.cell? = some c → rank c < s.cells.size := fun c hc =>
    hrank.lt_size c (hv.cell_lt hc)
  have hle : s.cells.size ≤ (copy v s).2.cells.size := (extends_copyTo _ v s).size_le
  exact sameTo_copyTo hs hrank hkeys s.nesting (extends_refl s) hv hlt
    (fun c hc => (hlt c hc).trans_le hle) (extends_refl _) (hkeys.copyTo _ _)

end Session

end Reckoner
