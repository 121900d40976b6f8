import Mathlib.Algebra.BigOperators.Intervals
import Mathlib.Algebra.Order.BigOperators.Group.Finset
import Mathlib.Tactic.Abel
import Reckoner.Proofs.Session.Heap

/-!
# Copies stand apart

A copy of a value is made of new cells only, and these are a tree: each of
them stands once in another one, or is the copy itself.  `Planted` says so for
several copies at once, by a sum: the handles in the new cells and those of
the copies are together the new cells, each of them once.

* `Planted.newCell` is the step from the copies of the values in a cell to the
  copy of the cell.
* `Planted.copyTo` follows a copy through the arrays and objects in a value.
* `copied_copyList` is what copies of values come to, made one after the other.
-/

namespace Reckoner.Session

variable {s t : Session}

/-- The cells from `base` on are trees: each of them stands once in another of
them, which is a later one, or once among the roots. -/
structure Planted (base : Nat) (roots : Multiset Nat) (t : Session) : Prop where
  le_size : base ≤ t.cells.size
  sum_add : ∑ c ∈ Finset.Ico base t.cells.size, t.handles c + roots =
    (Finset.Ico base t.cells.size).val
  lt_of_mem : ∀ c, base ≤ c → ∀ d ∈ t.handles c, d < c

theorem handles_of_size_le {c : Nat} (hc : t.cells.size ≤ c) : t.handles c = 0 := by
  rw [handles, cellValues, Array.getElem?_eq_none hc]
  rfl

theorem planted_size (t : Session) : Planted t.cells.size 0 t where
  le_size := le_rfl
  sum_add := by simp
  lt_of_mem c hc d hd := by simp [handles_of_size_le hc] at hd

namespace Planted

variable {base : Nat} {roots : Multiset Nat}

theorem mem_root (h : Planted base roots t) {d : Nat} (hd : d ∈ roots) :
    base ≤ d ∧ d < t.cells.size := by
  have hmem : d ∈ (Finset.Ico base t.cells.size).val := by
    rw [← h.sum_add]
    exact Multiset.mem_add.2 (.inr hd)
  simpa using hmem

theorem mem_handles (h : Planted base roots t) {c d : Nat} (hc : base ≤ c)
    (hd : d ∈ t.handles c) : base ≤ d ∧ d < t.cells.size := by
  have hlt : c < t.cells.size := lt_size_of_contains (Session.mem_handles.1 hd)
  have hmem : d ∈ (Finset.Ico base t.cells.size).val := by
    rw [← h.sum_add]
    refine Multiset.mem_add.2 (.inl ?_)
    exact Multiset.mem_of_le (Finset.single_le_sum_of_canonicallyOrdered
      (f := t.handles) (Finset.mem_Ico.2 ⟨hc, hlt⟩)) hd
  simpa using hmem

/-- What stood among the roots stands in a new cell, which is a root instead. -/
theorem newCell {cell : Cell} (h : Planted base (roots + Value.handles cell.values) t) :
    Planted base (roots + {t.cells.size}) (t.newCell cell) where
  le_size := h.le_size.trans (extends_newCell t cell).size_le
  sum_add := by
    have hsize : (t.newCell cell).cells.size = t.cells.size + 1 := by simp [Session.newCell]
    have hold : ∑ c ∈ Finset.Ico base t.cells.size, (t.newCell cell).handles c =
        ∑ c ∈ Finset.Ico base t.cells.size, t.handles c :=
      Finset.sum_congr rfl fun c hc =>
        (extends_newCell t cell).handles_eq (Finset.mem_Ico.1 hc).2
          (Option.some_ne_none c).symm
    have hnew : (t.newCell cell).handles t.cells.size = Value.handles cell.values := by
      rw [handles, cellValues_newCell_size]
    have hval : (Finset.Ico base (t.cells.size + 1)).val =
        (Finset.Ico base t.cells.size).val + {t.cells.size} := by
      rw [← Finset.insert_Ico_right_eq_Ico_add_one h.le_size, Finset.insert_val_of_notMem (by simp),
        ← Multiset.singleton_add, add_comm]
    rw [hsize, Finset.sum_Ico_succ_top h.le_size, hold, hnew, hval, ← h.sum_add]
    abel
  lt_of_mem c hc d hd := by
    rcases lt_trichotomy c t.cells.size with hlt | rfl | hlt
    · rw [(extends_newCell t cell).handles_eq hlt (Option.some_ne_none c).symm] at hd
      exact h.lt_of_mem c hc d hd
    · rw [handles, cellValues_newCell_size] at hd
      exact (h.mem_root (Multiset.mem_add.2 (.inr hd))).2
    · have hsize : (t.newCell cell).cells.size ≤ c := by simpa [Session.newCell] using hlt
      simp [handles_of_size_le hsize] at hd

end Planted

/-! ## Copies -/

theorem Extends.contents_eq (h : Extends none s t) {v : Value} (hv : v.Within s.cells.size) :
    t.contents v = s.contents v := by
  cases v with
  | array c =>
    have hcell := h.cell_eq c (Value.within_array.1 hv)
      (Option.some_ne_none c).symm
    simp only [contents, items, hcell]
  | object c =>
    have hcell := h.cell_eq c (Value.within_object.1 hv)
      (Option.some_ne_none c).symm
    simp only [contents, entries, hcell]
  | _ => rfl

/-- Copies only add cells. -/
theorem extends_copyTo (n : Nat) (v : Value) (s : Session) : Extends none s (copyTo n v s).2 := by
  induction n generalizing v s with
  | zero =>
    rw [copyTo_zero]
    exact extends_refl s
  | succ n ih =>
    have hlist (vs : List Value) (s : Session) : Extends none s (copyListTo n vs s).2 := by
      induction vs generalizing s with
      | nil => exact extends_refl s
      | cons w vs ihvs => exact (ih w s).trans (ihvs _)
    cases hc : v.cell? with
    | none =>
      rw [copyTo_of_cell?_eq_none hc]
      exact extends_refl s
    | some c =>
      rw [copyTo_eq hc]
      exact (hlist _ s).trans (extends_newCell _ _)

theorem extends_copyList (vs : List Value) (s : Session) : Extends none s (copyList vs s).2 := by
  induction vs generalizing s with
  | nil => exact extends_refl s
  | cons v vs ih => exact (extends_copyTo _ v s).trans (ih _)

/-- Copying a value of which the rank is below `n` plants a tree. -/
theorem Planted.copyTo {rank : Nat → Nat} (hs : s.All (Value.Within s.cells.size))
    (hrank : s.Ranked rank) (n : Nat) {roots : Multiset Nat} {v : Value}
    (ht : Extends none s t) (hplanted : Planted s.cells.size roots t)
    (hv : v.Within s.cells.size) (hn : ∀ c, v.cell? = some c → rank c < n) :
    Planted s.cells.size (roots + Value.handles [(copyTo n v t).1]) (Session.copyTo n v t).2 := by
  induction n generalizing t roots v with
  | zero =>
    have hc : v.cell? = none := Option.eq_none_iff_forall_not_mem.2 fun c hc => by
      have := hn c hc
      omega
    rw [copyTo_zero, Value.handles_singleton_of_none hc, add_zero]
    exact hplanted
  | succ n ih =>
    have hlist {t : Session} {roots : Multiset Nat} {vs : List Value} (ht : Extends none s t)
        (hplanted : Planted s.cells.size roots t) (hvs : ∀ w ∈ vs, w.Within s.cells.size)
        (hn : ∀ w ∈ vs, ∀ c, w.cell? = some c → rank c < n) :
        Planted s.cells.size (roots + Value.handles (copyListTo n vs t).1)
          (copyListTo n vs t).2 := by
      induction vs generalizing t roots with
      | nil => simpa [copyListTo, Value.handles] using hplanted
      | cons w vs ihvs =>
        have hplanted' := ihvs (ht.trans (extends_copyTo n w t))
          (ih ht hplanted (hvs w List.mem_cons_self) (hn w List.mem_cons_self))
          (fun x hx => hvs x (List.mem_cons_of_mem _ hx))
          (fun x hx => hn x (List.mem_cons_of_mem _ hx))
        rw [add_assoc, ← Value.handles_cons] at hplanted'
        exact hplanted'
    cases hc : v.cell? with
    | none =>
      rw [copyTo_of_cell?_eq_none hc, Value.handles_singleton_of_none hc, add_zero]
      exact hplanted
    | some c =>
      rw [copyTo_eq hc, Value.handles_singleton_of_some (Value.cell?_moved hc _)]
      have hcontents : ∀ w ∈ t.contents v, ∀ d, w.cell? = some d → rank d < n := by
        intro w hw d hd
        rw [ht.contents_eq hv] at hw
        have := rank_lt_of_content hrank hc hw hd
        have := hn c hc
        omega
      refine Planted.newCell ?_
      rw [values_refilled t v (length_copyListTo _ _ _)]
      exact hlist ht hplanted (fun w hw => hs.content (ht.contents_eq hv ▸ hw)) hcontents

theorem Planted.copyList {rank : Nat → Nat} (hs : s.All (Value.Within s.cells.size))
    (hrank : s.Ranked rank) {vs : List Value} (hvs : ∀ v ∈ vs, v.Within s.cells.size)
    {roots : Multiset Nat} (ht : Extends none s t) (hplanted : Planted s.cells.size roots t) :
    Planted s.cells.size (roots + Value.handles (copyList vs t).1) (Session.copyList vs t).2 := by
  induction vs generalizing t roots with
  | nil => simpa [Session.copyList, Value.handles] using hplanted
  | cons v vs ih =>
    have hv := hvs v List.mem_cons_self
    have hcopy := hplanted.copyTo hs hrank t.nesting ht hv fun c hc =>
      (hrank.lt_size c (hv.cell_lt hc)).trans_le ht.size_le
    have hcopies := ih (fun x hx => hvs x (List.mem_cons_of_mem _ hx))
      (ht.trans (extends_copyTo _ v t)) hcopy
    rw [add_assoc, ← Value.handles_cons] at hcopies
    exact hcopies

/-- What copies `ws` of values of `s` come to, in the session `t` that holds
them. -/
structure Copied (s : Session) (ws : List Value) (t : Session) : Prop where
  later : Extends none s t
  planted : Planted s.cells.size (Value.handles ws) t
  all_within : t.All (Value.Within t.cells.size)
  within : ∀ w ∈ ws, w.Within t.cells.size

theorem copied_copyList {rank : Nat → Nat} (hs : s.All (Value.Within s.cells.size))
    (hrank : s.Ranked rank) {vs : List Value} (hvs : ∀ v ∈ vs, v.Within s.cells.size) :
    Copied s (copyList vs s).1 (copyList vs s).2 := by
  have hlater := extends_copyList vs s
  have hplanted := (planted_size s).copyList hs hrank hvs (extends_refl s)
  rw [zero_add] at hplanted
  -- A copy is an array or an object in a new cell, or else the value itself.
  let Leaf (v : Value) : Prop := v.cell? = none → v.Within s.cells.size
  have hmoved (v : Value) (k : Nat) (hv : Leaf v) : Leaf (v.moved k) := by
    intro hk
    cases hc : v.cell? with
    | some c => simp [Value.cell?_moved hc] at hk
    | none =>
      cases v with
      | array c | object c => cases hc
      | _ => exact hv hc
  obtain ⟨hleaves, hws⟩ := (hs.mono fun v hv _ => hv : s.All Leaf).copyList hmoved
    fun v hv _ => hvs v hv
  have hwithin {v : Value} (hleaf : Leaf v)
      (hcell : ∀ c, v.cell? = some c → c < (copyList vs s).2.cells.size) :
      v.Within (copyList vs s).2.cells.size := by
    cases hc : v.cell? with
    | none => exact (hleaf hc).mono hlater.size_le
    | some c =>
      refine Value.within_of_not_applied ?_ hcell
      rintro i f bound rfl
      cases hc
  refine ⟨hlater, hplanted, ⟨fun cell hcell v hv => ?_, fun sc hsc v hv => ?_⟩, fun w hw => ?_⟩
  · obtain ⟨c, hc⟩ := Array.getElem?_of_mem hcell
    have hmem {d : Nat} (hd : v.cell? = some d) : d ∈ (copyList vs s).2.handles c :=
      Value.mem_handles.2 ⟨v, by simpa [cellValues, hc] using hv, hd⟩
    refine hwithin (hleaves.cells cell hcell v hv) fun d hd => ?_
    rcases Nat.lt_or_ge c s.cells.size with hlt | hge
    · have hold := hmem hd
      rw [hlater.handles_eq hlt (Option.some_ne_none c).symm] at hold
      exact (lt_size_of_mem_handles hs hold).trans_le hlater.size_le
    · exact (hplanted.mem_handles hge (hmem hd)).2
  · rw [hlater.scopes_eq] at hsc
    exact (hs.bindings sc hsc v hv).mono hlater.size_le
  · refine hwithin (hws w hw) fun d hd => ?_
    exact (hplanted.mem_root (Value.mem_handles.2 ⟨w, hw, hd⟩)).2

theorem copied_copy {rank : Nat → Nat} (hs : s.All (Value.Within s.cells.size))
    (hrank : s.Ranked rank) {v : Value} (hv : v.Within s.cells.size) :
    Copied s [(copy v s).1] (copy v s).2 := by
  show Copied s (copyList [v] s).1 (copyList [v] s).2
  exact copied_copyList hs hrank (List.forall_mem_singleton.2 hv)

end Reckoner.Session
