import Mathlib.Data.List.Forall2
import Mathlib.Data.List.Perm.Basic
import Mathlib.Order.Basic
import Reckoner.Eval.Builtin.Array

/-!
# Sorting

A comparison without effects that follows a relation (`Follows`) makes
`mergeFrom` the merge of two lists (`mergeFrom_of_follows`).  If the relation is
transitive and total, sorting succeeds and gives the items again, none of them
before a lesser one and those of one place in the order they came in
(`exists_mergeSort_stable`, `exists_mergeSort_of_follows`).

Items that are sorted by a key have the same keys in the same places, in
whatever order they came (`map_eq_of_sorted`).
-/

namespace Reckoner.Eval

section

variable {α : Type} {m : Type → Type} [Monad m]

/-- A comparison that has no effect on the members of `S` and puts `x` behind `y`
unless `le x y`. -/
def Follows (order : α → α → m Ordering) (S : α → Prop) (le : α → α → Bool) : Prop :=
  ∀ x y, S x → S y → ∃ o, order x y = pure o ∧ (o = .gt ↔ le x y = false)

variable [LawfulMonad m] {order : α → α → m Ordering} {S : α → Prop} {le : α → α → Bool}

theorem mergeFrom_of_follows (h : Follows order S le) {rounds : Nat} {done left right : List α}
    (hleft : ∀ x ∈ left, S x) (hright : ∀ y ∈ right, S y)
    (hrounds : left.length + right.length ≤ rounds) :
    mergeFrom order rounds done left right = pure (done.reverse ++ left.merge right le) := by
  induction rounds generalizing done left right with
  | zero =>
    obtain rfl : left = [] := List.length_eq_zero_iff.1 (by omega)
    obtain rfl : right = [] := List.length_eq_zero_iff.1 (by simpa using hrounds)
    simp [mergeFrom]
  | succ rounds ih =>
    cases left with
    | nil => simp [mergeFrom]
    | cons x left =>
      cases right with
      | nil => simp [mergeFrom]
      | cons y right =>
        simp only [List.length_cons] at hrounds
        obtain ⟨o, ho, hgt⟩ := h x y (hleft x List.mem_cons_self) (hright y List.mem_cons_self)
        rw [mergeFrom, ho, pure_bind, List.cons_merge_cons]
        cases hle : le x y with
        | true =>
          have hmerge : mergeFrom order rounds (x :: done) left (y :: right) = _ :=
            ih (fun z hz => hleft z (List.mem_cons_of_mem _ hz)) hright
              (by simp only [List.length_cons]; omega)
          have hne : o ≠ .gt := fun heq => by
            rw [hgt.1 heq] at hle
            cases hle
          split
          · exact absurd rfl hne
          · rw [hmerge, List.reverse_cons, List.append_assoc, List.singleton_append, if_pos rfl]
        | false =>
          have hmerge : mergeFrom order rounds (y :: done) (x :: left) right = _ :=
            ih hleft (fun z hz => hright z (List.mem_cons_of_mem _ hz))
              (by simp only [List.length_cons]; omega)
          rw [hgt.2 hle, if_neg Bool.false_ne_true]
          dsimp only
          rw [hmerge, List.reverse_cons, List.append_assoc, List.singleton_append]

/-- Whether two members have one place in the order. -/
def tied (le : α → α → Bool) (x y : α) : Bool := le x y && le y x

/-- A merge keeps the order of the members that have one place, those on the left first. -/
theorem filter_merge (htrans : ∀ x y z, le x y = true → le y z = true → le x z = true)
    {left right : List α} (hleft : left.Pairwise fun x y => le x y = true) (x : α) :
    (left.merge right le).filter (tied le x) =
      left.filter (tied le x) ++ right.filter (tied le x) := by
  induction left generalizing right with
  | nil => simp
  | cons l left ihLeft =>
    induction right with
    | nil => simp
    | cons r right ihRight =>
      rw [List.cons_merge_cons]
      cases hle : le l r with
      | true =>
        rw [if_pos rfl, List.filter_cons, ihLeft hleft.tail, List.filter_cons (x := l)]
        split <;> simp
      | false =>
        rw [if_neg Bool.false_ne_true, List.filter_cons, ihRight, List.filter_cons (x := r)]
        split
        · -- No member on the left is tied with one that goes before them all.
          rename_i hr
          have hnone : (l :: left).filter (tied le x) = [] := by
            refine List.filter_eq_nil_iff.2 fun z hz hxz => ?_
            obtain ⟨-, hzx⟩ := Bool.and_eq_true_iff.1 hxz
            obtain ⟨hxr, -⟩ := Bool.and_eq_true_iff.1 hr
            have hzr := htrans z x r hzx hxr
            have hlr : le l r = true := by
              rcases List.mem_cons.1 hz with rfl | hz
              · exact hzr
              · exact htrans l z r (List.rel_of_pairwise_cons hleft hz) hzr
            rw [hle] at hlr
            cases hlr
          rw [hnone, List.nil_append, List.nil_append]
        · rfl

/-- Sorting in as many rounds as there are items. -/
theorem exists_mergeSortTo_stable (h : Follows order S le)
    (htrans : ∀ x y z, le x y = true → le y z = true → le x z = true)
    (htotal : ∀ x y, (le x y || le y x) = true) {rounds : Nat} {xs : List α}
    (hxs : ∀ x ∈ xs, S x) (hrounds : xs.length ≤ rounds) :
    ∃ ys, mergeSortTo order rounds xs = pure ys ∧ ys.Perm xs ∧
      (ys.Pairwise fun x y => le x y = true) ∧
      ∀ x, ys.filter (tied le x) = xs.filter (tied le x) := by
  induction rounds generalizing xs with
  | zero =>
    obtain rfl : xs = [] := List.length_eq_zero_iff.1 (by omega)
    exact ⟨[], rfl, .refl _, .nil, fun _ => rfl⟩
  | succ rounds ih =>
    rw [mergeSortTo]
    split
    · rename_i hshort
      refine ⟨xs, rfl, .refl _, ?_, fun _ => rfl⟩
      match xs, hshort with
      | [], _ => exact .nil
      | [x], _ => exact List.pairwise_singleton _ x
    · have htake : ∀ x ∈ xs.take (xs.length / 2), S x :=
        fun x hx => hxs x (List.mem_of_mem_take hx)
      have hdrop : ∀ x ∈ xs.drop (xs.length / 2), S x :=
        fun x hx => hxs x (List.mem_of_mem_drop hx)
      obtain ⟨left, hleft, hleftPerm, hleftSorted, hleftTied⟩ :=
        ih htake (by rw [List.length_take]; omega)
      obtain ⟨right, hright, hrightPerm, hrightSorted, hrightTied⟩ :=
        ih hdrop (by rw [List.length_drop]; omega)
      refine ⟨left.merge right le, ?_, ?_, ?_, fun x => ?_⟩
      · rw [hleft, pure_bind, hright, pure_bind]
        exact mergeFrom_of_follows h (fun x hx => htake x (hleftPerm.mem_iff.1 hx))
          (fun x hx => hdrop x (hrightPerm.mem_iff.1 hx)) (Nat.le_refl _)
      · have hperm := hleftPerm.append hrightPerm
        rw [List.take_append_drop] at hperm
        exact (List.merge_perm_append le).trans hperm
      · exact List.pairwise_merge htrans htotal left right hleftSorted hrightSorted
      · rw [filter_merge htrans hleftSorted, hleftTied, hrightTied, ← List.filter_append,
          List.take_append_drop]

/-- A comparison that follows a total preorder sorts, and members that are tied keep their
order. -/
theorem exists_mergeSort_stable (h : Follows order S le)
    (htrans : ∀ x y z, le x y = true → le y z = true → le x z = true)
    (htotal : ∀ x y, (le x y || le y x) = true) {xs : List α} (hxs : ∀ x ∈ xs, S x) :
    ∃ ys, mergeSort order xs = pure ys ∧ ys.Perm xs ∧
      (ys.Pairwise fun x y => le x y = true) ∧
      ∀ x, ys.filter (tied le x) = xs.filter (tied le x) :=
  exists_mergeSortTo_stable h htrans htotal hxs (Nat.le_refl _)

/-- A comparison that follows a total preorder sorts. -/
theorem exists_mergeSort_of_follows (h : Follows order S le)
    (htrans : ∀ x y z, le x y = true → le y z = true → le x z = true)
    (htotal : ∀ x y, (le x y || le y x) = true) {xs : List α} (hxs : ∀ x ∈ xs, S x) :
    ∃ ys, mergeSort order xs = pure ys ∧ ys.Perm xs ∧ ys.Pairwise fun x y => le x y = true := by
  obtain ⟨ys, hrun, hperm, hsorted, -⟩ := exists_mergeSort_stable h htrans htotal hxs
  exact ⟨ys, hrun, hperm, hsorted⟩

end

/-- Items that are sorted by a key have the same keys in the same places. -/
theorem map_eq_of_sorted {α β : Type} [PartialOrder β] {key : α → β} {xs ys : List α}
    (hperm : xs.Perm ys) (hxs : xs.Pairwise fun x y => key x ≤ key y)
    (hys : ys.Pairwise fun x y => key x ≤ key y) : xs.map key = ys.map key := by
  refine (hperm.map key).eq_of_pairwise (fun _ _ _ _ => le_antisymm) ?_ ?_
  · exact List.pairwise_map.2 hxs
  · exact List.pairwise_map.2 hys

theorem forall₂_of_map_eq {α β : Type} {key : α → β} {R : α → α → Prop} {xs ys : List α}
    (h : xs.map key = ys.map key) (hR : ∀ x ∈ xs, ∀ y ∈ ys, key x = key y → R x y) :
    List.Forall₂ R xs ys := by
  induction xs generalizing ys with
  | nil =>
    obtain rfl : ys = [] := List.map_eq_nil_iff.1 h.symm
    exact .nil
  | cons x xs ih =>
    cases ys with
    | nil => cases h
    | cons y ys =>
      obtain ⟨hhead, htail⟩ := List.cons.inj h
      exact .cons (hR x List.mem_cons_self y List.mem_cons_self hhead)
        (ih htail fun x hx y hy => hR x (List.mem_cons_of_mem _ hx) y (List.mem_cons_of_mem _ hy))

end Reckoner.Eval
