import Mathlib.Data.List.Perm.Basic
import Reckoner.Eval.Builtin.Call
import Reckoner.Proofs.Value.Keys

/-!
# Items without their repetitions

Equality by content is an equivalence that the order of keys does not touch:
neither the order in the objects that are compared
(`Session.same_of_entries_perm`) nor the order anywhere else
(`Session.Reordered.same_eq`).

`unique` compares an item with those it has kept, not with all that came before.
As equality is transitive the two come to the same (`Eval.toList_uniqueFrom`), so
it keeps the items that equal no earlier one (`Eval.firsts`).
-/

namespace Reckoner

namespace Entries

variable {α : Type} {R : α → α → Prop} {es es' fs fs' : Entries α}

theorem nodup_keys_of_perm (h : es.Perm fs) (hfs : fs.keys.Nodup) : es.keys.Nodup :=
  (h.map Prod.fst).nodup_iff.2 hfs

/-- Where no key comes twice, what is found does not hang on the order of the
entries. -/
theorem find?_of_perm (h : es.Perm fs) (hfs : fs.keys.Nodup) (key : String) :
    es.find? key = fs.find? key := by
  have hes : es.keys.Nodup := nodup_keys_of_perm h hfs
  apply Option.ext
  intro v
  constructor
  · intro hv
    exact find?_of_mem hfs (h.mem_iff.1 (mem_of_find? hv))
  · intro hv
    exact find?_of_mem hes (h.mem_iff.2 (mem_of_find? hv))

theorem Matches.imp {S : α → α → Prop} (hRS : ∀ v ∈ es.values, ∀ w ∈ fs.values, R v w → S v w)
    (h : Matches R es fs) : Matches S es fs where
  length_eq := h.length_eq
  found := by
    intro key v hv
    obtain ⟨w, hw, hvw⟩ := h.found hv
    exact ⟨w, hw, hRS v (mem_values_of_find? hv) w (mem_values_of_find? hw) hvw⟩

theorem Matches.of_perm (hes : es.keys.Nodup) (hfs : fs.keys.Nodup) (he : es'.Perm es)
    (hf : fs'.Perm fs) (h : Matches R es fs) : Matches R es' fs' where
  length_eq := by
    rw [he.length_eq, h.length_eq, hf.length_eq]
  found := by
    intro key v hv
    rw [find?_of_perm he hes] at hv
    obtain ⟨w, hw, hvw⟩ := h.found hv
    refine ⟨w, ?_, hvw⟩
    rw [find?_of_perm hf hfs]
    exact hw

end Entries

namespace Session

variable {s t : Session} {v w : Value}

/-! ## The order of keys -/

/-- Objects that hold the same values under the same keys are equal. -/
theorem same_of_entries_perm (hs : s.KeysDistinct) {c d : Nat} (hc : c < s.cells.size)
    (h : (s.entries c).Perm (s.entries d)) : s.same (.object c) (.object d) = true := by
  obtain ⟨n, hn⟩ : ∃ n, s.cells.size = n + 1 :=
    Nat.exists_eq_succ_of_ne_zero (Nat.ne_of_gt (Nat.zero_lt_of_lt hc))
  refine (sameTo_object_iff hs).2 ⟨d, rfl, .inr ⟨n, hn, h.length_eq, ?_⟩⟩
  intro key v hv
  rw [Entries.find?_of_perm h (hs d)] at hv
  exact ⟨v, hv, s.sameTo_refl n v⟩

/-- The same values in every cell, but perhaps in another order of the keys. -/
structure Reordered (s t : Session) : Prop where
  size_eq : t.cells.size = s.cells.size
  items_eq : ∀ c, t.items c = s.items c
  entries_perm : ∀ c, (t.entries c).Perm (s.entries c)

namespace Reordered

theorem symm (h : s.Reordered t) : t.Reordered s where
  size_eq := h.size_eq.symm
  items_eq c := (h.items_eq c).symm
  entries_perm c := (h.entries_perm c).symm

theorem keysDistinct (h : s.Reordered t) (hs : s.KeysDistinct) : t.KeysDistinct :=
  fun c => Entries.nodup_keys_of_perm (h.entries_perm c) (hs c)

theorem sameTo (h : s.Reordered t) (hs : s.KeysDistinct) {n : Nat}
    (hvw : s.sameTo n v w = true) : t.sameTo n v w = true := by
  induction n using Nat.strongRecOn generalizing v w with
  | ind n ih =>
    cases v with
    | array c =>
      obtain ⟨d, rfl, hcd⟩ := sameTo_array_iff.1 hvw
      refine sameTo_array_iff.2 ⟨d, rfl, hcd.imp_right ?_⟩
      rintro ⟨m, rfl, hitems⟩
      rw [h.items_eq c, h.items_eq d]
      exact ⟨m, rfl, hitems.imp fun _ _ => ih m m.lt_succ_self⟩
    | object c =>
      obtain ⟨d, rfl, hcd⟩ := (sameTo_object_iff hs).1 hvw
      refine (sameTo_object_iff (h.keysDistinct hs)).2 ⟨d, rfl, hcd.imp_right ?_⟩
      rintro ⟨m, rfl, hmatches⟩
      have hmatches' := hmatches.of_perm (hs c) (hs d) (h.entries_perm c) (h.entries_perm d)
      exact ⟨m, rfl, hmatches'.imp fun _ _ _ _ => ih m m.lt_succ_self⟩
    | _ => exact (sameTo_iff_face?_eq rfl).2 ((sameTo_iff_face?_eq rfl).1 hvw)

/-- No comparison hangs on the order of keys, however deep the objects stand. -/
theorem same_eq (h : s.Reordered t) (hs : s.KeysDistinct) (v w : Value) :
    t.same v w = s.same v w := by
  rw [Bool.eq_iff_iff, same, same, nesting, nesting, h.size_eq]
  constructor
  · exact h.symm.sameTo (h.keysDistinct hs)
  · exact h.sameTo hs

end Reordered

end Session

/-! ## What equals no earlier item -/

namespace Eval

variable {s : Session} {xs : List Value}

/-- The items that equal no earlier one, in their order. -/
def firsts (s : Session) (xs : List Value) : List Value :=
  (xs.zipIdx.filter fun (v, i) => !(xs.take i).any fun w => s.same w v).map Prod.fst

theorem mem_firsts {v : Value} : v ∈ firsts s xs ↔
    ∃ i, xs[i]? = some v ∧ ∀ w ∈ xs.take i, s.same w v = false := by
  simp [firsts, List.mem_zipIdx_iff_getElem?]

/-- To have kept something equal is to have met something equal: what was left
out equals something that was kept. -/
theorem toList_uniqueFrom (hs : s.KeysDistinct) (met rest : List Value) (kept : Array Value)
    (h : ∀ v, (kept.any fun w => s.same w v) = met.any fun w => s.same w v) :
    (uniqueFrom s kept rest).toList = kept.toList ++
      ((rest.zipIdx met.length).filter fun (v, i) =>
        !((met ++ rest).take i).any fun w => s.same w v).map Prod.fst := by
  have hequivalence := Session.equivalence_sameTo hs s.nesting
  induction rest generalizing met kept with
  | nil => simp [uniqueFrom]
  | cons v rest ih =>
    have hmet : met ++ v :: rest = (met ++ [v]) ++ rest := by simp
    have htake : (met ++ v :: rest).take met.length = met := List.take_left
    have hnext : (met ++ [v]).length = met.length + 1 := by simp
    rw [uniqueFrom, h v, List.zipIdx_cons, List.filter_cons]
    simp only [htake]
    cases hv : met.any fun w => s.same w v with
    | true =>
      -- What equals `v` equals what `v` equals.
      have hstep : ∀ u, (kept.any fun w => s.same w u) = (met ++ [v]).any fun w => s.same w u := by
        intro u
        rw [h u, List.any_append, Bool.eq_iff_iff]
        simp only [List.any_cons, List.any_nil, Bool.or_false, Bool.or_eq_true]
        refine ⟨Or.inl, ?_⟩
        rintro (hu | hvu)
        · exact hu
        · obtain ⟨w, hw, hwv⟩ := List.any_eq_true.1 hv
          exact List.any_eq_true.2 ⟨w, hw, hequivalence.trans hwv hvu⟩
      rw [if_pos rfl, ih (met ++ [v]) kept hstep, hnext, ← hmet]
      rfl
    | false =>
      have hstep : ∀ u, ((kept.push v).any fun w => s.same w u) =
          (met ++ [v]).any fun w => s.same w u := by
        intro u
        rw [Array.any_push, h u, List.any_append]
        simp
      rw [if_neg Bool.false_ne_true, ih (met ++ [v]) (kept.push v) hstep, hnext, ← hmet]
      simp

/-- No two of the items that equal no earlier one are equal. -/
theorem pairwise_firsts (s : Session) (xs : List Value) :
    (firsts s xs).Pairwise fun v w => s.same v w = false := by
  rw [firsts, List.pairwise_map, List.pairwise_filter, List.pairwise_iff_getElem]
  intro i j hi hj hij _ hnone
  have hlt : i < xs.length := by
    simpa using hi
  have hmem : xs[i] ∈ xs.take j := by
    rw [List.mem_take_iff_getElem]
    exact ⟨i, by omega, rfl⟩
  simp only [List.getElem_zipIdx, Nat.zero_add, Bool.not_eq_true', List.any_eq_false] at hnone ⊢
  exact Bool.eq_false_iff.2 (hnone _ hmem)

/-- Every item equals one that equals no earlier one: the first that it equals. -/
theorem exists_firsts (hs : s.KeysDistinct) {v : Value} (hv : v ∈ xs) :
    ∃ w ∈ firsts s xs, s.same w v = true := by
  have hequivalence := Session.equivalence_sameTo hs s.nesting
  obtain ⟨i, hi⟩ := List.getElem?_of_mem hv
  clear hv
  induction i using Nat.strongRecOn generalizing v with
  | ind i ih =>
    by_cases hfirst : ∀ w ∈ xs.take i, s.same w v = false
    · exact ⟨v, mem_firsts.2 ⟨i, hi, hfirst⟩, hequivalence.refl v⟩
    · obtain ⟨w, hw, hwv⟩ : ∃ w ∈ xs.take i, s.same w v = true := by
        simpa using hfirst
      obtain ⟨j, hj⟩ := List.getElem?_of_mem hw
      rw [List.getElem?_take] at hj
      split at hj
      · rename_i hji
        obtain ⟨u, hu, huw⟩ := ih j hji hj
        exact ⟨u, hu, hequivalence.trans huw hwv⟩
      · cases hj

/-- Every item equals one alone of the items that equal no earlier one. -/
theorem countP_firsts (hs : s.KeysDistinct) {v : Value} (hv : v ∈ xs) :
    (firsts s xs).countP (fun w => s.same w v) = 1 := by
  have hequivalence := Session.equivalence_sameTo hs s.nesting
  have hpairwise : ((firsts s xs).filter fun w => s.same w v).Pairwise fun _ _ => False := by
    rw [List.pairwise_filter]
    refine (pairwise_firsts s xs).imp ?_
    intro u w huw hu hw
    have hsame : s.same u w = true := hequivalence.trans hu (hequivalence.symm hw)
    rw [hsame] at huw
    cases huw
  obtain ⟨w, hw, hwv⟩ := exists_firsts hs hv
  have hmem : w ∈ (firsts s xs).filter fun w => s.same w v := List.mem_filter.2 ⟨hw, hwv⟩
  rw [List.countP_eq_length_filter]
  cases hfilter : (firsts s xs).filter fun w => s.same w v with
  | nil => simp [hfilter] at hmem
  | cons u us =>
    cases us with
    | nil => rfl
    | cons u' us =>
      rw [hfilter] at hpairwise
      exact ((List.pairwise_cons.1 hpairwise).1 u' List.mem_cons_self).elim

/-- Equality by content is an equivalence, and the order of keys is of no account
to it.  `unique` keeps the items that equal no earlier one: no two of them are
equal, and every item equals exactly one. -/
theorem unique_keeps_firsts (ctx : Context) (call : Caller) (o : Nat) (hs : s.KeysDistinct) :
    (Equivalence fun v w => s.same v w = true) ∧
    (∀ c d, c < s.cells.size → (s.entries c).Perm (s.entries d) →
      s.same (.object c) (.object d) = true) ∧
    (∀ t v w, s.Reordered t → t.same v w = s.same v w) ∧
    ∀ a, ∃ ys,
      callBuiltin ctx call .unique [.array a] o s =
        .ok (.array s.cells.size) (s.newCell (.array ys)) ∧
      ys.toList = firsts s (s.items a).toList ∧
      (ys.toList.Pairwise fun v w => s.same v w = false) ∧
      ∀ v ∈ (s.items a).toList, ys.toList.countP (fun w => s.same w v) = 1 := by
  refine ⟨Session.equivalence_sameTo hs s.nesting, fun c d => Session.same_of_entries_perm hs,
    fun t v w h => h.same_eq hs v w, fun a => ?_⟩
  have hys : (uniqueFrom s #[] (s.items a).toList).toList = firsts s (s.items a).toList := by
    rw [toList_uniqueFrom hs [] _ #[] fun _ => by simp]
    rfl
  refine ⟨uniqueFrom s #[] (s.items a).toList, rfl, hys, ?_, ?_⟩
  · rw [hys]
    exact pairwise_firsts s _
  · intro v hv
    rw [hys]
    exact countP_firsts hs hv

/-- Two objects that differ in the order of their keys count once. -/
theorem unique_keeps_firsts_objects :
    let es : Entries Value := [("a", .bool true), ("b", .null)]
    let fs : Entries Value := [("b", .null), ("a", .bool true)]
    let items : Array Value := #[.object 0, .null, .object 1, .null]
    let s := ((Session.empty.newCell (.object es)).newCell (.object fs)).newCell (.array items)
    let t := ((Session.empty.newCell (.object fs)).newCell (.object fs)).newCell (.array items)
    s.KeysDistinct ∧ s.Reordered t ∧ s.same (.object 0) (.object 1) = true ∧
      t.same (.object 0) (.object 1) = true ∧
      ∀ ctx call, ∃ ys : Array Value,
        callBuiltin ctx call .unique [.array 2] 0 s = .ok (.array 3) (s.newCell (.array ys)) ∧
        ys.toList = [.object 0, .null] := by
  intro es fs items s t
  have hperm : fs.Perm es := List.Perm.swap _ _ _
  have hkeys : s.KeysDistinct := by
    refine Session.KeysDistinct.newCell (.newCell (.newCell Session.keysDistinct_empty ?_) ?_) ?_
    · rintro _ ⟨rfl⟩
      decide
    · rintro _ ⟨rfl⟩
      decide
    · rintro _ ⟨⟩
  have hreordered : s.Reordered t := by
    refine ⟨rfl, fun c => ?_, fun c => ?_⟩
    · match c with
      | 0 | 1 | 2 | _ + 3 => rfl
    · match c with
      | 0 => exact hperm
      | 1 | 2 | _ + 3 => exact List.Perm.refl _
  have hlaws := fun ctx call => unique_keeps_firsts ctx call 0 hkeys
  obtain ⟨-, hpermuted, hother, -⟩ :=
    hlaws (Context.ofClock ⟨0, 0⟩ (.fixed 0)) fun _ _ _ => pure .null
  have hsame : s.same (.object 0) (.object 1) = true := hpermuted 0 1 (by decide) hperm.symm
  refine ⟨hkeys, hreordered, hsame, (hother t _ _ hreordered).trans hsame, ?_⟩
  intro ctx call
  obtain ⟨-, -, -, hunique⟩ := hlaws ctx call
  obtain ⟨ys, hrun, hys, -, -⟩ := hunique 2
  refine ⟨ys, hrun, hys.trans ?_⟩
  rfl

end Eval

end Reckoner
