import Reckoner.Eval.Expression
import Reckoner.Proofs.Value.Copies
import Reckoner.Proofs.Value.Distinct

/-!
# Equality of arrays and objects with one element

`==` converts quantities; inside arrays and objects, and where `contains` and
`unique` look for a value, quantities are compared as they are written.  So these
four agree with each other (`Eval.elements_equal_by_content`), and with `==` unless
it finds quantities equal that are written in different units.

The values to be compared stand in cells that are made for it.  That changes no
comparison (`Session.same_of_extends`): where no cell contains itself, a comparison
follows a value as deep as its cells rank.
-/

namespace Reckoner

namespace Entries

variable {α : Type} {R S : α → α → Prop} {es fs : Entries α}

theorem matches_congr (h : ∀ v ∈ es.values, ∀ w ∈ fs.values, R v w ↔ S v w) :
    Matches R es fs ↔ Matches S es fs := by
  constructor
  · exact Matches.imp fun v hv w hw => (h v hv w hw).1
  · exact Matches.imp fun v hv w hw => (h v hv w hw).2

theorem matches_singleton {key : String} {v w : α} : Matches R [(key, v)] [(key, w)] ↔ R v w := by
  have hself (u : α) : find? [(key, u)] key = some u := List.lookup_cons_self
  constructor
  · intro h
    obtain ⟨w', hw', hvw⟩ := h.found (hself v)
    cases (hself w).symm.trans hw'
    exact hvw
  · intro hvw
    refine ⟨rfl, fun {other u} hu => ?_⟩
    have hmem : (other, u) = (key, v) := List.mem_singleton.1 (mem_of_find? hu)
    obtain ⟨rfl, rfl⟩ := Prod.mk.inj hmem
    exact ⟨w, hself w, hvw⟩

end Entries

namespace Session

variable {s t : Session} {v w a b : Value}

/-! ## Further cells -/

theorem forall₂_congr_of_mem {α : Type} {R S : α → α → Prop} {xs ys : List α}
    (h : ∀ x ∈ xs, ∀ y ∈ ys, R x y ↔ S x y) : List.Forall₂ R xs ys ↔ List.Forall₂ S xs ys := by
  rw [List.forall₂_iff_zip, List.forall₂_iff_zip]
  refine and_congr_right fun _ => ?_
  constructor
  · intro hR x y hxy
    obtain ⟨hx, hy⟩ := List.of_mem_zip hxy
    exact (h x hx y hy).1 (hR hxy)
  · intro hS x y hxy
    obtain ⟨hx, hy⟩ := List.of_mem_zip hxy
    exact (h x hx y hy).2 (hS hxy)

/-- Two depths that both cover the rank of the left value come to the same, and cells that
were added are not looked at. -/
theorem sameTo_iff_of_extends {rank : Nat → Nat} (hs : s.All (Value.Within s.cells.size))
    (hrank : s.Ranked rank) (hkeys : s.KeysDistinct) (ht : Extends none s t)
    (htkeys : t.KeysDistinct) {n m : Nat} (hv : v.Within s.cells.size)
    (hw : w.Within s.cells.size) (hn : ∀ c, v.cell? = some c → rank c < n)
    (hm : ∀ c, v.cell? = some c → rank c < m) :
    t.sameTo m v w = true ↔ s.sameTo n v w = true := by
  induction n generalizing m v w with
  | zero =>
    cases v with
    | array c | object c => exact absurd (hn c rfl) (Nat.not_lt_zero _)
    | _ => rw [sameTo_iff_face?_eq rfl, sameTo_iff_face?_eq rfl]
  | succ n ih =>
    have hcontent {c k : Nat} (hc : v.cell? = some c) (hk : rank c < k + 1) {x y : Value}
        (hx : x ∈ s.contents v) (hy : y ∈ s.contents w) :
        t.sameTo k x y = true ↔ s.sameTo n x y = true := by
      refine ih (hs.content hx) (hs.content hy) (fun d hd => ?_) fun d hd => ?_
      · have := rank_lt_of_content hrank hc hx hd
        have := hn c hc
        omega
      · have := rank_lt_of_content hrank hc hx hd
        omega
    cases v with
    | array c =>
      obtain ⟨k, rfl⟩ : ∃ k, m = k + 1 :=
        Nat.exists_eq_succ_of_ne_zero (Nat.ne_of_gt (Nat.zero_lt_of_lt (hm c rfl)))
      rw [sameTo_array_iff, sameTo_array_iff]
      refine exists_congr fun d => and_congr_right ?_
      rintro rfl
      rw [ht.items_eq (Value.within_array.1 hv), ht.items_eq (Value.within_array.1 hw)]
      simp only [Nat.add_right_cancel_iff, exists_eq_left']
      refine or_congr_right (forall₂_congr_of_mem fun x hx y hy => ?_)
      exact hcontent rfl (hm c rfl) hx hy
    | object c =>
      obtain ⟨k, rfl⟩ : ∃ k, m = k + 1 :=
        Nat.exists_eq_succ_of_ne_zero (Nat.ne_of_gt (Nat.zero_lt_of_lt (hm c rfl)))
      rw [sameTo_object_iff htkeys, sameTo_object_iff hkeys]
      refine exists_congr fun d => and_congr_right ?_
      rintro rfl
      rw [ht.entries_eq (Value.within_object.1 hv), ht.entries_eq (Value.within_object.1 hw)]
      simp only [Nat.add_right_cancel_iff, exists_eq_left']
      refine or_congr_right (Entries.matches_congr fun x hx y hy => ?_)
      -- The value of the left object stands on the right, where its rank says nothing.
      have hsymm {r : Session} (hr : r.KeysDistinct) (l : Nat) :
          r.sameTo l y x = true ↔ r.sameTo l x y = true :=
        ⟨(equivalence_sameTo hr l).symm, (equivalence_sameTo hr l).symm⟩
      rw [hsymm htkeys, hsymm hkeys]
      exact hcontent rfl (hm c rfl) hx hy
    | _ => rw [sameTo_iff_face?_eq rfl, sameTo_iff_face?_eq rfl]

/-- A session in which a comparison sees all of its values and no more: their cells exist, no
cell contains itself, and no object has a key twice. -/
structure Orderly (s : Session) : Prop where
  within : s.All (Value.Within s.cells.size)
  acyclic : s.Acyclic
  keysDistinct : s.KeysDistinct

/-- What has been added to a session since changes no comparison, at any depth that was
enough before. -/
theorem same_of_extends (hs : s.Orderly) (ht : Extends none s t) (htkeys : t.KeysDistinct)
    (hv : v.Within s.cells.size) (hw : w.Within s.cells.size) {m : Nat} (hm : s.cells.size ≤ m) :
    t.sameTo m v w = s.same v w := by
  obtain ⟨rank, hrank⟩ := hs.acyclic.exists_ranked hs.within
  have hlt : ∀ c, v.cell? = some c → rank c < s.cells.size := fun c hc =>
    hrank.lt_size c (hv.cell_lt hc)
  rw [Bool.eq_iff_iff]
  exact sameTo_iff_of_extends hs.within hrank hs.keysDistinct ht htkeys hv hw hlt
    fun c hc => (hlt c hc).trans_le hm

/-- A new array changes no comparison of what was there before. -/
theorem same_newArray (hs : s.Orderly) (xs : Array Value) (hv : v.Within s.cells.size)
    (hw : w.Within s.cells.size) : (s.newCell (.array xs)).same v w = s.same v w := by
  have hlater : Extends none s (s.newCell (.array xs)) := extends_newCell s _
  apply same_of_extends hs hlater _ hv hw hlater.size_le
  exact hs.keysDistinct.newCell fun _ h => by cases h

theorem acyclic_of_flat (h : ∀ c, ∀ v ∈ s.cellValues c, v.cell? = none) : s.Acyclic := by
  have hlt : ∀ c, ∀ d ∈ s.handles c, id d < id c := by
    intro c d hd
    obtain ⟨v, hv, hvd⟩ := Value.mem_handles.1 hd
    cases (h c v hv).symm.trans hvd
  exact acyclic_of_lt hlt

theorem orderly_empty : empty.Orderly where
  within := all_empty _
  acyclic := acyclic_of_flat fun _ _ hv => by cases hv
  keysDistinct := keysDistinct_empty

/-! ## Cells with one element -/

theorem extends_newCells (s : Session) (first second : Cell) :
    Extends none s ((s.newCell first).newCell second) :=
  (extends_newCell s first).trans (extends_newCell _ second)

theorem nesting_newCells (s : Session) (first second : Cell) :
    ((s.newCell first).newCell second).nesting = s.cells.size + 1 + 1 := by
  simp [nesting, newCell]

/-- Arrays of one item are equal if the items are. -/
theorem same_arrays_of_one (hs : s.Orderly) (ha : a.Within s.cells.size)
    (hb : b.Within s.cells.size) :
    ((s.newCell (.array #[a])).newCell (.array #[b])).same (.array s.cells.size)
      (.array (s.newCell (.array #[a])).cells.size) = s.same a b := by
  have hkeys : ((s.newCell (.array #[a])).newCell (.array #[b])).KeysDistinct :=
    (hs.keysDistinct.newCell fun _ h => by cases h).newCell fun _ h => by cases h
  rw [Bool.eq_iff_iff, same, nesting_newCells, sameTo_array_iff,
    ← same_of_extends hs (extends_newCells s _ _) hkeys ha hb (Nat.le_succ _)]
  have hfirst : ((s.newCell (.array #[a])).newCell (.array #[b])).items s.cells.size = #[a] := by
    rw [(extends_newCell _ _).items_eq (lt_size_newCell s _), items_newCell]
  have hne := (lt_size_newCell s (.array #[a])).ne
  simp only [Value.array.injEq, exists_eq_left', hne, false_or,
    Nat.add_right_cancel_iff, hfirst, items_newCell]
  exact ⟨fun h => (List.forall₂_cons.1 h).1, fun h => .cons h .nil⟩

/-- Objects with one key are equal if the values are. -/
theorem same_objects_of_one (hs : s.Orderly) (key : String) (ha : a.Within s.cells.size)
    (hb : b.Within s.cells.size) :
    ((s.newCell (.object [(key, a)])).newCell (.object [(key, b)])).same (.object s.cells.size)
      (.object (s.newCell (.object [(key, a)])).cells.size) = s.same a b := by
  have hone (v : Value) : ∀ es, Cell.object [(key, v)] = .object es → es.keys.Nodup := by
    rintro _ ⟨rfl⟩
    exact List.nodup_singleton key
  have hkeys : ((s.newCell (.object [(key, a)])).newCell (.object [(key, b)])).KeysDistinct :=
    (hs.keysDistinct.newCell (hone a)).newCell (hone b)
  rw [Bool.eq_iff_iff, same, nesting_newCells, sameTo_object_iff hkeys,
    ← same_of_extends hs (extends_newCells s _ _) hkeys ha hb (Nat.le_succ _)]
  have hfirst : ((s.newCell (.object [(key, a)])).newCell (.object [(key, b)])).entries
      s.cells.size = [(key, a)] := by
    rw [(extends_newCell _ _).entries_eq (lt_size_newCell s _), entries_newCell]
  have hne := (lt_size_newCell s (.object [(key, a)])).ne
  simp only [Value.object.injEq, exists_eq_left', hne, false_or,
    Nat.add_right_cancel_iff, hfirst, entries_newCell, Entries.matches_singleton]
  exact ⟨(equivalence_sameTo hkeys _).symm, (equivalence_sameTo hkeys _).symm⟩

end Session

/-! ## Expressions -/

namespace Eval

variable {ctx : Context} {call : Caller} {scope : Nat} {s t : Session} {e f : Expr}
  {es : List Expr} {vs : List Value} {a b v : Value}

/-- An expression that gives a value and changes nothing, also when cells have been added. -/
def Denotes (ctx : Context) (call : Caller) (scope : Nat) (s : Session) (e : Expr) (v : Value) :
    Prop :=
  ∀ t, Session.Extends none s t → evalExpr ctx call scope e t = .ok v t

theorem denotes_name {name : String} (h : s.lookup scope name = some v) (o : Nat) :
    Denotes ctx call scope s (.name name o) v := by
  intro t ht
  have hlookup : t.lookup scope name = some v := by
    rw [Session.lookup, ht.scopes_eq]
    exact h
  rw [evalExpr]
  exact nameValue_of_lookup hlookup o

theorem denotes_number {x : Decimal} {units : List UnitTerm} {o : Nat}
    (h : quantityOf ctx x units o = .ok v) : Denotes ctx call scope s (.number x units o) v := by
  intro t _
  rw [evalExpr, h]
  rfl

theorem evalList_of_denotes (h : List.Forall₂ (Denotes ctx call scope s) es vs)
    (ht : Session.Extends none s t) (done : Array Value) :
    evalList ctx call scope done es t = .ok (done ++ vs.toArray) t := by
  induction h generalizing done with
  | nil =>
    rw [evalList, Array.append_empty]
    rfl
  | @cons e v es vs he _ ih =>
    have hpush : done.push v ++ vs.toArray = done ++ (v :: vs).toArray := by simp
    rw [evalList, bind_of_ok (he t ht), ih (done.push v), hpush]

theorem evalExpr_array (h : List.Forall₂ (Denotes ctx call scope s) es vs)
    (ht : Session.Extends none s t) (o : Nat) :
    evalExpr ctx call scope (.array es o) t =
      .ok (.array t.cells.size) (t.newCell (.array vs.toArray)) := by
  rw [evalExpr, bind_of_ok (evalList_of_denotes h ht #[]), Array.empty_append]
  rfl

/-- An object that is written down with one entry. -/
theorem evalExpr_entry (he : evalExpr ctx call scope e s = .ok v t) (key : String) (o : Nat) :
    evalExpr ctx call scope (.object [(key, e)] o) s =
      .ok (.object t.cells.size) (t.newCell (.object [(key, v)])) := by
  have hentries : evalEntries ctx call scope [] [(key, e)] s = .ok [(key, v)] t := by
    rw [evalEntries, bind_of_ok he, evalEntries]
    rfl
  rw [evalExpr, bind_of_ok hentries]
  rfl

theorem evalExpr_object (he : Denotes ctx call scope s e v) (ht : Session.Extends none s t)
    (key : String) (o : Nat) :
    evalExpr ctx call scope (.object [(key, e)] o) t =
      .ok (.object t.cells.size) (t.newCell (.object [(key, v)])) :=
  evalExpr_entry (he t ht) key o

theorem evalExpr_compare {u : Session} {op : CompareOp} {o : Nat}
    (he : evalExpr ctx call scope e s = .ok a t) (hf : evalExpr ctx call scope f t = .ok b u) :
    evalExpr ctx call scope (.compare op e f o) s = comparison ctx op a b o u := by
  rw [evalExpr, bind_of_ok he, bind_of_ok hf]

/-- A call of a built-in function whose name is bound to nothing. -/
theorem evalExpr_call {name : String} {builtin : Builtin} {args : List Expr} {xs : Array Value}
    {o : Nat} (hname : s.lookup scope name = none) (hb : Builtin.ofName? name = some builtin)
    (hargs : evalList ctx call scope #[] args s = .ok xs t) :
    evalExpr ctx call scope (.call name args o) s =
      callBuiltin ctx call builtin xs.toList o t := by
  have hcallee : calleeOf s scope name o = .ok (.builtin builtin) := by
    rw [calleeOf, hname, hb]
  rw [evalExpr, get_bind_run, bind_of_ok (lift_run_eq_ok_iff.2 ⟨hcallee, rfl⟩), bind_of_ok hargs]
  rfl

/-! ## Four ways to compare two elements -/

section

variable (hs : s.Orderly) (ha : a.Within s.cells.size) (hb : b.Within s.cells.size)
  (he : Denotes ctx call scope s e a) (hf : Denotes ctx call scope s f b)

include hs ha hb he hf

theorem evalExpr_compare_arrays (i j o : Nat) :
    ∃ u, evalExpr ctx call scope (.compare .equal (.array [e] i) (.array [f] j) o) s =
      .ok (.bool (s.same a b)) u := by
  have hleft := evalExpr_array (.cons he .nil) (Session.extends_refl s) i
  have hright := evalExpr_array (.cons hf .nil) (Session.extends_newCell s (.array #[a])) j
  rw [evalExpr_compare hleft hright]
  refine ⟨(s.newCell (.array #[a])).newCell (.array #[b]), ?_⟩
  rw [comparison_equal_iff, ← Session.same_arrays_of_one hs ha hb]
  apply equals_eq_same
  rintro ⟨p, q, ⟨⟩, -⟩

theorem evalExpr_compare_objects (key : String) (i j o : Nat) :
    ∃ u, evalExpr ctx call scope
      (.compare .equal (.object [(key, e)] i) (.object [(key, f)] j) o) s =
        .ok (.bool (s.same a b)) u := by
  have hleft := evalExpr_object he (Session.extends_refl s) key i
  have hright := evalExpr_object hf (Session.extends_newCell s (.object [(key, a)])) key j
  rw [evalExpr_compare hleft hright]
  refine ⟨(s.newCell (.object [(key, a)])).newCell (.object [(key, b)]), ?_⟩
  rw [comparison_equal_iff, ← Session.same_objects_of_one hs key ha hb]
  apply equals_eq_same
  rintro ⟨p, q, ⟨⟩, -⟩

theorem evalExpr_contains (hname : s.lookup scope "contains" = none) (i o : Nat) :
    ∃ u, evalExpr ctx call scope (.call "contains" [.array [e] i, f] o) s =
      .ok (.bool (s.same a b)) u := by
  have hlater := Session.extends_newCell s (.array #[a])
  have hargs : evalList ctx call scope #[] [.array [e] i, f] s =
      .ok #[.array s.cells.size, b] (s.newCell (.array #[a])) := by
    have harray := evalExpr_array (.cons he .nil) (Session.extends_refl s) i
    have hrest := evalList_of_denotes (.cons hf .nil) hlater #[.array s.cells.size]
    rw [evalList, bind_of_ok harray]
    exact hrest
  refine ⟨s.newCell (.array #[a]), (evalExpr_call hname rfl hargs).trans ?_⟩
  show EStateM.Result.ok (Value.bool (((s.newCell (.array #[a])).items s.cells.size).toList.any
    fun item => (s.newCell (.array #[a])).same item b)) _ = _
  rw [Session.items_newCell, ← Session.same_newArray hs #[a] ha hb]
  simp

theorem evalExpr_unique (hname : s.lookup scope "unique" = none) (i o : Nat) :
    ∃ c u, evalExpr ctx call scope (.call "unique" [.array [e, f] i] o) s = .ok (.array c) u ∧
      ((u.items c).size = 1 ↔ s.same a b = true) := by
  have hargs : evalList ctx call scope #[] [.array [e, f] i] s =
      .ok #[.array s.cells.size] (s.newCell (.array #[a, b])) := by
    have harray := evalExpr_array (.cons he (.cons hf .nil)) (Session.extends_refl s) i
    rw [evalList, bind_of_ok harray, evalList]
    rfl
  refine ⟨_, _, evalExpr_call hname rfl hargs, ?_⟩
  rw [Session.items_newCell, Session.items_newCell, ← Session.same_newArray hs #[a, b] ha hb]
  cases h : (s.newCell (.array #[a, b])).same a b <;> simp [uniqueFrom, h]

end

theorem same_quantity (s : Session) (p q : Quantity) :
    s.same (.quantity p) (.quantity q) = p.sameValue q := by
  unfold Session.same
  cases s.nesting <;> rfl

/-- `==` and equality by content part where `==` finds quantities equal that are written in
different units, and there alone. -/
theorem equals_eq_same_iff {o : Nat} (hb : b.WellFormed) (hreads : b.ReadsExactly ctx.rates o) :
    equals ctx s a b o = s.same a b ↔
      (equals ctx s a b o = true →
        ∀ p q, a = .quantity p → b = .quantity q → p.dims = q.dims) := by
  by_cases hmeet : a.Commensurable b
  · obtain ⟨p, q, rfl, rfl, hpq⟩ := hmeet
    rw [same_quantity]
    by_cases hdims : p.dims = q.dims
    · have hexact : q.ConvertsExactly q.dims ctx.rates o := by
        cases hreading : q.dims.reading? with
        | none => exact Quantity.convertsExactly_self (Value.wellFormed_quantity.1 hb) hreading
        | some u => exact hreads q rfl (by rw [hreading]; rfl)
      refine iff_of_true ?_ ?_
      · rw [Bool.eq_iff_iff, equals_of_exact hpq (hdims ▸ hexact), Quantity.sameValue_iff,
          and_iff_left hdims, Quantity.toRat_eq_iff_standing hdims]
      · rintro - _ _ ⟨rfl⟩ ⟨rfl⟩
        exact hdims
    · have hsame : p.sameValue q = false := by
        rw [Bool.eq_false_iff]
        exact fun h => hdims (Quantity.sameValue_iff.1 h).2
      rw [hsame]
      constructor
      · intro hequals h
        rw [hequals] at h
        cases h
      · intro h
        rw [Bool.eq_false_iff]
        exact fun htrue => hdims (h htrue p q rfl rfl)
  · rw [equals_eq_same hmeet]
    refine iff_of_true rfl ?_
    rintro hsame p q rfl rfl
    rw [same_quantity] at hsame
    exact (Quantity.sameValue_iff.1 hsame).2

/-- Arrays and objects with one element, `contains` and `unique` compare values by their
content, whatever the rates.  `==` comes to the same unless it finds two quantities equal that
are written in different units; of a reading of a temperature this is said if it is converted
to its own unit exactly. -/
theorem elements_equal_by_content (hs : s.Orderly) (ha : a.Within s.cells.size)
    (hb : b.Within s.cells.size) (hunits : b.WellFormed) (he : Denotes ctx call scope s e a)
    (hf : Denotes ctx call scope s f b) (hcontains : s.lookup scope "contains" = none)
    (hunique : s.lookup scope "unique" = none) (key : String) (i j o : Nat) :
    let run (e : Expr) := evalExpr ctx call scope e s
    (∃ u, run (.compare .equal (.array [e] i) (.array [f] j) o) = .ok (.bool (s.same a b)) u) ∧
    (∃ u, run (.compare .equal (.object [(key, e)] i) (.object [(key, f)] j) o) =
      .ok (.bool (s.same a b)) u) ∧
    (∃ u, run (.call "contains" [.array [e] i, f] o) = .ok (.bool (s.same a b)) u) ∧
    (∃ c u, run (.call "unique" [.array [e, f] i] o) = .ok (.array c) u ∧
      ((u.items c).size = 1 ↔ s.same a b = true)) ∧
    ∃ r, run (.compare .equal e f o) = .ok (.bool r) s ∧
      (b.ReadsExactly ctx.rates o → (r = s.same a b ↔
        (r = true → ∀ p q, a = .quantity p → b = .quantity q → p.dims = q.dims))) := by
  intro run
  refine ⟨evalExpr_compare_arrays hs ha hb he hf i j o,
    evalExpr_compare_objects hs ha hb he hf key i j o,
    evalExpr_contains hs ha hb he hf hcontains i o,
    evalExpr_unique hs ha hb he hf hunique i o, equals ctx s a b o, ?_, equals_eq_same_iff hunits⟩
  exact evalExpr_compare (he s (Session.extends_refl s)) (hf s (Session.extends_refl s))

/-- Two objects that differ in the order of their keys. -/
theorem elements_equal_by_content_objects :
    let km := Value.quantity (.ofUnit .one .length "km")
    let es : Entries Value := [("far", km), ("near", .null)]
    let fs : Entries Value := [("near", .null), ("far", km)]
    let cells := (Session.empty.newCell (.object es)).newCell (.object fs)
    let s := (cells.bind 0 "x" (.object 0)).bind 0 "y" (.object 1)
    let ctx := Context.ofClock ⟨0, 0⟩ (.fixed 0)
    let call : Caller := fun _ _ _ => pure .null
    let run (e : Expr) := evalExpr ctx call 0 e s
    let x := Expr.name "x" 0
    let y := Expr.name "y" 0
    s.Orderly ∧
      (∃ u, run (.compare .equal (.array [x] 0) (.array [y] 0) 0) = .ok (.bool true) u) ∧
      (∃ u, run (.compare .equal (.object [("k", x)] 0) (.object [("k", y)] 0) 0) =
        .ok (.bool true) u) ∧
      (∃ u, run (.call "contains" [.array [x] 0, y] 0) = .ok (.bool true) u) ∧
      (∃ c u, run (.call "unique" [.array [x, y] 0] 0) = .ok (.array c) u ∧ (u.items c).size = 1) ∧
      run (.compare .equal x y 0) = .ok (.bool true) s := by
  intro km es fs cells s ctx call run x y
  have hnone : cells.All fun v => v.cell? = none := by
    refine ((Session.all_empty _).newCell ?_).newCell ?_
    · intro v hv
      rcases List.mem_pair.1 hv with rfl | rfl <;> rfl
    · intro v hv
      rcases List.mem_pair.1 hv with rfl | rfl <;> rfl
  have hdistinct : cells.KeysDistinct := by
    refine (Session.keysDistinct_empty.newCell ?_).newCell ?_
    · rintro _ ⟨rfl⟩
      decide
    · rintro _ ⟨rfl⟩
      decide
  have horderly : s.Orderly := by
    refine ⟨?_, ?_, Session.keysDistinct_of_cells_eq rfl hdistinct⟩
    · refine Session.All.bind (.bind (.newCell (.newCell (Session.all_empty _) ?_) ?_) ?_) ?_
      · intro v hv
        rcases List.mem_pair.1 hv with rfl | rfl <;>
          exact Value.within_of_not_applied (by simp) (by rintro _ ⟨⟩)
      · intro v hv
        rcases List.mem_pair.1 hv with rfl | rfl <;>
          exact Value.within_of_not_applied (by simp) (by rintro _ ⟨⟩)
      · exact Value.within_object.2 (by decide)
      · exact Value.within_object.2 (by decide)
    · exact Session.acyclic_of_flat fun c v hv => Session.All.cellValue (s := cells) hnone hv
  have hsame : s.same (.object 0) (.object 1) = true :=
    Session.same_of_entries_perm horderly.keysDistinct (by decide) (List.Perm.swap _ _ _)
  have hunits : (Value.object 1).WellFormed := by
    rintro q ⟨⟩
  have hx : Denotes ctx call 0 s x (.object 0) := denotes_name rfl 0
  have hy : Denotes ctx call 0 s y (.object 1) := denotes_name rfl 0
  obtain ⟨harrays, hobjects, hcontains, ⟨c, u, hunique, hsize⟩, r, hcompare, hr⟩ :=
    elements_equal_by_content horderly (Value.within_object.2 (by decide))
      (Value.within_object.2 (by decide)) hunits hx hy rfl rfl "k" 0 0 0
  have hrsame : r = s.same (.object 0) (.object 1) := by
    refine (hr ?_).2 ?_
    · rintro q ⟨⟩
    · rintro - p q ⟨⟩
  rw [hsame] at harrays hobjects hcontains hsize
  rw [hrsame, hsame] at hcompare
  exact ⟨horderly, harrays, hobjects, hcontains, ⟨c, u, hunique, hsize.2 rfl⟩, hcompare⟩

/-- One kilometre equals a thousand metres, but not as an element of an array or an object. -/
theorem elements_of_other_units :
    let ctx := Context.ofClock ⟨0, 0⟩ (.fixed 0)
    let call : Caller := fun _ _ _ => pure .null
    let run (e : Expr) := evalExpr ctx call 0 e .empty
    let x := Expr.number .one [⟨"km", 1⟩] 0
    let y := Expr.number (.ofNat 1000) [⟨"m", 1⟩] 0
    run (.compare .equal x y 0) = .ok (.bool true) .empty ∧
      (∃ u, run (.compare .equal (.array [x] 0) (.array [y] 0) 0) = .ok (.bool false) u) ∧
      (∃ u, run (.compare .equal (.object [("k", x)] 0) (.object [("k", y)] 0) 0) =
        .ok (.bool false) u) ∧
      (∃ u, run (.call "contains" [.array [x] 0, y] 0) = .ok (.bool false) u) ∧
      ∃ c u, run (.call "unique" [.array [x, y] 0] 0) = .ok (.array c) u ∧
        (u.items c).size ≠ 1 := by
  intro ctx call run x y
  have hwithin (q : Quantity) : (Value.quantity q).Within Session.empty.cells.size :=
    Value.within_of_not_applied (by simp) (by rintro _ ⟨⟩)
  have hx : Denotes ctx call 0 .empty x (.quantity (.ofUnit .one .length "km")) :=
    denotes_number rfl
  have hy : Denotes ctx call 0 .empty y (.quantity (.ofUnit (.ofNat 1000) .length "m")) :=
    denotes_number rfl
  have hsame : Session.empty.same (.quantity (.ofUnit .one .length "km"))
      (.quantity (.ofUnit (.ofNat 1000) .length "m")) = false := by
    decide +kernel
  have hempty := Session.extends_refl Session.empty
  obtain ⟨c, u, hunique, hsize⟩ :=
    evalExpr_unique Session.orderly_empty (hwithin _) (hwithin _) hx hy rfl 0 0
  refine ⟨?_, ?_, ?_, ?_, c, u, hunique, ?_⟩
  · refine (evalExpr_compare (hx _ hempty) (hy _ hempty)).trans (comparison_equal_iff.2 ?_)
    decide +kernel
  · exact hsame ▸ evalExpr_compare_arrays Session.orderly_empty (hwithin _) (hwithin _) hx hy 0 0 0
  · exact hsame ▸
      evalExpr_compare_objects Session.orderly_empty (hwithin _) (hwithin _) hx hy "k" 0 0 0
  · exact hsame ▸ evalExpr_contains Session.orderly_empty (hwithin _) (hwithin _) hx hy rfl 0 0
  · rw [hsame] at hsize
    exact fun h => Bool.false_ne_true (hsize.1 h)

end Eval

end Reckoner
