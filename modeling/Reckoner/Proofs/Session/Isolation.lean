import Reckoner.Evaluate
import Reckoner.Proofs.Session.Separate

/-!
# Names of the root share nothing

In every state that a session can come to, what is stored under a name of the
root is a tree, two names have no cell in common, and no cell contains itself.
So what `push`, `append`, `pop` and `set` do to a cell under one name is not
seen under another.

* `Session.Reaches` follows indices from a name to a cell.
* `Session.Reachable` is every state that sources, bindings by the host and
  removals can lead to, with values that the host makes in between.
* `reachable_isolated` is the statement.
-/

namespace Reckoner

/-- What a computation leaves behind, whether it succeeds or fails. -/
inductive EndsIn {α : Type} (m : EvalM α) (s t : Session) : Prop where
  | ok {x : α} (h : m s = .ok x t)
  | error {stop : Stop} (h : m s = .error stop t)

/-- The session that a computation leaves behind. -/
def sessionAfter {α : Type} (m : EvalM α) (s : Session) : Session :=
  match m s with
  | .ok _ t => t
  | .error _ t => t

theorem endsIn_sessionAfter {α : Type} (m : EvalM α) (s : Session) :
    EndsIn m s (sessionAfter m s) := by
  unfold sessionAfter
  split
  · exact .ok ‹_›
  · exact .error ‹_›

/-- What keeps a discipline leaves a session of it behind. -/
theorem Discipline.holds_of_endsIn {D : Discipline} {α : Type} {m : EvalM α} {sc : Option Nat}
    {s t : Session} {Q : Session → α → Prop} (hm : D.Keeps sc s m Q) (h : EndsIn m s t) :
    D.Holds t := by
  unfold Discipline.Keeps at hm
  cases h with
  | ok h =>
    rw [h] at hm
    cases hm with
    | ok step _ => exact step.holds
  | error h =>
    rw [h] at hm
    cases hm with
    | error step _ => exact step.holds

namespace Session

/-- The cell `c` is reached from a name of the root by a path of indices, the
last index first. -/
inductive Reaches (s : Session) (name : String) : List Nat → Nat → Prop where
  | name {v : Value} {c : Nat} (hv : s.get? name = some v) (hc : v.cell? = some c) :
    Reaches s name [] c
  | item {path : List Nat} {c i d : Nat} (h : Reaches s name path c) (hd : s.Slot c i d) :
    Reaches s name (i :: path) d

/-- The states that a session comes to.  Between the other steps the host may
make values of its own, in new cells, as long as none contains itself. -/
inductive Reachable : Session → Prop where
  | empty : Reachable empty
  | evaluate {ctx : Context} {source : String} {s t : Session} (hs : Reachable s)
    (h : EndsIn (evaluate ctx source) s t) : Reachable t
  | set {name : String} {v : Value} {s t : Session} (hs : Reachable s)
    (hv : v.Within s.cells.size) (h : EndsIn (set name v) s t) : Reachable t
  | remove {name : String} {s : Session} (hs : Reachable s) : Reachable (s.remove name)
  | adopt {s t : Session} (hs : Reachable s) (h : Extends none s t)
    (hwithin : t.All (Value.Within t.cells.size)) (hacyclic : t.Acyclic) : Reachable t

variable {r : Nat} {s t : Session}

/-! ## One way to a cell -/

/-- The root has no scope around it. -/
theorem Separate.get?_eq (hs : Separate r s) (name : String) :
    s.get? name = (s.bindings r).find? name := by
  obtain ⟨names, hnames⟩ := hs.root_scope
  have hlt : r < s.scopes.size := (Array.getElem?_eq_some_iff.1 hnames).1
  obtain ⟨steps, hsteps⟩ : ∃ steps, s.scopes.size = steps + 1 := ⟨s.scopes.size - 1, by omega⟩
  rw [get?, hs.root_eq, lookup, hsteps, lookupFrom, hnames, bindings, hnames]
  dsimp only
  cases names.find? name <;> rfl

/-- Two indices of one list with the same handle. -/
theorem index_eq_of_nodup {vs : List Value} (h : (Value.handles vs).Nodup) {i j d : Nat}
    {v w : Value} (hi : vs[i]? = some v) (hj : vs[j]? = some w) (hv : v.cell? = some d)
    (hw : w.cell? = some d) : i = j := by
  induction vs generalizing i j with
  | nil => simp at hi
  | cons u vs ih =>
    rw [Value.handles_cons, Multiset.nodup_add] at h
    have hhead {u' : Value} {k : Nat} (hu : u.cell? = some d) (hk : vs[k]? = some u')
        (hu' : u'.cell? = some d) : False := by
      refine Multiset.disjoint_left.1 h.2.2 (Value.mem_handles.2 ⟨u, List.mem_singleton_self u, hu⟩)
        (Value.mem_handles.2 ⟨u', List.mem_of_getElem? hk, hu'⟩)
    cases i with
    | zero =>
      cases hi
      cases j with
      | zero => rfl
      | succ j => exact (hhead hv hj hw).elim
    | succ i =>
      cases j with
      | zero =>
        cases hj
        exact (hhead hw hi hv).elim
      | succ j => exact congrArg (· + 1) (ih h.2.1 hi hj)

/-- Two names with the same handle. -/
theorem key_eq_of_nodup {entries : Entries Value} (h : (Value.handles entries.values).Nodup)
    {x y : String} {d : Nat} {v w : Value} (hx : entries.find? x = some v)
    (hy : entries.find? y = some w) (hv : v.cell? = some d) (hw : w.cell? = some d) : x = y := by
  induction entries with
  | nil => cases hx
  | cons entry rest ih =>
    rcases entry with ⟨key, u⟩
    have hsplit : (Value.handles [u] + Value.handles (Entries.values rest)).Nodup := by
      rw [← Value.handles_cons]
      exact h
    rw [Multiset.nodup_add] at hsplit
    have hhead {u' : Value} {name : String} (hu : u.cell? = some d)
        (hname : Entries.find? rest name = some u') (hu' : u'.cell? = some d) : False :=
      Multiset.disjoint_left.1 hsplit.2.2
        (Value.mem_handles.2 ⟨u, List.mem_singleton_self u, hu⟩)
        (Value.mem_handles.2 ⟨u', Entries.mem_values_of_find? hname, hu'⟩)
    rw [Entries.find?, List.lookup_cons] at hx hy
    split at hx <;> split at hy
    · rw [beq_iff_eq.1 ‹(x == key) = true›, beq_iff_eq.1 ‹(y == key) = true›]
    · cases hx
      exact (hhead hv hy hw).elim
    · cases hy
      exact (hhead hw hx hv).elim
    · exact ih hsplit.2.1 hx hy

section

variable {owned : Finset Nat} {x y : String} {p q : List Nat} {c d : Nat}

theorem Owns.nodup (h : Owns r s owned) :
    (s.scopeHandles r + ∑ c ∈ owned, s.handles c).Nodup :=
  Multiset.nodup_of_le h.sum_le owned.nodup

/-- What stands in a cell of the root stands in no other one. -/
theorem Owns.eq_of_mem (h : Owns r s owned) (hc : c ∈ owned) (hd : d ∈ owned) {e : Nat}
    (hce : e ∈ s.handles c) (hde : e ∈ s.handles d) : c = d := by
  by_contra hne
  have hnodup := (Multiset.nodup_add.1 h.nodup).2.1
  rw [← Finset.add_sum_erase owned s.handles hc] at hnodup
  refine Multiset.disjoint_left.1 (Multiset.nodup_add.1 hnodup).2.2 hce ?_
  have hle : s.handles d ≤ ∑ d ∈ owned.erase c, s.handles d :=
    Finset.single_le_sum_of_canonicallyOrdered (Finset.mem_erase.2 ⟨fun heq => hne heq.symm, hd⟩)
  exact Multiset.mem_of_le hle hde

theorem Owns.handles_nodup (h : Owns r s owned) (hc : c ∈ owned) : (s.handles c).Nodup :=
  Multiset.nodup_of_le (Finset.single_le_sum_of_canonicallyOrdered hc)
    (Multiset.nodup_add.1 h.nodup).2.1

theorem Owns.mem_of_mem (h : Owns r s owned) (hc : c ∈ owned) (hd : d ∈ s.handles c) :
    d ∈ owned := by
  refine Multiset.mem_of_le h.sum_le (Multiset.mem_add.2 (.inr ?_))
  exact Multiset.mem_of_le (Finset.single_le_sum_of_canonicallyOrdered hc) hd

/-- A name of the root has a handle of the root. -/
theorem Separate.mem_scopeHandles (hs : Separate r s) {v : Value} (hv : s.get? x = some v)
    (hc : v.cell? = some c) : c ∈ s.scopeHandles r := by
  rw [hs.get?_eq] at hv
  exact Value.mem_handles.2 ⟨v, Entries.mem_values_of_find? hv, hc⟩

theorem Separate.mem_of_reaches (hs : Separate r s) (howned : Owns r s owned)
    (h : s.Reaches x p c) : c ∈ owned := by
  induction h with
  | name hv hc =>
    exact Multiset.mem_of_le howned.sum_le (Multiset.mem_add.2 (.inl (hs.mem_scopeHandles hv hc)))
  | item _ hd ih => exact howned.mem_of_mem ih (mem_handles.2 ⟨_, hd⟩)

/-- A handle under a name of the root stands in no cell of the root. -/
theorem Separate.not_name_and_slot (hs : Separate r s) (howned : Owns r s owned) {v : Value}
    (hv : s.get? x = some v) (hd : v.cell? = some d) (hc : c ∈ owned) (hcd : d ∈ s.handles c) :
    False := by
  refine Multiset.disjoint_left.1 (Multiset.nodup_add.1 howned.nodup).2.2
    (hs.mem_scopeHandles hv hd) ?_
  exact Multiset.mem_of_le (Finset.single_le_sum_of_canonicallyOrdered hc) hcd

/-- A cell is reached from at most one name, and in one way. -/
theorem Separate.reaches_unique (hs : Separate r s) (hp : s.Reaches x p c)
    (hq : s.Reaches y q c) : x = y ∧ p = q := by
  obtain ⟨owned, howned⟩ := hs.owned
  induction hp generalizing q with
  | name hv hd =>
    cases hq with
    | name hw he =>
      rw [hs.get?_eq] at hv hw
      exact ⟨key_eq_of_nodup (Multiset.nodup_add.1 howned.nodup).1 hv hw hd he, rfl⟩
    | item hc hslot =>
      exact (hs.not_name_and_slot howned hv hd (hs.mem_of_reaches howned hc)
        (mem_handles.2 ⟨_, hslot⟩)).elim
  | item hc hslot ih =>
    have hcmem := hs.mem_of_reaches howned hc
    cases hq with
    | name hw he =>
      exact (hs.not_name_and_slot howned hw he hcmem (mem_handles.2 ⟨_, hslot⟩)).elim
    | item hc' hslot' =>
      have heq := howned.eq_of_mem hcmem (hs.mem_of_reaches howned hc')
        (mem_handles.2 ⟨_, hslot⟩) (mem_handles.2 ⟨_, hslot'⟩)
      subst heq
      obtain ⟨v, hi, hv⟩ := hslot
      obtain ⟨w, hj, hw⟩ := hslot'
      have hindex := index_eq_of_nodup (howned.handles_nodup hcmem) hi hj hv hw
      obtain ⟨hname, hpath⟩ := ih hc'
      exact ⟨hname, by rw [hindex, hpath]⟩

end

/-! ## Reachable states -/

/-- Values of the host are temporary. -/
theorem Separate.adopt (hs : Separate r s) (h : Extends none s t)
    (hwithin : t.All (Value.Within t.cells.size)) (hacyclic : t.Acyclic) : Separate r t where
  root_eq := h.root_eq.trans hs.root_eq
  root_scope := by
    rw [h.scopes_eq]
    exact hs.root_scope
  all_within := hwithin
  ranked := hacyclic.exists_ranked hwithin
  owned := by
    obtain ⟨owned, howned⟩ := hs.owned
    refine ⟨owned, fun c hc => (howned.lt_size c hc).trans_le h.size_le, ?_⟩
    have hsum : ∑ c ∈ owned, t.handles c = ∑ c ∈ owned, s.handles c :=
      Finset.sum_congr rfl fun c hc => h.handles_eq (howned.lt_size c hc)
        (Option.some_ne_none c).symm
    rw [Separate.scopeHandles_eq_of_extends h, hsum]
    exact howned.sum_le

theorem Reachable.separate (h : Reachable s) : Separate 0 s := by
  induction h with
  | empty => exact separate_empty
  | evaluate _ h ih =>
    refine Discipline.holds_of_endsIn (Discipline.keeps_evaluate (separation_lawful 0) ?_ ih ?_ ?_) h
    · exact fun _ _ _ _ hunits => hunits.elim
    · exact fun e _ => Expr.every_of_forall (fun _ => trivial) e
    · exact fun _ _ => ⟨trivial, fun hknown => hknown.elim⟩
  | @set name v s t _ hv h ih =>
    cases h with
    | ok h =>
      cases h
      exact ih.withBinding s.root name hv
    | error h => cases h
  | @remove name s _ ih =>
    rw [Session.remove, ih.root_eq]
    exact ih.unbind name
  | adopt _ h hwithin hacyclic ih => exact ih.adopt h hwithin hacyclic

end Session

/-! ## Changes of one cell -/

section

variable {α : Type} {m : EvalM α} {s t u : Session} {c : Nat}

theorem EndsIn.eq_of_ok {x : α} (h : EndsIn m s t) (hm : m s = .ok x u) : t = u := by
  cases h with
  | ok h => exact (EStateM.Result.ok.inj (h.symm.trans hm)).2
  | error h => cases h.symm.trans hm

theorem EndsIn.eq_of_error {stop : Stop} (h : EndsIn m s t) (hm : m s = .error stop u) :
    t = u := by
  cases h with
  | ok h => cases h.symm.trans hm
  | error h => exact (EStateM.Result.error.inj (h.symm.trans hm)).2

/-- A computation that fails before it changes anything. -/
theorem EndsIn.extends_of_error {stop : Stop} (h : EndsIn m s t) (hm : m s = .error stop s) :
    Session.Extends (some c) s t := by
  rw [h.eq_of_error hm]
  exact ⟨le_rfl, fun _ _ _ => rfl, rfl, rfl⟩

end

namespace Eval

open Session

variable {s t : Session} {v : Value} {c : Nat} {offset : Nat}

theorem push_array (c : Nat) (more : List Value) (s : Session) :
    push (.array c) more offset s = .ok (.array c) (s.withItems c more) := by
  show (more.mapM copy >>= _ : EvalM Value) s = _
  rw [bind_of_ok (Discipline.mapM_copy more)]
  rfl

theorem extends_push {more : List Value} (hc : v.cell? = some c)
    (h : EndsIn (push v more offset) s t) : Extends (some c) s t := by
  cases v with
  | array d =>
    cases hc
    rw [h.eq_of_ok (push_array c more s)]
    exact (extends_copyList more s).setCell c _
  | object d => exact h.extends_of_error rfl
  | _ => cases hc

theorem extends_pop (hc : v.cell? = some c) (h : EndsIn (pop v offset) s t) :
    Extends (some c) s t := by
  cases v with
  | array d =>
    cases hc
    have hrun : pop (.array c) offset s =
        .ok ((s.items c).back?.getD .null) (s.withoutLast c) := rfl
    rw [h.eq_of_ok hrun]
    exact (extends_refl s).setCell c _
  | object d => exact h.extends_of_error rfl
  | _ => cases hc

theorem extends_put {key w : Value} (hc : v.cell? = some c)
    (h : EndsIn (put v key w offset) s t) : Extends (some c) s t := by
  cases v with
  | array d => exact h.extends_of_error rfl
  | object d =>
    cases hc
    cases hkey : key.asKey offset with
    | error e =>
      have hrun : put (.object c) key w offset s = .error (.fault e) s := by
        show EStateM.bind (liftM (key.asKey offset)) _ s = _
        rw [hkey]
        rfl
      exact h.extends_of_error hrun
    | ok k =>
      have hrun : put (.object c) key w offset s = .ok (.object c) (s.withEntry c k w) := by
        show EStateM.bind (liftM (key.asKey offset)) _ s = _
        rw [hkey]
        rfl
      rw [h.eq_of_ok hrun]
      exact (extends_copyTo _ w s).setCell c _
  | _ => cases hc

/-- Of the cells that are there, these functions change that of their first
argument alone. -/
theorem extends_callBuiltin {ctx : Context} {call : Caller} {b : Builtin}
    (hb : b ∈ [Builtin.push, .append, .pop, .put]) {args : List Value} (hc : v.cell? = some c)
    (h : EndsIn (callBuiltin ctx call b (v :: args) offset) s t) : Extends (some c) s t := by
  unfold callBuiltin at h
  split at h
  · simp only [List.mem_cons, List.not_mem_nil, or_false] at hb
    rcases hb with rfl | rfl | rfl | rfl
    · exact extends_push hc h
    · exact extends_push hc h
    · cases args with
      | nil => exact extends_pop hc h
      | cons w rest => exact h.extends_of_error rfl
    · match args, h with
      | [key, w], h => exact extends_put hc h
      | [], h => exact h.extends_of_error rfl
      | [_], h => exact h.extends_of_error rfl
      | _ :: _ :: _ :: _, h => exact h.extends_of_error rfl
  · exact h.extends_of_error rfl

end Eval

namespace Session

variable {s t : Session} {x y : String} {p q : List Nat} {c d : Nat}

theorem Extends.get?_eq (h : Extends (some c) s t) (name : String) :
    t.get? name = s.get? name := by
  rw [get?, lookup, h.scopes_eq, h.root_eq, get?, lookup]

/-- A cell under one name is not the cell that changes under another. -/
theorem Separate.cell_eq (hs : Separate 0 s) (hx : s.Reaches x p c) (hyx : y ≠ x)
    (h : Extends (some c) s t) (hy : s.Reaches y q d) : t.cells[d]? = s.cells[d]? := by
  obtain ⟨owned, howned⟩ := hs.owned
  refine h.cell_eq d (howned.lt_size d (hs.mem_of_reaches howned hy)) fun hcd => hyx ?_
  cases hcd
  exact (hs.reaches_unique hy hx).1

theorem Separate.reaches_iff (hs : Separate 0 s) (hx : s.Reaches x p c) (hyx : y ≠ x)
    (h : Extends (some c) s t) : t.Reaches y q d ↔ s.Reaches y q d := by
  have hslot {e i d : Nat} {q : List Nat} (he : s.Reaches y q e) :
      t.Slot e i d ↔ s.Slot e i d := by
    rw [Slot, cellValues, hs.cell_eq hx hyx h he]
    rfl
  constructor
  · intro hd
    induction hd with
    | name hv hc => exact .name (h.get?_eq y ▸ hv) hc
    | item _ hd ih => exact .item ih ((hslot ih).1 hd)
  · intro hd
    induction hd with
    | name hv hc => exact .name (h.get?_eq y ▸ hv) hc
    | item he hd ih => exact .item ih ((hslot he).2 hd)

end Session

/-! ## Isolation -/

/-- In every state of a session no array or object contains itself, every cell
is reached from at most one name of the root and in one way only, and a change
of what is under one name leaves alone what is read under the others. -/
theorem reachable_isolated {s : Session} (hs : s.Reachable) :
    s.Acyclic ∧
    (∀ x y p q c, s.Reaches x p c → s.Reaches y q c → x = y ∧ p = q) ∧
    ∀ b ∈ [Builtin.push, .append, .pop, .put], ∀ ctx call v args offset x p c t,
      v.cell? = some c → s.Reaches x p c →
      EndsIn (Eval.callBuiltin ctx call b (v :: args) offset) s t → ∀ y, y ≠ x →
        t.get? y = s.get? y ∧
        ∀ q d, (t.Reaches y q d ↔ s.Reaches y q d) ∧
          (s.Reaches y q d → t.cells[d]? = s.cells[d]?) := by
  have hseparate := hs.separate
  refine ⟨?_, fun x y p q c hp hq => hseparate.reaches_unique hp hq, ?_⟩
  · obtain ⟨rank, hrank⟩ := hseparate.ranked
    exact hrank.acyclic
  · intro b hb ctx call v args offset x p c t hc hx hend y hyx
    have hlater := Eval.extends_callBuiltin hb hc hend
    exact ⟨hlater.get?_eq y, fun q d => ⟨hseparate.reaches_iff hx hyx hlater,
      fun hy => hseparate.cell_eq hx hyx hlater hy⟩⟩

/-- After `a = [[1]]` and `b = a`, a push to `a` is not seen in `b`. -/
theorem reachable_isolated_assigned :
    let ctx := Context.ofClock ⟨0, 0⟩ (.fixed 0)
    let s := sessionAfter (evaluate ctx "b = a") (sessionAfter (evaluate ctx "a = [[1]]") .empty)
    s.Reachable ∧ s.Reaches "a" [] 3 ∧ s.Reaches "b" [] 5 ∧ s.Acyclic ∧
      (∀ x p, s.Reaches x p 5 → x = "b" ∧ p = []) ∧
      ∀ call t, EndsIn (Eval.callBuiltin ctx call .push [.array 3, .null] 0) s t →
        t.get? "b" = s.get? "b" ∧ t.cells[5]? = s.cells[5]? := by
  intro ctx s
  have hs : s.Reachable :=
    .evaluate (.evaluate .empty (endsIn_sessionAfter _ _)) (endsIn_sessionAfter _ _)
  have hreaches {x : String} {c : Nat} (h : (s.get? x).bind Value.cell? = some c) :
      s.Reaches x [] c := by
    obtain ⟨v, hv, hc⟩ := Option.bind_eq_some_iff.1 h
    exact .name hv hc
  have ha : s.Reaches "a" [] 3 := hreaches (by decide +kernel)
  have hb : s.Reaches "b" [] 5 := hreaches (by decide +kernel)
  obtain ⟨hacyclic, hunique, hchange⟩ := reachable_isolated hs
  refine ⟨hs, ha, hb, hacyclic, fun x p h => hunique x "b" p [] 5 h hb, fun call t h => ?_⟩
  obtain ⟨hget, hcells⟩ :=
    hchange .push (by decide) ctx call (.array 3) [.null] 0 "a" [] 3 t rfl ha h "b" (by decide)
  exact ⟨hget, (hcells [] 5).2 hb⟩

end Reckoner
