import Reckoner.Proofs.Callback.Groups
import Reckoner.Proofs.Session.Isolation

/-!
# Objects record insertions

No session ever holds an object with a key twice.  Wherever an object comes from, its keys
stand in the order in which they were first inserted, each with the value that was inserted
last.

* `Session.Arises`: the sessions that evaluation and the host lead to, and that no object has
  a key twice in them (`Arises.keysDistinct`).
* `insertFrom_eq_mapM`: literals and external objects insert values one after the other.
* `Puts.records`: so does `set`, with a step for one call.
* `find?_reverse_flatMap`: the last object that holds a key wins.
* `objects_record_insertions` is the statement.
-/

namespace Reckoner

open Eval

namespace Session

/-- The sessions that arise: through evaluation of any part of a source, calls, and what the host
does.  The host may make and change arrays, insert into objects, and go on with the scopes of
another environment. -/
inductive Arises : Session → Prop where
  | empty : Arises empty
  | evaluate {ctx : Context} {source : String} {s t : Session} (hs : Arises s)
    (h : EndsIn (Reckoner.evaluate ctx source) s t) : Arises t
  | expression {ctx : Context} {bound scope : Nat} {e : Expr} {s t : Session} (hs : Arises s)
    (h : EndsIn (evalExpr ctx (callValue ctx bound) scope e) s t) : Arises t
  | builtin {ctx : Context} {bound o : Nat} {b : Builtin} {args : List Value} {s t : Session}
    (hs : Arises s) (h : EndsIn (callBuiltin ctx (callValue ctx bound) b args o) s t) : Arises t
  | call {ctx : Context} {bound o : Nat} {f : Value} {args : List Value} {s t : Session}
    (hs : Arises s) (h : EndsIn (callValue ctx bound f args o) s t) : Arises t
  | set {name : String} {v : Value} {s t : Session} (hs : Arises s)
    (h : EndsIn (Session.set name v) s t) : Arises t
  | remove {name : String} {s : Session} (hs : Arises s) : Arises (s.remove name)
  | newArray {items : Array Value} {s : Session} (hs : Arises s) :
    Arises (s.newCell (.array items))
  | newObject {insertions : List (String × Value)} {s : Session} (hs : Arises s) :
    Arises (s.newCell (.object (Entries.insertAll [] insertions)))
  | setItems {c : Nat} {items : Array Value} {s : Session} (hs : Arises s) :
    Arises (s.setCell c (.array items))
  | insert {c : Nat} {key : String} {v : Value} {s : Session} (hs : Arises s) :
    Arises (s.setCell c (.object ((s.entries c).insert key v)))
  | scopes {s t : Session} (hs : Arises s) (h : t.cells = s.cells) : Arises t

variable {s t u : Session}

/-! ## No key comes twice -/

theorem Arises.keysDistinct (h : Arises s) : s.KeysDistinct := by
  have hctx (ctx : Context) : keying.FitsContext ctx := fun _ _ _ _ h => h.elim
  have hcalls (ctx : Context) (bound : Nat) : keying.Calls (callValue ctx bound) :=
    Discipline.calls_callValue keying_lawful (hctx ctx) bound
  have hnode (e : Expr) : e.Every keying.FitsNode := Expr.every_of_forall (fun _ => trivial) e
  induction h with
  | empty => exact keysDistinct_empty
  | @evaluate ctx source s t _ h ih =>
    exact Discipline.holds_of_endsIn
      (Discipline.keeps_evaluate keying_lawful (hctx ctx) ih (fun e _ => hnode e)
        fun _ _ => ⟨trivial, fun h => h.elim⟩) h
  | @expression ctx bound scope e s t _ h ih =>
    exact Discipline.holds_of_endsIn
      (Discipline.keeps_evalExpr keying_lawful (hctx ctx) (hcalls ctx bound) scope ih e (hnode e)) h
  | @builtin ctx bound o b args s t _ h ih =>
    exact Discipline.holds_of_endsIn
      (Discipline.keeps_callBuiltin keying_lawful (hcalls ctx bound) trivial ih trivial
        fun _ _ => trivial) h
  | @call ctx bound o f args s t _ h ih =>
    exact Discipline.holds_of_endsIn (hcalls ctx bound ih trivial (fun _ _ => trivial) trivial) h
  | @set name v s t _ h ih =>
    cases h with
    | ok h =>
      cases h
      exact keysDistinct_of_cells_eq rfl (ih.copyTo _ v)
    | error h => cases h
  | @remove name s _ ih => exact keysDistinct_of_cells_eq rfl ih
  | newArray _ ih => exact ih.newCell fun _ h => by cases h
  | @newObject insertions s _ ih =>
    refine ih.newCell fun es h => ?_
    obtain rfl := Cell.object.inj h
    exact Entries.nodup_keys_insertAll _ Entries.nodup_keys_nil
  | setItems _ ih => exact ih.setCell _ fun _ h => by cases h
  | @insert c key v s _ ih =>
    refine ih.setCell c fun es h => ?_
    obtain rfl := Cell.object.inj h
    exact Entries.nodup_keys_insert (ih c)
  | scopes _ h ih => exact keysDistinct_of_cells_eq h ih

/-! ## Values inserted one after the other -/

/-- Reading values and inserting each under its key is the same as reading all of them first. -/
theorem insertFrom_eq_mapM {γ : Type} {read : γ → EvalM Value}
    {insertFrom : Entries Value → List (String × γ) → EvalM (Entries Value)}
    (hnil : ∀ done, insertFrom done [] = pure done)
    (hcons : ∀ done key x rest, insertFrom done ((key, x) :: rest) =
      read x >>= fun v => insertFrom (done.insert key v) rest)
    (done : Entries Value) (es : List (String × γ)) :
    insertFrom done es =
      (es.map (·.2)).mapM read >>= fun vs => pure (done.insertAll ((es.map (·.1)).zip vs)) := by
  induction es generalizing done with
  | nil => exact hnil done
  | cons entry rest ih =>
    obtain ⟨key, x⟩ := entry
    rw [hcons, List.map_cons, List.mapM_cons, bind_assoc]
    refine bind_congr fun v => ?_
    rw [ih, bind_assoc]
    refine bind_congr fun vs => ?_
    rw [pure_bind]
    rfl

theorem evalEntries_eq_mapM (ctx : Context) (call : Caller) (scope : Nat)
    (es : List (String × Expr)) :
    evalEntries ctx call scope [] es =
      (es.map (·.2)).mapM (evalExpr ctx call scope) >>= fun vs =>
        pure (Entries.insertAll [] ((es.map (·.1)).zip vs)) :=
  insertFrom_eq_mapM (fun done => by rw [evalEntries]) (fun done key e rest => by rw [evalEntries])
    [] es

theorem ofJsonEntries_eq_mapM (es : List (String × Json)) :
    ofJsonEntries [] es =
      (es.map (·.2)).mapM ofJson >>= fun vs =>
        pure (Entries.insertAll [] ((es.map (·.1)).zip vs)) :=
  insertFrom_eq_mapM (fun done => by rw [ofJsonEntries])
    (fun done key j rest => by rw [ofJsonEntries]) [] es

/-- A new object with values that are read first. -/
theorem records_of_newObject_ok {γ : Type} {read : γ → EvalM Value} {es : List (String × γ)}
    {v : Value}
    (h : ((es.map (·.2)).mapM read >>= fun vs =>
      newObject (Entries.insertAll [] ((es.map (·.1)).zip vs))) s = .ok v t) :
    ∃ vs u c, (es.map (·.2)).mapM read s = .ok vs u ∧ v = .object c ∧
      (t.entries c).Records ((es.map (·.1)).zip vs) := by
  cases hread : (es.map (·.2)).mapM read s with
  | error stop u =>
    rw [bind_of_error hread] at h
    cases h
  | ok vs u =>
    rw [bind_of_ok hread] at h
    cases h
    refine ⟨vs, u, _, rfl, rfl, ?_⟩
    rw [entries_newCell]
    exact Entries.records_insertAll _

/-! ## Calls of `set` -/

theorem entries_setCell {c : Nat} (hc : c < s.cells.size) (es : Entries Value) :
    (s.setCell c (.object es)).entries c = es := by
  simp [entries, Session.setCell, hc]

theorem put_of_key {ctx : Context} {call : Caller} {c o : Nat} {key v w : Value} {k : String}
    (hkey : key.asKey o = .ok k)
    (h : callBuiltin ctx call .put [.object c, key, v] o s = .ok w t) :
    t = (Session.copy v s).2.setCell c
      (.object (((Session.copy v s).2.entries c).insert k (Session.copy v s).1)) := by
  have hlift : (liftM (key.asKey o) : EvalM String) s = .ok k s := by
    rw [hkey]
    rfl
  have hrun := (bind_of_ok hlift).symm.trans h
  cases hrun
  rfl

/-- Calls of `set` on an object, with whatever happens to other cells in between, and what they
insert. -/
inductive Puts (ctx : Context) (call : Caller) (c : Nat) :
    Session → List (String × Value) → Session → Prop where
  | nil {s : Session} : Puts ctx call c s [] s
  | put {s u t : Session} {o : Nat} {key v w : Value} {k : String}
    {rest : List (String × Value)} (hkey : key.asKey o = .ok k)
    (h : callBuiltin ctx call .put [.object c, key, v] o s = .ok w u)
    (hrest : Puts ctx call c u rest t) :
    Puts ctx call c s ((k, (Session.copy v s).1) :: rest) t
  | other {s u t : Session} {insertions : List (String × Value)}
    (hsize : s.cells.size ≤ u.cells.size) (h : u.entries c = s.entries c)
    (hrest : Puts ctx call c u insertions t) : Puts ctx call c s insertions t

/-- One call inserts one entry. -/
theorem put_records {ctx : Context} {call : Caller} {c o : Nat} {key v w : Value} {k : String}
    {done : List (String × Value)} (hc : c < s.cells.size) (hkey : key.asKey o = .ok k)
    (h : callBuiltin ctx call .put [.object c, key, v] o s = .ok w t)
    (hs : (s.entries c).Records done) :
    (t.entries c).Records (done ++ [(k, (Session.copy v s).1)]) ∧ c < t.cells.size := by
  have hcopy : Extends none s (Session.copy v s).2 := extends_copyTo _ v s
  have hlt : c < (Session.copy v s).2.cells.size := hc.trans_le hcopy.size_le
  rw [put_of_key hkey h, entries_setCell hlt, hcopy.entries_eq hc]
  refine ⟨hs.insert k _, ?_⟩
  simpa [Session.setCell] using hlt

theorem Puts.records {ctx : Context} {call : Caller} {c : Nat}
    {done insertions : List (String × Value)} (h : Puts ctx call c s insertions t)
    (hc : c < s.cells.size) (hs : (s.entries c).Records done) :
    (t.entries c).Records (done ++ insertions) := by
  induction h generalizing done with
  | nil =>
    rw [List.append_nil]
    exact hs
  | put hkey h _ ih =>
    obtain ⟨hrecords, hlt⟩ := put_records hc hkey h hs
    rw [List.append_cons]
    exact ih hlt hrecords
  | other hsize h _ ih => exact ih (hc.trans_le hsize) (h ▸ hs)

/-! ## Merging -/

/-- The last value of a key in entries put together is that in the last of them that have it. -/
theorem find?_reverse_flatMap {α γ : Type} {entries : γ → Entries α}
    (hnodup : ∀ x, (entries x).keys.Nodup) (xs : List γ) (key : String) :
    Entries.find? (xs.flatMap entries).reverse key =
      xs.reverse.findSome? fun x => (entries x).find? key := by
  induction xs using List.reverseRecOn with
  | nil => rfl
  | append_singleton xs x ih =>
    rw [List.flatMap_append, List.flatMap_singleton, List.reverse_append, List.reverse_append,
      List.reverse_singleton, List.singleton_append, List.findSome?_cons, Entries.find?,
      List.lookup_append, ← ih]
    have hself := (Entries.records_self (hnodup x)).find?_eq key
    rw [← Entries.find?, ← hself, ← Entries.find?]
    cases (entries x).find? key <;> rfl

theorem mergeEntries_objects (o : Nat) (merged : Entries Value) (cs : List Nat) :
    mergeEntries o merged (cs.map .object) s =
      .ok (merged.insertAll (cs.flatMap s.entries)) s := by
  induction cs generalizing merged with
  | nil => rfl
  | cons c cs ih =>
    have hread : entriesOf (.object c) o s = .ok (s.entries c) s := rfl
    rw [List.map_cons, mergeEntries, bind_of_ok hread, ih, List.flatMap_cons, Entries.insertAll,
      Entries.insertAll, Entries.insertAll, List.foldl_append]

theorem merge_run {cs : List Nat} (hcs : cs ≠ []) (ctx : Context) (call : Caller) (o : Nat) :
    callBuiltin ctx call .merge (cs.map .object) o s =
      .ok (.object s.cells.size)
        (s.newCell (.object (Entries.insertAll [] (cs.flatMap s.entries)))) := by
  have harity : Builtin.merge.arity.allows (cs.map Value.object).length = true := by
    cases cs with
    | nil => exact absurd rfl hcs
    | cons c cs => rw [List.length_map, List.length_cons]; simp [Builtin.arity, Arity.allows]
  rw [callBuiltin, if_pos harity]
  exact bind_of_ok (mergeEntries_objects o [] cs)

/-! ## Copies -/

/-- The values of a copy are the copies of the values, in a session that may have grown. -/
def IsCopy (n : Nat) (s : Session) (v w : Value) : Prop :=
  ∃ u, Extends none s u ∧ (copyTo n v u).1 = w

theorem forall₂_copyListTo (n : Nat) (vs : List Value) (h : Extends none s u) :
    List.Forall₂ (IsCopy n s) vs (copyListTo n vs u).1 := by
  induction vs generalizing u with
  | nil => exact .nil
  | cons v vs ih => exact .cons ⟨u, h, rfl⟩ (ih (h.trans (extends_copyTo n v u)))

theorem find?_zip {α : Type} {R : α → α → Prop} {es : Entries α} {ws : List α}
    (h : List.Forall₂ R es.values ws) {key : String} {v : α} (hv : es.find? key = some v) :
    ∃ w, Entries.find? (es.keys.zip ws) key = some w ∧ R v w := by
  induction es generalizing ws with
  | nil => cases hv
  | cons entry rest ih =>
    obtain ⟨k, x⟩ := entry
    cases h with
    | @cons _ w _ ws hxw hrest =>
      rw [Entries.find?, List.lookup_cons] at hv
      by_cases hkey : key = k
      · rw [beq_iff_eq.2 hkey] at hv
        cases hv
        refine ⟨w, ?_, hxw⟩
        rw [hkey]
        exact List.lookup_cons_self
      · rw [beq_eq_false_iff_ne.2 hkey] at hv
        obtain ⟨w', hw', hvw'⟩ := ih hrest hv
        refine ⟨w', ?_, hvw'⟩
        rw [← hw']
        exact (List.lookup_cons ..).trans (by rw [beq_eq_false_iff_ne.2 hkey]; rfl)

/-! ## All objects -/

/-- Objects as they come to be in a session. -/
structure RecordsInsertions (s : Session) : Prop where
  /-- No object has a key twice. -/
  nodup : ∀ c, (s.entries c).keys.Nodup
  /-- A literal inserts the values of its expressions. -/
  literal : ∀ {ctx : Context} {call : Caller} {scope o : Nat} {es : List (String × Expr)} {v : Value}
    {t : Session}, evalExpr ctx call scope (.object es o) s = .ok v t →
    ∃ vs u c, (es.map (·.2)).mapM (evalExpr ctx call scope) s = .ok vs u ∧ v = .object c ∧
      (t.entries c).Records ((es.map (·.1)).zip vs)
  /-- `set` inserts copies of values, after what the object has recorded before. -/
  puts : ∀ {ctx : Context} {call : Caller} {c : Nat} {done insertions : List (String × Value)}
    {t : Session}, c < s.cells.size → (s.entries c).Records done →
    Puts ctx call c s insertions t → (t.entries c).Records (done ++ insertions)
  /-- `groupBy` collects the items of an array under the texts that a callback gives. -/
  groups : ∀ {ctx : Context} {call : Caller} {f v : Value} {a o : Nat} {t : Session},
    f.isCallable = true → callBuiltin ctx call .groupBy [.array a, f] o s = .ok v t →
    ∃ visits u c, v = .object c ∧ Visits call f o s visits u ∧
      visits.map Visit.args = passes f (s.items a).toList ∧
      Partitions t ((visits.map Visit.text).zip (s.items a).toList) c
  /-- An external object inserts the values of its parts. -/
  external : ∀ {es : List (String × Json)} {v : Value} {t : Session},
    ofJson (.object es) s = .ok v t →
    ∃ vs u c, (es.map (·.2)).mapM ofJson s = .ok vs u ∧ v = .object c ∧
      (t.entries c).Records ((es.map (·.1)).zip vs)
  /-- A copy records the same insertions, with copies of the values. -/
  copies : ∀ {c n : Nat} {insertions : List (String × Value)}, (s.entries c).Records insertions →
    ∃ d t, copyTo (n + 1) (.object c) s = (.object d, t) ∧ s.cells.size ≤ d ∧
      (t.entries d).keys = (insertions.map (·.1)).eraseDups ∧
      ∀ key v, Entries.find? insertions.reverse key = some v →
        ∃ w, (t.entries d).find? key = some w ∧ IsCopy n s v w
  /-- `merge` inserts the entries of the objects into a new one: the last object that holds a key
  wins, and no cell of before changes. -/
  merged : ∀ (ctx : Context) (call : Caller) (o : Nat) (cs : List Nat), cs ≠ [] →
    ∃ t, callBuiltin ctx call .merge (cs.map .object) o s = .ok (.object s.cells.size) t ∧
      (t.entries s.cells.size).Records (cs.flatMap s.entries) ∧
      (t.entries s.cells.size).keys = (cs.flatMap fun c => (s.entries c).keys).eraseDups ∧
      (∀ key, (t.entries s.cells.size).find? key =
        cs.reverse.findSome? fun c => (s.entries c).find? key) ∧
      ∀ c < s.cells.size, t.cells[c]? = s.cells[c]?

/-- In every session that arises, objects record what was inserted into them: the keys in order of
their first insertion, each with the value that was inserted last. -/
theorem objects_record_insertions (h : Arises s) : s.RecordsInsertions where
  nodup := h.keysDistinct
  literal := by
    intro ctx call scope o es v t hrun
    rw [evalExpr, evalEntries_eq_mapM, bind_assoc] at hrun
    simp only [pure_bind] at hrun
    exact records_of_newObject_ok hrun
  puts hc hs hputs := hputs.records hc hs
  groups hf hrun := exists_partitions_of_ok hf hrun
  external := by
    intro es v t hrun
    rw [ofJson, ofJsonEntries_eq_mapM, bind_assoc] at hrun
    simp only [pure_bind] at hrun
    exact records_of_newObject_ok hrun
  copies := by
    intro c n insertions hs
    have hcopies := forall₂_copyListTo n (s.entries c).values (extends_refl s)
    refine ⟨_, _, copyTo_object n c s, (extends_copyListTo n _ s).size_le, ?_, ?_⟩
    · rw [entries_newCell, keys_zip (length_copyListTo _ _ _), hs.keys_eq]
    · intro key v hv
      rw [← hs.find?_eq] at hv
      rw [entries_newCell]
      exact find?_zip hcopies hv
  merged := by
    intro ctx call o cs hcs
    have hrecords := Entries.records_insertAll (cs.flatMap s.entries)
    refine ⟨_, merge_run hcs ctx call o, ?_, ?_, ?_, ?_⟩
    · rw [entries_newCell]
      exact hrecords
    · rw [entries_newCell, hrecords.keys_eq, List.map_flatMap]
      rfl
    · intro key
      rw [entries_newCell, hrecords.find?_eq, find?_reverse_flatMap h.keysDistinct]
    · intro c hc
      exact (extends_newCell s _).cell_eq c hc (Option.some_ne_none c).symm

/-- Two objects with a key in common, and what they are merged into. -/
theorem objects_record_insertions_merged :
    let first : List (String × Value) := [("a", .bool true), ("b", .null), ("a", .bool false)]
    let second : List (String × Value) := [("c", .null), ("b", .bool true)]
    let s := (Session.empty.newCell (.object (Entries.insertAll [] first))).newCell
      (.object (Entries.insertAll [] second))
    let ctx := Context.ofClock ⟨0, 0⟩ (.fixed 0)
    s.Arises ∧ ∃ t, callBuiltin ctx (callValue ctx 0) .merge [.object 0, .object 1] 0 s =
        .ok (.object 2) t ∧
      (t.entries 2).keys = ["a", "b", "c"] ∧ (t.entries 2).find? "a" = some (.bool false) ∧
      (t.entries 2).find? "b" = some (.bool true) ∧ t.entries 0 = s.entries 0 := by
  intro first second s ctx
  have hs : s.Arises := .newObject (.newObject .empty)
  obtain ⟨t, hrun, -, hkeys, hfind, hcells⟩ :=
    (objects_record_insertions hs).merged ctx (callValue ctx 0) 0 [0, 1] (by simp)
  have hentries : t.entries 0 = s.entries 0 := by
    rw [entries, hcells 0 (by decide), entries]
  exact ⟨hs, t, hrun, hkeys.trans (by decide), hfind "a", hfind "b", hentries⟩

end Session

end Reckoner
