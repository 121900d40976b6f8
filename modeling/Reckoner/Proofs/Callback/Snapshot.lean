import Reckoner.Proofs.Callback.Visits
import Reckoner.Proofs.Value.Keys

/-!
# Callbacks see the items of the start

A function on arrays calls back for the items that the array holds when it is called,
in order, and at most once for each.  It does not matter what the calls do, be it to the
array itself.

* `Walker`: the functions that call back for one item at a time, with the answers that
  leave the items behind them out of account (`settles`) and what the answers come to
  (`conclude`).
* `callbacks_see_items_of_start` is the statement.
-/

namespace Reckoner.Eval

/-- The functions that call back for one item of an array at a time. -/
inductive Walker where
  | map
  | filter
  | groupBy
  | count
  | find
  | every
  | any
deriving DecidableEq, Repr

/-- The items for which the answer counts as true. -/
def kept (visits : List Visit) (items : List Value) : List Value :=
  ((visits.zip items).filter (·.1.holds)).map (·.2)

theorem kept_sublist (visits : List Visit) (items : List Value) :
    (kept visits items).Sublist items := by
  refine (List.filter_sublist.map _).trans ?_
  induction visits generalizing items with
  | nil => exact List.nil_sublist _
  | cons v visits ih =>
    cases items with
    | nil => exact List.nil_sublist _
    | cons item rest => exact (ih rest).cons_cons item

namespace Walker

/-- The function by name. -/
def builtin : Walker → Builtin
  | map => .map
  | filter => .filter
  | groupBy => .groupBy
  | count => .count
  | find => .find
  | every => .every
  | any => .any

/-- Whether there is no call after an answer. -/
def settles : Walker → Visit → Bool
  | map | filter | count => fun _ => false
  | groupBy => Visit.givesArray
  | find | any => Visit.holds
  | every => fun v => !v.holds

/-- What the answers come to, without further calls. -/
def conclude (w : Walker) (offset : Nat) (items : List Value) (visits : List Visit) :
    EvalM Value :=
  match w with
  | map => newList (visits.map Visit.result)
  | filter => newList (kept visits items)
  | groupBy => do newGroups (← grouped offset [] visits items)
  | count => pure (.ofNat (kept visits items).length)
  | find => pure ((kept visits items).head?.getD .null)
  | every => pure (.bool ((visits.zip items).all (·.1.holds)))
  | any => pure (.bool ((visits.zip items).any (·.1.holds)))

end Walker

section

variable {ctx : Context} {call : Caller} {f : Value} {offset a : Nat} {s : Session}

theorem callBuiltin_walker (hf : f.isCallable = true) (w : Walker) :
    callBuiltin ctx call w.builtin [.array a, f] offset s =
      (walk call f offset w.settles (passes f (s.items a).toList) >>=
        w.conclude offset (s.items a).toList) s := by
  have hitems := functionAndItems_run f offset hf a s
  cases w with
  | map =>
    refine (bind_of_ok hitems).trans (congrFun ?_ s)
    dsimp only
    rw [mapFrom_eq_walk, bind_assoc]
    refine bind_congr fun visits => ?_
    rw [pure_bind, List.toArray_appendList, List.nil_append]
    rfl
  | filter =>
    refine (bind_of_ok hitems).trans (congrFun ?_ s)
    dsimp only
    rw [filterFrom_eq_walk, bind_assoc]
    refine bind_congr fun visits => ?_
    rw [pure_bind, List.toArray_appendList, List.nil_append]
    rfl
  | groupBy => exact groupBy_eq_walk call f offset hf a s
  | count =>
    have hread : itemsOf (.array a) offset s = .ok (s.items a) s := rfl
    have hcallable : (liftM (f.asCallable offset) : EvalM Value) s = .ok f s := by
      rw [Value.asCallable, if_pos hf]
      rfl
    refine (bind_of_ok hread).trans ((bind_of_ok hcallable).trans (congrFun ?_ s))
    rw [filterFrom_eq_walk, bind_assoc]
    refine bind_congr fun visits => ?_
    rw [pure_bind, List.toArray_appendList, List.nil_append]
    rfl
  | find =>
    refine (bind_of_ok hitems).trans (congrFun ?_ s)
    dsimp only
    rw [findFrom_eq_walk, bind_assoc]
    simp only [beq_true]
    refine bind_congr fun visits => ?_
    rw [pure_bind, ← List.head?_filter, ← List.head?_map]
    rfl
  | every =>
    refine (bind_of_ok hitems).trans (congrFun ?_ s)
    dsimp only
    rw [findFrom_eq_walk, bind_assoc]
    simp only [beq_false]
    refine bind_congr fun visits => ?_
    rw [pure_bind, Option.isNone_map, ← Option.not_isSome, List.isSome_find?,
      List.not_any_eq_all_not]
    simp only [Bool.not_not]
    rfl
  | any =>
    refine (bind_of_ok hitems).trans (congrFun ?_ s)
    dsimp only
    rw [findFrom_eq_walk, bind_assoc]
    simp only [beq_true]
    refine bind_congr fun visits => ?_
    rw [pure_bind, Option.isSome_map, List.isSome_find?]
    rfl

/-- A function that returns has made the calls of a course. -/
theorem exists_course_of_ok (hf : f.isCallable = true) {w : Walker} {v : Value} {t : Session}
    (h : callBuiltin ctx call w.builtin [.array a, f] offset s = .ok v t) :
    ∃ visits u, Course call f offset w.settles (passes f (s.items a).toList) s visits u ∧
      w.conclude offset (s.items a).toList visits u = .ok v t := by
  rw [callBuiltin_walker hf] at h
  cases hwalk : walk call f offset w.settles (passes f (s.items a).toList) s with
  | ok visits u =>
    rw [bind_of_ok hwalk] at h
    exact ⟨visits, u, walk_eq_ok_iff.1 hwalk, h⟩
  | error stop u =>
    rw [bind_of_error hwalk] at h
    cases h

/-- Without an array among the answers `groupBy` goes on to the last item. -/
theorem not_settles_of_conclude_ok {w : Walker} (hw : w ∈ [.map, .filter, .groupBy, .count])
    {items : List Value} {visits : List Visit} {v : Value} {u t : Session}
    (h : w.conclude offset items visits u = .ok v t) : ∀ x ∈ visits, w.settles x = false := by
  intro x hx
  cases w with
  | map | filter | count => rfl
  | groupBy =>
    rw [← Bool.not_eq_true]
    intro harray
    rw [Walker.conclude, bind_of_error (grouped_of_array offset ⟨x, hx, harray⟩ [] items u)] at h
    cases h
  | find | every | any => simp at hw

theorem exists_items_of_newList_ok {items : List Value} {v : Value} {u t : Session}
    (h : newList items u = .ok v t) : ∃ c, v = .array c ∧ (t.items c).toList = items := by
  cases h
  refine ⟨_, rfl, ?_⟩
  rw [Session.items_newCell]

/-! ## Folding items -/

theorem reduce_start (hf : f.isCallable = true) (start : Value) :
    callBuiltin ctx call .reduce [.array a, f, start] offset s =
      (s.items a).toList.foldlM (fun acc item => call f [acc, item] offset) start s :=
  bind_of_ok (functionAndItems_run f offset hf a s)

theorem reduce_cons (hf : f.isCallable = true) {first : Value} {rest : List Value}
    (h : (s.items a).toList = first :: rest) :
    callBuiltin ctx call .reduce [.array a, f] offset s =
      rest.foldlM (fun acc item => call f [acc, item] offset) first s := by
  refine (bind_of_ok (functionAndItems_run f offset hf a s)).trans ?_
  rw [h]

theorem reduce_nil (hf : f.isCallable = true) (h : (s.items a).toList = []) :
    callBuiltin ctx call .reduce [.array a, f] offset s =
      .error (.fault ⟨.argument .emptyReduce, offset⟩) s := by
  refine (bind_of_ok (functionAndItems_run f offset hf a s)).trans ?_
  rw [h]
  rfl

end

/-- The functions on arrays pass to a callback the items that the array holds when they are
called, whatever the calls do: all of them, if no answer ends the matter before. -/
theorem callbacks_see_items_of_start {f : Value} (hf : f.isCallable = true) (ctx : Context)
    (call : Caller) (offset a : Nat) (s : Session) :
    let items := (s.items a).toList
    let run (b : Builtin) (more : List Value) :=
      callBuiltin ctx call b (.array a :: f :: more) offset s
    (∀ w : Walker, Walks call f offset w.settles (passes f items) (w.conclude offset items) s
      (run w.builtin [])) ∧
    (∀ w ∈ [Walker.map, .filter, .groupBy, .count], ∀ v t, run w.builtin [] = .ok v t →
      ∃ visits u, Visits call f offset s visits u ∧ visits.map Visit.args = passes f items ∧
        w.conclude offset items visits u = .ok v t) ∧
    (∀ v t, run .map [] = .ok v t → ∃ c, v = .array c ∧ (t.items c).size = items.length) ∧
    (∀ v t, run .filter [] = .ok v t →
      ∃ c, v = .array c ∧ (t.items c).toList.Sublist items) ∧
    (∀ start, Folds call f offset start items s (run .reduce [start])) ∧
    (∀ first rest, items = first :: rest → Folds call f offset first rest s (run .reduce [])) ∧
    (items = [] →
      run .reduce [] = .error (.fault ⟨.argument .emptyReduce, offset⟩) s) := by
  intro items run
  have hall : ∀ w ∈ [Walker.map, .filter, .groupBy, .count], ∀ v t, run w.builtin [] = .ok v t →
      ∃ visits u, Visits call f offset s visits u ∧ visits.map Visit.args = passes f items ∧
        w.conclude offset items visits u = .ok v t := by
    intro w hw v t h
    obtain ⟨visits, u, hcourse, hconclude⟩ := exists_course_of_ok hf h
    exact ⟨visits, u, hcourse.made,
      hcourse.args_eq_all (not_settles_of_conclude_ok hw hconclude), hconclude⟩
  refine ⟨fun w => ?_, hall, fun v t h => ?_, fun v t h => ?_, fun start => ?_,
    fun first rest hitems => ?_, reduce_nil hf⟩
  · show Walks _ _ _ _ _ _ _ (callBuiltin ctx call w.builtin [.array a, f] offset s)
    rw [callBuiltin_walker hf]
    exact walks_walk_bind _ s
  · obtain ⟨visits, u, -, hargs, hconclude⟩ := hall .map (by simp) v t h
    obtain ⟨c, rfl, hc⟩ := exists_items_of_newList_ok hconclude
    refine ⟨c, rfl, ?_⟩
    have hlength := congrArg List.length hargs
    rw [List.length_map, length_passes] at hlength
    rw [← Array.length_toList, hc, List.length_map, hlength]
  · obtain ⟨visits, u, -, -, hconclude⟩ := hall .filter (by simp) v t h
    obtain ⟨c, rfl, hc⟩ := exists_items_of_newList_ok hconclude
    exact ⟨c, rfl, hc ▸ kept_sublist visits items⟩
  · rw [show run .reduce [start] = _ from reduce_start hf start]
    exact folds_foldlM start items s
  · rw [show run .reduce [] = _ from reduce_cons hf hitems]
    exact folds_foldlM first rest s

/-- A callback that appends each item to the array that is being walked is called for the two
items that were there, not for those that it appends. -/
theorem callbacks_see_items_of_start_appending :
    let ctx := Context.ofClock ⟨0, 0⟩ (.fixed 0)
    let call : Caller := fun _ args offset => push (.array 0) args offset
    let s := Session.empty.newCell (.array #[.null, .bool true])
    let f := Value.builtin 0 .push
    f.isCallable = true ∧ ∃ c t,
      callBuiltin ctx call .map [.array 0, f] 0 s = .ok (.array c) t ∧
      (t.items c).size = 2 ∧ (t.items 0).size = 4 := by
  intro ctx call s f
  have hf : f.isCallable = true := rfl
  obtain ⟨-, -, hmap, -⟩ := callbacks_see_items_of_start hf ctx call 0 0 s
  obtain ⟨v, t, hrun, hitems⟩ : ∃ v t, callBuiltin ctx call .map [.array 0, f] 0 s = .ok v t ∧
      (t.items 0).size = 4 := ⟨_, _, rfl, rfl⟩
  obtain ⟨c, rfl, hsize⟩ := hmap v t hrun
  exact ⟨hf, c, t, hrun, hsize, hitems⟩

end Reckoner.Eval
