import Reckoner.Proofs.Session.Tame

/-!
# Assignments that fail

A failed assignment undoes nothing: what its right-hand side has done before the
error stays.  It adds nothing of its own either, since the only step that can
fail after the right-hand side is the operator of a compound assignment, and
operators leave the session alone where they fail.

* `Spares` says that a computation leaves the session alone where it fails.
* `leaves_of_assign_error` is the statement for whole sources.
-/

namespace Reckoner

namespace Eval

/-! ## Operators that fail -/

/-- A computation that leaves the session as it is where it fails. -/
def Spares {α : Type} (m : EvalM α) : Prop :=
  ∀ ⦃s stop t⦄, m s = .error stop t → t = s

variable {α β : Type} {ctx : Context} {s t : Session} {stop : Stop} {offset : Nat}

theorem spares_lift (c : Checked α) : Spares (liftM c) := by
  intro s stop t h
  cases c with
  | ok x => cases h
  | error e =>
    cases h
    rfl

theorem spares_lift_pure (c : Checked α) (f : α → β) :
    Spares (do return f (← (liftM c : EvalM α))) := by
  intro s stop t h
  cases c with
  | ok x => cases h
  | error e =>
    cases h
    rfl

theorem spares_add (ctx : Context) (left right : Value) (offset : Nat) :
    Spares (add ctx left right offset) := by
  unfold add
  split
  · exact spares_lift _
  · exact spares_lift_pure _ _
  · exact spares_lift_pure _ _
  · exact spares_lift_pure _ _
  · exact spares_lift _
  · exact spares_lift _
  · intro s stop t h
    cases h
  · intro s stop t h
    cases h
  · intro s stop t h
    cases h
  · exact spares_lift _

theorem spares_binary (ctx : Context) (op : BinaryOp) (left right : Value) (offset : Nat) :
    Spares (binary ctx op left right offset) := by
  cases op with
  | add => exact spares_add ctx left right offset
  | _ => exact spares_lift _

theorem spares_define (scope : Nat) (name : String) (v w : Value) :
    Spares (do define scope name v; return w) := by
  intro s stop t h
  cases h

/-- A compound assignment reads its name when the right-hand side has a value. -/
theorem assign_some (scope : Nat) (name : String) (op : BinaryOp) (v : Value) (offset : Nat) :
    assign ctx scope name (some op) v offset s =
      match s.lookup scope name with
      | some current => (do
          let w ← binary ctx op current v offset
          define scope name w
          return w : EvalM Value) s
      | none => .error (.fault { cause := .unknownVariable name, offset }) s := by
  show (match s.lookup scope name with
    | some current => binary ctx op current v offset >>= fun w => do define scope name w; return w
    | none => fail offset (.unknownVariable name) >>= fun w => do define scope name w; return w) s =
    _
  cases s.lookup scope name with
  | some current => rfl
  | none => rfl

/-- Once its right-hand side has a value, an assignment that fails changes
nothing any more. -/
theorem spares_assign (ctx : Context) (scope : Nat) (name : String) (compound : Option BinaryOp)
    (v : Value) (offset : Nat) : Spares (assign ctx scope name compound v offset) := by
  intro s stop t h
  cases compound with
  | none => exact spares_define scope name v v h
  | some op =>
    rw [assign_some] at h
    cases hlookup : s.lookup scope name with
    | none =>
      rw [hlookup] at h
      cases h
      rfl
    | some current =>
      rw [hlookup] at h
      cases hsum : binary ctx op current v offset s with
      | ok w u => cases (bind_of_ok hsum).symm.trans h
      | error stop' u =>
        obtain rfl := (EStateM.Result.error.inj ((bind_of_error hsum).symm.trans h)).2
        exact spares_binary ctx op current v offset hsum

/-- An assignment that fails leaves what its right-hand side has left. -/
theorem sessionAfter_assign_of_error {call : Caller} {scope : Nat} {name : String} {value : Expr}
    {compound : Option BinaryOp}
    (h : evalExpr ctx call scope (.assign name value compound offset) s = .error stop t) :
    t = sessionAfter (evalExpr ctx call scope value) s := by
  rw [evalExpr] at h
  unfold sessionAfter
  cases hvalue : evalExpr ctx call scope value s with
  | ok v u =>
    rw [bind_of_ok hvalue] at h
    exact spares_assign ctx scope name compound v offset h
  | error stop' u =>
    rw [bind_of_error hvalue] at h
    exact (EStateM.Result.error.inj h).2.symm

end Eval

/-! ## Whole sources -/

namespace Session

variable {r : Nat} {s t : Session}

theorem Separate.root_lt (hs : Separate r s) : r < s.scopes.size := by
  obtain ⟨names, hnames⟩ := hs.root_scope
  exact (Array.getElem?_eq_some_iff.1 hnames).1

theorem Separate.get?_of_retains (hs : Separate r s) (ht : Separate r t) {key : String}
    (h : s.Retains key none t) : t.get? key = s.get? key := by
  rw [hs.get?_eq, ht.get?_eq]
  exact h.find_eq r hs.root_lt (Option.some_ne_none r).symm

theorem Separate.names_of_framed (hs : Separate r s) (ht : Separate r t) (h : s.Framed none t) :
    t.names = s.names := by
  have hscope := h.scope_eq r hs.root_lt (Option.some_ne_none r).symm
  rw [names, names, hs.root_eq, ht.root_eq, bindings, bindings, hscope]

end Session

/-- The value of a source that has been read. -/
theorem evaluate_of_parse (ctx : Context) {source : String} {e : Expr}
    (h : Expr.parse source = .ok e) (s : Session) :
    evaluate ctx source s = Eval.evalExpr ctx (Eval.callValue ctx callBound) s.root e s := by
  unfold evaluate
  rw [h]
  rfl

/-- A source that assigns a value to a name fails: the session is the one that the
right-hand side has left, and names that this does not assign are bound as
before.  If it assigns none, the session has the same names as before; if, besides,
neither it nor any function of the session names `push`, `append`, `pop` or `set`,
all scopes and cells are as before. -/
theorem leaves_of_assign_error {ctx : Context} {source : String} {s t : Session} {stop : Stop}
    {name : String} {value : Expr} {compound : Option BinaryOp} {offset : Nat}
    (hs : s.Reachable) (hparse : Expr.parse source = .ok (.assign name value compound offset))
    (hrun : evaluate ctx source s = .error stop t) :
    t = sessionAfter (Eval.evalExpr ctx (Eval.callValue ctx callBound) s.root value) s ∧
    (∀ key, ¬ value.Assigns key → t.get? key = s.get? key) ∧
    ((∀ key, ¬ value.Assigns key) → t.names = s.names ∧
      (s.Tame → value.Every Expr.Tame → s.Undisturbed t)) := by
  have htsep := (Session.Reachable.evaluate hs (.error hrun)).separate
  rw [evaluate_of_parse ctx hparse] at hrun
  have ht := Eval.sessionAfter_assign_of_error hrun
  refine ⟨ht, fun key hkey => ?_, fun hnone => ⟨?_, fun htame hvalue => ?_⟩⟩
  · refine hs.separate.get?_of_retains htsep ?_
    rw [ht]
    exact retains_evalExpr ctx callBound s s.root hkey
  · refine hs.separate.names_of_framed htsep ?_
    rw [ht]
    exact framed_evalExpr ctx callBound s s.root hnone
  · rw [ht]
    exact undisturbed_evalExpr ctx callBound htame s.root hvalue hnone

/-- Whether a source was read as an assignment to `a` of `a` divided by a number. -/
def dividesA : Checked Expr → Bool
  | .ok (.assign "a" (.binary .div (.name "a" _) (.number _ [] _) _) none _) => true
  | _ => false

theorem exists_of_dividesA {result : Checked Expr} (h : dividesA result = true) :
    ∃ o n o' o'' offset, result =
      .ok (.assign "a" (.binary .div (.name "a" o) (.number n [] o') o'') none offset) := by
  unfold dividesA at h
  split at h
  · exact ⟨_, _, _, _, _, rfl⟩
  · cases h

/-- Whether a source was read as an assignment to `x`. -/
def assignsX : Checked Expr → Bool
  | .ok (.assign "x" _ none _) => true
  | _ => false

theorem exists_of_assignsX {result : Checked Expr} (h : assignsX result = true) :
    ∃ value offset, result = .ok (.assign "x" value none offset) := by
  unfold assignsX at h
  split at h
  · exact ⟨_, _, rfl⟩
  · cases h

/-- Whether a computation fails and leaves a session with the given property. -/
def failsWith {α : Type} (m : EvalM α) (s : Session) (p : Session → Bool) : Bool :=
  match m s with
  | .ok _ _ => false
  | .error _ t => p t

theorem exists_of_failsWith {α : Type} {m : EvalM α} {s : Session} {p : Session → Bool}
    (h : failsWith m s p = true) : ∃ stop t, m s = .error stop t ∧ p t = true := by
  unfold failsWith at h
  split at h
  · cases h
  · rename_i stop t hrun
    exact ⟨stop, t, hrun, h⟩

/-- Where `a` is `[1]`, `a = a / 0` fails and leaves it as it is. -/
theorem leaves_of_assign_error_array :
    let ctx := Context.ofClock ⟨0, 0⟩ (.fixed 0)
    let s := sessionAfter (evaluate ctx "a = [1]") .empty
    ∃ value offset stop t, s.Reachable ∧ (s.get? "a").map s.render = some "[1]" ∧
      Expr.parse "a = a / 0" = .ok (.assign "a" value none offset) ∧
      evaluate ctx "a = a / 0" s = .error stop t ∧ (∀ key, ¬ value.Assigns key) ∧
      s.Tame ∧ value.Every Expr.Tame ∧
      t = sessionAfter (Eval.evalExpr ctx (Eval.callValue ctx callBound) s.root value) s ∧
      t.get? "a" = s.get? "a" ∧ t.names = s.names ∧ s.Undisturbed t := by
  intro ctx s
  have hs : s.Reachable := .evaluate .empty (endsIn_sessionAfter _ _)
  obtain ⟨hvalues, hshown, hreads, hfails⟩ : (s.All fun v => v.isCallable = false) ∧
      (s.get? "a").map s.render = some "[1]" ∧ dividesA (Expr.parse "a = a / 0") = true ∧
      failsWith (evaluate ctx "a = a / 0") s (fun _ => true) = true := by
    decide +kernel
  have htame : s.Tame := hvalues.mono fun _ => Value.tame_of_not_callable
  obtain ⟨stop, t, hrun, -⟩ := exists_of_failsWith hfails
  obtain ⟨o, n, o', o'', offset, hparse⟩ := exists_of_dividesA hreads
  obtain ⟨ht, hkeys, hnone⟩ := leaves_of_assign_error hs hparse hrun
  have hassigns (key : String) :
      ¬ (Expr.binary .div (.name "a" o) (.number n [] o') o'').Assigns key := by
    rintro (_ | ⟨hc, h⟩)
    rcases List.mem_pair.1 hc with rfl | rfl
    · rcases h with _ | ⟨hc, -⟩
      cases hc
    · rcases h with _ | ⟨hc, -⟩
      cases hc
  have hvalue : (Expr.binary .div (.name "a" o) (.number n [] o') o'').Every Expr.Tame :=
    .node trivial <| List.forall_mem_cons.2
      ⟨.node (by decide : "a" ∉ Builtin.changers) (List.forall_mem_nil _),
        List.forall_mem_singleton.2 (.node trivial (List.forall_mem_nil _))⟩
  obtain ⟨hnames, hsame⟩ := hnone hassigns
  exact ⟨_, _, stop, t, hs, hshown, hparse, hrun, hassigns, htame, hvalue, ht,
    hkeys "a" (hassigns "a"), hnames, hsame htame hvalue⟩

/-- In an empty session `x = (y = 1) / 0` fails and leaves `y` bound, and where `a` is
`[1]`, `x = push(a, 2) / 0` fails and leaves it as `[1, 2]`. -/
theorem exists_changed_of_assign_error :
    let ctx := Context.ofClock ⟨0, 0⟩ (.fixed 0)
    let s := sessionAfter (evaluate ctx "a = [1]") .empty
    (Session.Reachable .empty ∧ Session.empty.names = [] ∧ ∃ value offset stop t,
      Expr.parse "x = (y = 1) / 0" = .ok (.assign "x" value none offset) ∧
      evaluate ctx "x = (y = 1) / 0" .empty = .error stop t ∧ t.names = ["y"]) ∧
    (s.Reachable ∧ (s.get? "a").map s.render = some "[1]" ∧ ∃ value offset stop t,
      Expr.parse "x = push(a, 2) / 0" = .ok (.assign "x" value none offset) ∧
      evaluate ctx "x = push(a, 2) / 0" s = .error stop t ∧
      (t.get? "a").map t.render = some "[1, 2]") := by
  intro ctx s
  obtain ⟨hreads, hbind⟩ : assignsX (Expr.parse "x = (y = 1) / 0") = true ∧
      failsWith (evaluate ctx "x = (y = 1) / 0") .empty
        (fun t => decide (t.names = ["y"])) = true := by
    decide +kernel
  obtain ⟨hshown, hreads', hpush⟩ : (s.get? "a").map s.render = some "[1]" ∧
      assignsX (Expr.parse "x = push(a, 2) / 0") = true ∧
      failsWith (evaluate ctx "x = push(a, 2) / 0") s
        (fun t => decide ((t.get? "a").map t.render = some "[1, 2]")) = true := by
    decide +kernel
  refine ⟨⟨.empty, by decide +kernel, ?_⟩, .evaluate .empty (endsIn_sessionAfter _ _), hshown, ?_⟩
  · obtain ⟨value, offset, hparse⟩ := exists_of_assignsX hreads
    obtain ⟨stop, t, hrun, ht⟩ := exists_of_failsWith hbind
    exact ⟨value, offset, stop, t, hparse, hrun, of_decide_eq_true ht⟩
  · obtain ⟨value, offset, hparse⟩ := exists_of_assignsX hreads'
    obtain ⟨stop, t, hrun, ht⟩ := exists_of_failsWith hpush
    exact ⟨value, offset, stop, t, hparse, hrun, of_decide_eq_true ht⟩

end Reckoner
