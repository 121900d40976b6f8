import Reckoner.Proofs.Calls.Approximation
import Reckoner.Proofs.Session.Isolation

/-!
# Assignments stay in their scope

Names are looked up through all the scopes around the current one, but they are
bound in the current one alone, and a call has a scope of its own.  So of the
scopes that were there before, an expression changes at most the one it is
evaluated in, and a call changes none.  What was bound in the other scopes is
bound there afterwards too, to the same cells, also if the evaluation fails.

* `Discipline.Tracks.evalExpr`: a relation that every change of a session keeps holds between a
  session and what an evaluation leaves behind, whether it succeeds or fails.  So as many calls go
  on afterwards as before (`depth_evalExpr`).
* `Session.Framed` says which of the earlier scopes may have changed.
* `scopesFramed` is the discipline of it: the laws are about a new scope, a
  binding and the end of a call.
* `scopes_eq_of_other` is the statement.
-/

namespace Reckoner

open Eval

/-! ## What evaluation leaves behind -/

namespace Discipline

/-- What a computation leaves behind is a step of the discipline it keeps. -/
theorem Keeps.step {D : Discipline} {α : Type} {sc : Option Nat} {s : Session} {m : EvalM α}
    {Q : Session → α → Prop} (h : D.Keeps sc s m Q) : D.Step sc s (sessionAfter m s) := by
  unfold Keeps at h
  unfold sessionAfter
  generalize m s = res at h
  cases h with
  | ok step _ => exact step
  | error step _ => exact step

/-- Evaluation keeps what every change keeps; of the scopes, only those names may change
that the expression assigns. -/
theorem Tracks.evalExpr {R : Option Nat → Session → Session → Prop} (h : Tracks R)
    (ctx : Context) (bound : Nat) (s : Session) (scope : Nat) {sc : Option Nat} {e : Expr}
    (hassigns : ∀ name, e.Assigns name → ∀ s v, R sc s (s.withBinding scope name v)) :
    R sc s (sessionAfter (evalExpr ctx (callValue ctx bound) scope e) s) := by
  have hD := h.lawful
  have hctx : (tracking R).FitsContext ctx := fun _ _ _ _ h => h.elim
  have hsuits : (tracking R).Suits sc scope e :=
    ⟨Expr.every_of_forall (fun _ => trivial) e,
      fun name hname _ _ _ _ => ⟨trivial, hassigns name hname _ _⟩⟩
  exact (keeps_evalExpr_of_suits hD hctx (calls_callValue hD hctx bound) scope trivial e
    hsuits).step.leads

end Discipline

/-- As many calls go on after an evaluation as before it, also if it fails. -/
theorem depth_evalExpr (ctx : Context) (bound : Nat) (s : Session) (scope : Nat) (e : Expr) :
    (sessionAfter (evalExpr ctx (callValue ctx bound) scope e) s).depth = s.depth :=
  @Discipline.Tracks.evalExpr _ tracks_depth ctx bound s scope none e
    fun name _ t v => tracks_depth.withBinding t scope name v

/-! ## Scopes -/

/-- Of the scopes of `s`, at most `changed` has other bindings in `t`. -/
structure Session.Framed (changed : Option Nat) (s t : Session) : Prop where
  size_le : s.scopes.size ≤ t.scopes.size
  scope_eq : ∀ i < s.scopes.size, changed ≠ some i → t.scopes[i]? = s.scopes[i]?

namespace Session

variable {changed : Option Nat} {s t u : Session}

theorem framed_of_scopes_eq (h : t.scopes = s.scopes) : Framed changed s t where
  size_le := by rw [h]
  scope_eq i _ _ := by rw [h]

theorem Framed.trans (hst : Framed changed s t) (htu : Framed changed t u) :
    Framed changed s u where
  size_le := hst.size_le.trans htu.size_le
  scope_eq i hi hne :=
    (htu.scope_eq i (hi.trans_le hst.size_le) hne).trans (hst.scope_eq i hi hne)

theorem Framed.of_none (h : Framed none s t) : Framed changed s t where
  size_le := h.size_le
  scope_eq i hi _ := h.scope_eq i hi (Option.some_ne_none i).symm

/-- A name is bound in the current scope, wherever it was found. -/
theorem framed_withBinding (s : Session) (scope : Nat) (name : String) (v : Value) :
    Framed (some scope) s (s.withBinding scope name v) := by
  have hcopy : (copy v s).2.scopes = s.scopes := (extends_copyTo _ v s).scopes_eq
  have hbind : (s.withBinding scope name v).scopes = s.scopes.modify scope
      fun sc => { sc with bindings := sc.bindings.insert name (copy v s).1 } := by
    rw [← hcopy]
    rfl
  constructor
  · rw [hbind, Array.size_modify]
  · intro i _ hne
    rw [hbind, Array.getElem?_modify, if_neg fun h => hne (congrArg some h)]

/-- A call may bind names in its own scope, which is new. -/
theorem Framed.left {sc : Scope} (h : Framed (some s.scopes.size) (s.entered sc) t) :
    Framed none s t.left where
  size_le := by
    have hsize : s.scopes.size + 1 ≤ t.scopes.size := by
      simpa [entered, newScope] using h.size_le
    exact (Nat.le_succ _).trans hsize
  scope_eq i hi _ := by
    have hi' : i < (s.entered sc).scopes.size := by
      simpa [entered, newScope] using hi.trans (Nat.lt_succ_self _)
    have hold : (s.entered sc).scopes[i]? = s.scopes[i]? := by
      simp [entered, newScope, Array.getElem?_push, hi.ne]
    exact (h.scope_eq i hi' (by simpa using hi.ne')).trans hold

end Session

/-- Names are bound in the current scope alone. -/
def scopesFramed : Discipline where
  units := False
  known := False
  units_of_known := id
  FitsOffset _ := True
  FitsNode _ := True
  Allows _ := True
  Holds _ := True
  Leads := Session.Framed
  Fits _ _ := True

theorem tracks_framed : Discipline.Tracks Session.Framed where
  refl := Session.framed_of_scopes_eq rfl
  trans := Session.Framed.trans
  of_none := Session.Framed.of_none
  newCell _ _ := Session.framed_of_scopes_eq rfl
  newIdentity _ := Session.framed_of_scopes_eq rfl
  withBinding := Session.framed_withBinding
  withItems _ _ _ := Session.framed_of_scopes_eq (Session.extends_copyList _ _).scopes_eq
  withoutLast _ _ := Session.framed_of_scopes_eq rfl
  withEntry _ _ _ _ := Session.framed_of_scopes_eq (Session.extends_copyTo _ _ _).scopes_eq
  left h := h.left

theorem scopesFramed_lawful : scopesFramed.Lawful := tracks_framed.lawful

/-- What a computation leaves behind, if it keeps to its scope. -/
theorem framed_sessionAfter {α : Type} {changed : Option Nat} {s : Session} {m : EvalM α}
    {Q : Session → α → Prop} (h : scopesFramed.Keeps changed s m Q) :
    s.Framed changed (sessionAfter m s) :=
  h.step.leads

/-- Of the scopes that were there before, an expression changes at most the one
that it is evaluated in, and a call of a value changes none.  Names stay bound
to the same values there, whether the evaluation succeeds or fails and however
deep calls nest in it. -/
theorem scopes_eq_of_other (ctx : Context) (bound : Nat) {s : Session} {i : Nat}
    (hi : i < s.scopes.size) :
    (∀ scope e, i ≠ scope →
      (sessionAfter (evalExpr ctx (callValue ctx bound) scope e) s).scopes[i]? = s.scopes[i]?) ∧
    ∀ f args offset,
      (sessionAfter (callValue ctx bound f args offset) s).scopes[i]? = s.scopes[i]? := by
  have hD := scopesFramed_lawful
  have hctx : scopesFramed.FitsContext ctx := fun _ _ _ _ h => h.elim
  have hcall : scopesFramed.Calls (callValue ctx bound) :=
    Discipline.calls_callValue hD hctx bound
  constructor
  · intro scope e hne
    have hframed := framed_sessionAfter <| Discipline.keeps_evalExpr hD hctx hcall scope
      (s := s) trivial e (Expr.every_of_forall (fun _ => trivial) e)
    exact hframed.scope_eq i hi fun h => hne (Option.some.inj h).symm
  · intro f args offset
    have hframed : s.Framed none (sessionAfter (callValue ctx bound f args offset) s) :=
      framed_sessionAfter <| hcall trivial trivial (fun _ _ => trivial) trivial
    exact hframed.scope_eq i hi (Option.some_ne_none i).symm

/-- A session with a function that adds to a name of the root, and a scope
inside the root. -/
def countingSession (ctx : Context) : Session :=
  (sessionAfter (evaluate ctx "f(n) = (x += n)")
    (sessionAfter (evaluate ctx "x = 1") .empty)).newScope { bindings := [], parent := some 0 }

/-- The compound assignment `x += f(2)`. -/
def countUp : Expr := .assign "x" (.call "f" [.number (.ofNat 2) [] 0] 0) (some .add) 0

theorem scopes_eq_of_other_countUp :
    let ctx := Context.ofClock ⟨0, 0⟩ (.fixed 0)
    let s := countingSession ctx
    0 < s.scopes.size ∧ 0 ≠ 1 ∧
      (sessionAfter (evalExpr ctx (callValue ctx callBound) 1 countUp) s).scopes[0]? =
        s.scopes[0]? ∧
      ∀ f args offset,
        (sessionAfter (callValue ctx callBound f args offset) s).scopes[0]? = s.scopes[0]? := by
  intro ctx s
  have hsize : 0 < s.scopes.size := by decide +kernel
  obtain ⟨heval, hcalls⟩ := scopes_eq_of_other ctx callBound hsize
  exact ⟨hsize, Nat.zero_ne_one, heval 1 countUp Nat.zero_ne_one, hcalls⟩

-- Both assignments read the `x` of the root, and neither changes it.
example :
    let ctx := Context.ofClock ⟨0, 0⟩ (.fixed 0)
    let t := sessionAfter (evalExpr ctx (callValue ctx callBound) 1 countUp) (countingSession ctx)
    (t.lookup 0 "x").map t.render = some "1" ∧ (t.lookup 1 "x").map t.render = some "4" := by
  decide +kernel

end Reckoner
