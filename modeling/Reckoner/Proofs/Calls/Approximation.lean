import Reckoner.Proofs.Discipline.Evaluate
import Reckoner.Proofs.Session.Copy

/-!
# Computations that are cut off

How far calls may nest is up to the caller that evaluation is given.  One
computation approximates another one if both come to the same, except that the
first may be cut off before: it then stops with one of certain stops, such as
that it has run out of calls.  Evaluation with one caller approximates
evaluation with another if the callers themselves do so.

Callers are compared at one depth at a time, since calls of functions from
sources stop at `maxDepth`.  So all of this rests on the depth being the same
after a computation as before, which is a discipline of its own.

* `depthKept`: the discipline of the depth.
* `Approximates`, for computations, and `ApproximatesAt`, for callers.
* `approximates_callBuiltin`, `approximates_evalExpr`, `approximates_callClosure`:
  what calls back approximates what calls back further.
-/

namespace Reckoner

/-! ## The depth -/

namespace Session

theorem depth_copyTo (n : Nat) (v : Value) (s : Session) : (copyTo n v s).2.depth = s.depth := by
  induction n generalizing v s with
  | zero => rw [copyTo_zero]
  | succ n ih =>
    have hlist (vs : List Value) (s : Session) : (copyListTo n vs s).2.depth = s.depth := by
      induction vs generalizing s with
      | nil => rfl
      | cons w vs ihvs => exact (ihvs _).trans (ih w s)
    cases hc : v.cell? with
    | none => rw [copyTo_of_cell?_eq_none hc]
    | some c =>
      rw [copyTo_eq hc]
      exact hlist _ s

theorem depth_copyList (vs : List Value) (s : Session) : (copyList vs s).2.depth = s.depth := by
  induction vs generalizing s with
  | nil => rfl
  | cons v vs ih => exact (ih _).trans (depth_copyTo _ v s)

end Session

/-- The depth is the same after a computation as before. -/
def depthKept : Discipline where
  units := False
  known := False
  units_of_known := id
  FitsOffset _ := True
  FitsNode _ := True
  Allows _ := True
  Holds _ := True
  Leads _ s t := t.depth = s.depth
  Fits _ _ := True

theorem tracks_depth : Discipline.Tracks fun _ s t => t.depth = s.depth where
  refl := rfl
  trans hst htu := htu.trans hst
  of_none h := h
  newCell _ _ := rfl
  newIdentity _ := rfl
  withBinding s _ _ v := Session.depth_copyTo s.nesting v s
  withItems s _ more := Session.depth_copyList more s
  withoutLast _ _ := rfl
  withEntry s _ _ v := Session.depth_copyTo s.nesting v s
  left h := congrArg (· - 1) h

theorem depthKept_lawful : depthKept.Lawful := tracks_depth.lawful

/-! ## Approximation -/

/-- The first of two results is that of a computation which was cut off, or else they are the
same, at a depth of `d` after a success. -/
inductive Below {α : Type} (Cut : Stop → Prop) (d : Nat) :
    EStateM.Result Stop Session α → EStateM.Result Stop Session α → Prop where
  | cut {stop : Stop} {t : Session} {r : EStateM.Result Stop Session α} (h : Cut stop) :
    Below Cut d (.error stop t) r
  | ok {x : α} {t : Session} (h : t.depth = d) : Below Cut d (.ok x t) (.ok x t)
  | error {stop : Stop} {t : Session} : Below Cut d (.error stop t) (.error stop t)

/-- From `s` the first computation comes to the same as the second, unless it is cut off. -/
def Approximates {α : Type} (Cut : Stop → Prop) (s : Session) (m₁ m₂ : EvalM α) : Prop :=
  Below Cut s.depth (m₁ s) (m₂ s)

/-- At a depth of `d` the first caller comes to the same as the second, unless it is cut off. -/
def ApproximatesAt (Cut : Stop → Prop) (d : Nat) (call₁ call₂ : Caller) : Prop :=
  ∀ ⦃s : Session⦄ ⦃f : Value⦄ ⦃args : List Value⦄ ⦃offset : Nat⦄, s.depth = d →
    Approximates Cut s (call₁ f args offset) (call₂ f args offset)

section

variable {α β : Type} {Cut : Stop → Prop} {s t : Session} {m m₁ m₂ : EvalM α} {d : Nat}

theorem approximates_throw {stop : Stop} (h : Cut stop) : Approximates Cut s (throw stop) m :=
  .cut h

theorem approximates_pure (x : α) : Approximates Cut s (pure x) (pure x) := .ok rfl

theorem approximates_fail (offset : Nat) (cause : Cause) :
    Approximates Cut s (Eval.fail offset cause : EvalM α) (Eval.fail offset cause) := .error

theorem approximates_get : Approximates Cut s (get : EvalM Session) get := .ok rfl

theorem approximates_lift (c : Checked α) : Approximates Cut s (liftM c : EvalM α) (liftM c) := by
  cases c with
  | ok x => exact .ok rfl
  | error e => exact .error

/-- What does not call back approximates itself. -/
theorem approximates_of_keeps {Q : Session → α → Prop} (sc : Option Nat)
    (h : depthKept.Keeps sc s m Q) : Approximates Cut s m m := by
  unfold Discipline.Keeps at h
  unfold Approximates
  generalize m s = res at h ⊢
  cases h with
  | ok step _ => exact .ok step.leads
  | error _ _ => exact .error

theorem Approximates.bind {f₁ f₂ : α → EvalM β} (hm : Approximates Cut s m₁ m₂)
    (hf : ∀ x t, t.depth = s.depth → Approximates Cut t (f₁ x) (f₂ x)) :
    Approximates Cut s (m₁ >>= f₁) (m₂ >>= f₂) := by
  show Below Cut s.depth (EStateM.bind m₁ f₁ s) (EStateM.bind m₂ f₂ s)
  unfold EStateM.bind
  unfold Approximates at hm
  generalize m₁ s = r₁ at hm ⊢
  generalize m₂ s = r₂ at hm ⊢
  cases hm with
  | cut h => exact .cut h
  | @ok x t h => exact h ▸ hf x t h
  | error => exact .error

/-- What was not cut off comes to the same with more. -/
theorem Approximates.eq_of_not_cut (h : Approximates Cut s m₁ m₂)
    (hne : ∀ stop t, m₁ s = .error stop t → ¬Cut stop) : m₂ s = m₁ s := by
  unfold Approximates at h
  generalize m₁ s = r₁ at h hne
  generalize m₂ s = r₂ at h ⊢
  cases h with
  | cut h => exact (hne _ _ rfl h).elim
  | ok h => rfl
  | error => rfl

end

end Reckoner
