import Reckoner.Proofs.Calls.Evaluate
import Reckoner.Proofs.Session.Frame

/-!
# How deep calls nest

`Session.depth` counts the calls of functions from sources that go on.  It is changed in two
places only, where the body of such a function is entered and where it is left, and in between
any expression may be evaluated, which may call back or fail.

What happens in the middle of a run is looked at by probes (`probedCalls`): they are run at every
moment at which the depth may be another one, with the session as it is then.  A probe that does
nothing is no part of a run (`probedCalls_pure`).  A run comes to a moment if it can be broken off
there (`Task.ComesTo`, `Task.comesTo_iff`).

* `approximatesAt_probedCalls`: runs with two probes differ only by what the probes do.
* `calls_breaking`: calls that are broken off before the depth is exceeded never exceed it.
* `depth_of_runs` is the statement: the depth is balanced and capped, and the error that calls nest
  too deep has one cause only.
-/

namespace Reckoner

open Eval Discipline

/-! ## Runs with probes -/

/-- What evaluation may be asked for. -/
inductive Task where
  | expression (scope : Nat) (e : Expr)
  | call (callee : Value) (args : List Value) (offset : Nat)
  | builtin (b : Builtin) (args : List Value) (offset : Nat)

/-- The run of a task, with calls through a given caller. -/
def Task.run (ctx : Context) (call : Caller) : Task → EvalM Value
  | .expression scope e => evalExpr ctx call scope e
  | .call callee args offset => call callee args offset
  | .builtin b args offset => callBuiltin ctx call b args offset

/-- A moment of a run: a value that is no function with given arguments is about to be called, or
the body of a function has been entered. -/
inductive Moment where
  | call (callee : Value) (args : List Value) (offset : Nat)
  | body (f : Closure)

/-- Calls a value that is no function with given arguments, with a probe before the call and one
before the body of a function. -/
def probedPlain (ctx : Context) (probe : Moment → EvalM Unit) (call : Caller) (callee : Value)
    (args : List Value) (offset : Nat) : EvalM Value := do
  probe (.call callee args offset)
  match callee with
  | .closure _ f =>
    runClosure (fun scope => do
      probe (.body f)
      evalExpr ctx call scope f.body) f args offset
  | callee => callPlain ctx call callee args offset

/-- Calls with probes; they nest at most `bound` deep. -/
def probedCalls (ctx : Context) (probe : Moment → EvalM Unit) : (bound : Nat) → Caller
  | 0, _, _, _ => throw .exhausted
  | bound + 1, callee, args, offset =>
    let (callee, args) := unfoldApplied callee args
    probedPlain ctx probe (probedCalls ctx probe bound) callee args offset

section

variable {ctx : Context} {probe : Moment → EvalM Unit}

theorem probedPlain_eq (hbody : ∀ f, probe (.body f) = pure ()) {call : Caller} {callee : Value}
    {args : List Value} {offset : Nat}
    (hcall : (probe (.call callee args offset) >>= fun _ => callPlain ctx call callee args offset) =
      callPlain ctx call callee args offset) :
    probedPlain ctx probe call callee args offset = callPlain ctx call callee args offset := by
  rw [← hcall]
  cases callee with
  | closure i f =>
    simp only [probedPlain, hbody, pure_bind]
    rfl
  | _ => rfl

/-- A probe is no part of a run if it does what the run does anyway. -/
theorem probedCalls_eq (hbody : ∀ f, probe (.body f) = pure ())
    (hcall : ∀ call callee args offset,
      (probe (.call callee args offset) >>= fun _ => callPlain ctx call callee args offset) =
        callPlain ctx call callee args offset) (bound : Nat) :
    probedCalls ctx probe bound = callValue ctx bound := by
  induction bound with
  | zero => rfl
  | succ bound ih =>
    funext callee args offset
    show probedPlain ctx probe (probedCalls ctx probe bound) _ _ offset =
      callPlain ctx (callValue ctx bound) _ _ offset
    rw [ih]
    exact probedPlain_eq hbody (hcall _ _ _ _)

theorem probedCalls_pure (bound : Nat) :
    probedCalls ctx (fun _ => pure ()) bound = callValue ctx bound :=
  probedCalls_eq (fun _ => rfl) (fun _ _ _ _ => rfl) bound

end

/-! ## Runs with different probes -/

section

variable {Cut : Stop → Prop} {ctx : Context} {probe₁ probe₂ : Moment → EvalM Unit}
  {call₁ call₂ : Caller} {s : Session} {d top : Nat}

theorem approximates_run (hcall : ApproximatesAt Cut s.depth call₁ call₂) (task : Task) :
    Approximates Cut s (task.run ctx call₁) (task.run ctx call₂) := by
  cases task with
  | expression scope e => exact approximates_evalExpr hcall rfl scope e
  | call callee args offset => exact hcall rfl
  | builtin b args offset => exact approximates_callBuiltin hcall rfl b args

/-- Probes matter only up to the depth that runs come to, which is where they start or the depth
at which calls are refused. -/
theorem approximatesAt_probedCalls (htop : maxDepth ≤ top)
    (hprobe : ∀ m s, s.depth ≤ top → Approximates Cut s (probe₁ m) (probe₂ m)) (bound : Nat)
    (hd : d ≤ top) :
    ApproximatesAt Cut d (probedCalls ctx probe₁ bound) (probedCalls ctx probe₂ bound) := by
  induction bound generalizing d with
  | zero => exact fun _ _ _ _ _ => .error
  | succ bound ih =>
    intro s f args offset hs
    show Approximates Cut s
      (probedPlain ctx probe₁ (probedCalls ctx probe₁ bound) _ _ offset)
      (probedPlain ctx probe₂ (probedCalls ctx probe₂ bound) _ _ offset)
    generalize (unfoldApplied f args).1 = callee
    generalize (unfoldApplied f args).2 = args
    refine (hprobe _ s (hs ▸ hd)).bind fun _ t ht => ?_
    replace ht := ht.trans hs
    cases callee with
    | closure i f =>
      refine approximates_runClosure ht fun around hdepth => ?_
      have hentered : (t.entered around).depth = d + 1 := congrArg (· + 1) ht
      have hdeeper : d + 1 ≤ top := by omega
      refine (hprobe _ _ (hentered ▸ hdeeper)).bind fun _ u hu => ?_
      exact approximates_evalExpr (ih hdeeper) (hu.trans hentered) _ f.body
    | builtin i b => exact approximates_callBuiltin (ih hd) ht b args
    | _ => exact approximates_fail offset _

theorem approximates_probed (htop : maxDepth ≤ top) (hs : s.depth ≤ top)
    (hprobe : ∀ m t, t.depth ≤ top → Approximates Cut t (probe₁ m) (probe₂ m)) (bound : Nat)
    (task : Task) :
    Approximates Cut s (task.run ctx (probedCalls ctx probe₁ bound))
      (task.run ctx (probedCalls ctx probe₂ bound)) :=
  approximates_run (approximatesAt_probedCalls htop hprobe bound hs) task

end

/-! ## The moments a run comes to -/

open Classical in
/-- A probe that breaks a run off at certain moments. -/
noncomputable def breaking (P : Moment → Session → Prop) (stop : Moment → Stop) (m : Moment) :
    EvalM Unit := fun s =>
  if P m s then .error (stop m) s else .ok () s

/-- A run comes to a moment with `P`: it makes a difference to break it off at such moments. -/
def Task.ComesTo (task : Task) (ctx : Context) (bound : Nat) (s : Session)
    (P : Moment → Session → Prop) : Prop :=
  ∃ stop, task.run ctx (probedCalls ctx (breaking P fun _ => stop) bound) s ≠
    task.run ctx (callValue ctx bound) s

section

variable {ctx : Context} {bound : Nat} {task : Task} {s : Session} {P : Moment → Session → Prop}
  {stop : Moment → Stop} {m : Moment}

theorem breaking_of (h : P m s) : breaking P stop m s = .error (stop m) s := if_pos h

theorem breaking_of_not (h : ¬P m s) : breaking P stop m s = .ok () s := if_neg h

/-- What a run that may be broken off at some moments comes to without being so, it comes to with
every probe that does nothing at other moments. -/
theorem run_eq_of_not_cut (Cut : Stop → Prop) {probe : Moment → EvalM Unit} {top : Nat}
    (htop : maxDepth ≤ top) (hs : s.depth ≤ top)
    (hcut : ∀ m t, t.depth ≤ top → P m t → Cut (stop m))
    (hprobe : ∀ m t, ¬P m t → probe m t = .ok () t)
    (hnot : ∀ stop' t, task.run ctx (probedCalls ctx (breaking P stop) bound) s =
      .error stop' t → ¬Cut stop') :
    task.run ctx (probedCalls ctx probe bound) s =
      task.run ctx (probedCalls ctx (breaking P stop) bound) s := by
  refine Approximates.eq_of_not_cut ?_ hnot
  refine approximates_probed htop hs (fun m t ht => ?_) bound task
  unfold Approximates
  by_cases h : P m t
  · rw [breaking_of h]
    exact .cut (hcut m t ht h)
  · rw [breaking_of_not h, hprobe m t h]
    exact .ok rfl

/-- A run comes to a moment exactly if it ends there with any stop that it is broken off with. -/
theorem Task.comesTo_iff :
    task.ComesTo ctx bound s P ↔
      ∀ stop, ∃ t, task.run ctx (probedCalls ctx (breaking P fun _ => stop) bound) s =
        .error stop t := by
  constructor
  · rintro ⟨stop', hne⟩ stop
    by_contra hnot
    have hruns (probe : Moment → EvalM Unit) (hprobe : ∀ m t, ¬P m t → probe m t = .ok () t) :
        task.run ctx (probedCalls ctx probe bound) s =
          task.run ctx (probedCalls ctx (breaking P fun _ => stop) bound) s := by
      refine run_eq_of_not_cut (· = stop) (le_max_right s.depth maxDepth)
        (le_max_left s.depth maxDepth) (fun _ _ _ _ => rfl) hprobe fun stop' t h => ?_
      rintro rfl
      exact hnot ⟨t, h⟩
    refine hne ((hruns _ fun _ _ h => breaking_of_not h).trans ?_)
    rw [← probedCalls_pure]
    exact (hruns _ fun _ _ _ => rfl).symm
  · intro h
    by_contra hnot
    have hsame (stop : Stop) : task.run ctx (probedCalls ctx (breaking P fun _ => stop) bound) s =
        task.run ctx (callValue ctx bound) s := by
      by_contra hne
      exact hnot ⟨stop, hne⟩
    obtain ⟨t, ht⟩ := h .exhausted
    obtain ⟨u, hu⟩ := h (.fault ⟨.callDepth maxDepth, 0⟩)
    cases (hsame _).symm.trans ht |>.symm.trans ((hsame _).symm.trans hu)

end

/-! ## The depth -/

/-- The discipline of the depth up to the one at which calls are refused.  No error says that
calls nest too deep. -/
def depthCapped : Discipline :=
  trackingWithin (fun s => s.depth ≤ maxDepth) False fun _ s t => t.depth = s.depth

theorem depthCapped_lawful : depthCapped.Lawful :=
  tracks_depth.lawful_within (fun h hs => h.symm ▸ hs) fun _ hdepth => hdepth

/-- A function from a source is called with as many arguments as it has parameters, at the depth at
which calls are refused. -/
def FullCall : Moment → Session → Prop
  | .call (.closure _ f) args _, s => args.length = f.params.length ∧ s.depth = maxDepth
  | _, _ => False

/-- The error at a call that nests too deep. -/
def Moment.refusal : Moment → Stop
  | call _ _ offset => .fault ⟨.callDepth maxDepth, offset⟩
  | body _ => .exhausted

section

variable {H : Session → Prop} {deep : Prop} {R : Option Nat → Session → Session → Prop}
  {ctx : Context} {call : Caller} {s : Session} {f : Closure} {args : List Value} {i o : Nat}

/-- A task keeps what calls keep. -/
theorem exists_keeps_run (ctx : Context) (hD : (trackingWithin H deep R).Lawful)
    (hcall : (trackingWithin H deep R).Calls call) (hs : H s) (task : Task) :
    ∃ sc, (trackingWithin H deep R).Keeps sc s (task.run ctx call) fun _ _ => True := by
  have hctx : (trackingWithin H deep R).FitsContext ctx := fun _ _ _ _ h => h.elim
  cases task with
  | expression scope e =>
    exact ⟨some scope,
      keeps_evalExpr hD hctx hcall scope hs e (Expr.every_of_forall (fun _ => trivial) e)⟩
  | call callee args offset => exact ⟨none, hcall hs trivial (fun _ _ => trivial) trivial⟩
  | builtin b args offset =>
    exact ⟨none, keeps_callBuiltin hD hcall trivial hs trivial fun _ _ => trivial⟩

theorem callValue_eq_runClosure {bound : Nat} {callee : Value} {given : List Value}
    (h : unfoldApplied callee given = (.closure i f, args)) :
    callValue ctx (bound + 1) callee given o =
      runClosure (fun scope => evalExpr ctx (callValue ctx bound) scope f.body) f args o := by
  show callPlain ctx (callValue ctx bound) (unfoldApplied callee given).1
    (unfoldApplied callee given).2 o = _
  rw [h]
  rfl

/-- The probe that refuses calls which nest too deep does what calls do anyway. -/
theorem probedCalls_refusal (bound : Nat) :
    probedCalls ctx (breaking FullCall Moment.refusal) bound = callValue ctx bound := by
  refine probedCalls_eq (fun f => funext fun s => breaking_of_not id) (fun call callee args o => ?_)
    bound
  funext s
  by_cases h : FullCall (.call callee args o) s
  · rw [bind_of_error (breaking_of h)]
    cases callee with
    | closure i f => exact (runClosure_of_full h.1 h.2.ge).symm
    | _ => exact h.elim
  · exact bind_of_ok (breaking_of_not h)

theorem keeps_breaking {D : Discipline} (hD : D.Lawful) (hs : D.Holds s)
    {P : Moment → Session → Prop} {m : Moment} :
    D.Keeps none s (breaking P (fun _ => .exhausted) m) fun t _ => ¬P m t := by
  unfold Keeps
  by_cases h : P m s
  · rw [breaking_of h]
    exact .error (hD.refl hs) trivial
  · rw [breaking_of_not h]
    exact .ok (hD.refl hs) h

/-- Calls that are broken off where they would nest too deep never say that they do. -/
theorem keeps_probedPlain (hcall : depthCapped.Calls call) (hs : s.depth ≤ maxDepth)
    (callee : Value) (args : List Value) (o : Nat) :
    depthCapped.Keeps none s
      (probedPlain ctx (breaking FullCall fun _ => .exhausted) call callee args o)
      depthCapped.Fits := by
  have hD := depthCapped_lawful
  refine (keeps_breaking hD hs).bind hD fun _ t step hnot => ?_
  cases callee with
  | closure i f =>
    refine keeps_runClosure hD step.holds trivial (fun _ _ => trivial)
      (fun harity hfull => hnot ⟨harity, le_antisymm step.holds hfull⟩) fun _ hentered => ?_
    refine ((keeps_breaking hD hentered).widen hD).bind hD fun _ u hu _ => ?_
    exact keeps_evalExpr hD (fun _ _ _ _ h => h.elim) hcall _ hu.holds f.body
      (Expr.every_of_forall (fun _ => trivial) f.body)
  | builtin i b => exact keeps_callBuiltin hD hcall trivial step.holds trivial fun _ _ => trivial
  | _ => exact keeps_fail hD step.holds trivial rfl

theorem calls_breaking (bound : Nat) :
    depthCapped.Calls (probedCalls ctx (breaking FullCall fun _ => .exhausted) bound) := by
  induction bound with
  | zero => exact fun hs _ _ _ => .error (depthCapped_lawful.refl hs) trivial
  | succ bound ih => exact fun hs _ _ _ => keeps_probedPlain ih hs _ _ _

/-- A run that starts no deeper than calls are refused comes to no greater depth. -/
theorem not_comesTo_deeper {bound : Nat} (hs : s.depth ≤ maxDepth) (task : Task) :
    ¬task.ComesTo ctx bound s fun _ t => maxDepth < t.depth := by
  rintro ⟨stop, hne⟩
  rw [← probedCalls_pure] at hne
  refine hne (run_eq_of_not_cut (fun _ => False) le_rfl hs ?_ (fun _ _ _ => rfl)
    fun _ _ _ => id).symm
  exact fun _ _ ht hdeeper => Nat.not_le_of_lt hdeeper ht

/-- Whether calls nest too deep depends on the calls at full depth alone. -/
theorem raises_iff_comesTo {bound : Nat} (hs : s.depth ≤ maxDepth) (task : Task) :
    (∃ n o t, task.run ctx (callValue ctx bound) s = .error (.fault ⟨.callDepth n, o⟩) t) ↔
      task.ComesTo ctx bound s FullCall := by
  constructor
  · rintro ⟨n, o, t, hrun⟩
    refine ⟨.exhausted, fun hsame => ?_⟩
    obtain ⟨sc, hkeeps⟩ := exists_keeps_run ctx depthCapped_lawful (calls_breaking bound) hs task
    unfold Keeps at hkeeps
    rw [hsame, hrun] at hkeeps
    cases hkeeps with
    | error _ hstop => exact hstop.deep rfl
  · rintro ⟨stop, hne⟩
    by_contra hnot
    rw [← probedCalls_refusal] at hne hnot
    have hcut (m : Moment) (t : Session) (h : FullCall m t) :
        ∃ n o, m.refusal = .fault ⟨.callDepth n, o⟩ := by
      cases m with
      | call callee args o => exact ⟨maxDepth, o, rfl⟩
      | body f => exact h.elim
    refine hne (run_eq_of_not_cut (fun stop => ∃ n o, stop = .fault ⟨.callDepth n, o⟩) le_rfl hs
      (fun m t _ => hcut m t) (fun _ _ => breaking_of_not) ?_)
    rintro _ t hrun ⟨n, o, rfl⟩
    exact hnot ⟨n, o, t, hrun⟩

/-- Calls are balanced and capped, whatever is evaluated, called or called back.

* As many calls go on after a run as before it, whether it succeeds or fails.
* A run that starts no deeper than `maxDepth` never comes to a greater depth.
* It ends with the error that calls nest too deep exactly if it comes to a call, at a depth of
  `maxDepth`, of a function from a source with as many arguments as it has parameters.
* The wrong number of arguments is reported at any depth, and by neither error is the session
  changed. -/
theorem depth_of_runs (ctx : Context) (bound : Nat) (task : Task) (s : Session) :
    (sessionAfter (task.run ctx (callValue ctx bound)) s).depth = s.depth ∧
    (s.depth ≤ maxDepth →
      (¬task.ComesTo ctx bound s fun _ t => maxDepth < t.depth) ∧
      ((∃ n o t, task.run ctx (callValue ctx bound) s = .error (.fault ⟨.callDepth n, o⟩) t) ↔
        task.ComesTo ctx bound s FullCall)) ∧
    ∀ callee given o i f args, unfoldApplied callee given = (.closure i f, args) →
      (args.length ≠ f.params.length →
        callValue ctx (bound + 1) callee given o s = .error (.fault
          ⟨.argumentCount (f.name.getD "<lambda>") (toString f.params.length) args.length, o⟩) s) ∧
      (args.length = f.params.length → s.depth = maxDepth →
        callValue ctx (bound + 1) callee given o s =
          .error (.fault ⟨.callDepth maxDepth, o⟩) s) := by
  refine ⟨?_, fun hs => ⟨not_comesTo_deeper hs task, raises_iff_comesTo hs task⟩, ?_⟩
  · obtain ⟨sc, hkeeps⟩ := exists_keeps_run ctx tracks_depth.lawful
      (calls_callValue tracks_depth.lawful (fun _ _ _ _ h => h.elim) bound) trivial task
    exact hkeeps.step.leads
  · intro callee given o i f args hcallee
    rw [callValue_eq_runClosure hcallee]
    exact ⟨runClosure_of_ne, fun harity hfull => runClosure_of_full harity hfull.ge⟩

/-- A function without parameters, called at full depth. -/
theorem depth_of_runs_full :
    let ctx := Context.ofClock ⟨0, 0⟩ (.fixed 0)
    let f : Closure := { name := none, params := [], body := .name "x" 0, scope := none }
    let s : Session := { Session.empty with depth := maxDepth }
    let task := Task.call (.closure 0 f) [] 0
    s.depth ≤ maxDepth ∧ task.ComesTo ctx 1 s FullCall ∧
      ¬task.ComesTo ctx 1 s fun _ t => maxDepth < t.depth := by
  intro ctx f s task
  have hs : s.depth ≤ maxDepth := Nat.le_refl maxDepth
  have hrefused := ((depth_of_runs ctx 0 task s).2.2 (.closure 0 f) [] 0 0 f [] rfl).2 rfl rfl
  obtain ⟨hcapped, hraises⟩ := (depth_of_runs ctx 1 task s).2.1 hs
  exact ⟨hs, hraises.1 ⟨maxDepth, 0, s, hrefused⟩, hcapped⟩

end

end Reckoner
