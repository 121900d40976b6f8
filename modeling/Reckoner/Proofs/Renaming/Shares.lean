import Reckoner.Proofs.Renaming.Repeatable
import Reckoner.Proofs.Assignment.Compound

/-!
# Sums with a percentage

`e + p%` is read as `e + e * p%`, so `e` is evaluated twice: what the second
evaluation gives is what the share is taken of, and what it changes stays changed
(`evalExpr_share`).  So `pop(a) + 10%` takes two items.

It comes to the same as one evaluation of `e` if that leaves the session as it was.
If it only leaves behind what nothing can reach, as expressions do that bind no name
and change no cell, then only the numbers of cells, scopes and functions differ
(`runs_share_as_sum`).
-/

namespace Reckoner

open Eval Renamable

/-! ## Sessions that nobody can tell apart -/

namespace Session

/-- Both sessions are one session with numbers of their own, each next to things that
this session does not have. -/
def Indistinct (s t : Session) : Prop :=
  ∃ (r base base' : Session) (ρ σ : Renaming), Alike ρ base r s ∧ Alike σ base' r t

variable {s t : Session}

/-- The same names are bound at the root. -/
theorem Indistinct.names_eq (h : s.Indistinct t) : t.names = s.names := by
  obtain ⟨r, base, base', ρ, σ, hs, ht⟩ := h
  have hnames {base u : Session} {ρ : Renaming} (hu : Alike ρ base r u) : u.names = r.names := by
    have hbindings : u.bindings u.root = rename ρ (r.bindings r.root) := by
      rw [bindings, bindings, hu.embeds.root_eq, hu.embeds.scope_eq]
      cases r.scopes[r.root]? <;> rfl
    rw [names, names, hbindings, Entries.keys_rename]
  rw [hnames ht, hnames hs]

/-- What is bound to a name has the same text. -/
theorem Indistinct.text_eq (h : s.Indistinct t) (name : String) :
    (t.get? name).map t.render = (s.get? name).map s.render := by
  obtain ⟨r, base, base', ρ, σ, hs, ht⟩ := h
  rw [get?, get?, ht.embeds.root_eq, hs.embeds.root_eq, ht.embeds.lookup_renamed,
    hs.embeds.lookup_renamed]
  cases hlookup : r.lookup r.root name with
  | none => rfl
  | some v =>
    have hv := hs.tidy.sound.lookup hlookup
    simp only [Option.map_some, ht.embeds.render_renamed ht.tidy hv,
      hs.embeds.render_renamed hs.tidy hv]

end Session

/-- Two computations end with the same value or the same error, in sessions that nobody can
tell apart. -/
inductive Agree :
    EStateM.Result Stop Session Value → EStateM.Result Stop Session Value → Prop where
  | ok {v : Value} {t t' : Session} (h : t.Indistinct t') : Agree (.ok v t) (.ok v t')
  | error {stop : Stop} {t t' : Session} (h : t.Indistinct t') :
    Agree (.error stop t) (.error stop t')

/-- Whatever succeeds gives something with `P`. -/
def Gives {α : Type} (P : α → Prop) (m : EvalM α) : Prop := ∀ s x t, m s = .ok x t → P x

section

variable {α β : Type} {P : α → Prop} {Q : β → Prop} {offset : Nat} {care : Care}

theorem gives_trivial (m : EvalM α) : Gives (fun _ => True) m := fun _ _ _ _ => trivial

theorem gives_pure {x : α} (h : P x) : Gives P (pure x) := by
  intro s y t hy
  cases hy
  exact h

theorem gives_lift {c : Checked α} (h : Yields care offset P c) : Gives P (liftM c) := by
  intro s x t hx
  cases h with
  | ok h =>
    cases hx
    exact h
  | error h => cases hx

theorem Gives.bind {m : EvalM α} {f : α → EvalM β} (hm : Gives P m)
    (hf : ∀ x, P x → Gives Q (f x)) : Gives Q (m >>= f) := by
  intro s y u hy
  cases hres : m s with
  | error stop t => cases (bind_of_error hres).symm.trans hy
  | ok x t => exact hf x (hm s x t hres) t y u ((bind_of_ok hres).symm.trans hy)

end

/-- Computations that both go as one of a third session goes agree, if what this one gives has no
numbers. -/
theorem agree_of_mirrors {ρ σ : Renaming} {base base' r s t : Session} {m mr mt : EvalM Value}
    (hs : Mirrors ρ base r s m mr) (ht : Mirrors σ base' r t m mt)
    (hatomic : Gives (Value.Atomic noCare) m) : Agree (mr s) (mt t) := by
  have hgives := hatomic r
  unfold Mirrors at hs ht
  generalize m r = res at hs ht hgives
  generalize mr s = res₁ at hs ⊢
  generalize mt t = res₂ at ht ⊢
  cases hs with
  | @ok x q t₁ h hle hx =>
    have hsame (ρ : Renaming) : rename ρ x = x := Value.renamed_of_atomic ρ (hgives x q rfl)
    cases ht with
    | ok h' hle' hx' =>
      rw [hsame, hsame]
      exact .ok ⟨_, _, _, _, _, h, h'⟩
  | error h hle =>
    cases ht with
    | error h' hle' => exact .error ⟨_, _, _, _, _, h, h'⟩

namespace Eval

variable {ctx : Context} {op : BinaryOp} {offset percentOffset : Nat}

/-! ## A share of a value -/

/-- `v + base * (w / 100)`, or with another sign. -/
def withShare (ctx : Context) (op : BinaryOp) (v base w : Value) (percentOffset offset : Nat) :
    EvalM Value := do
  let share ← unary (← get) .percent w percentOffset
  let part ← binary ctx .mul base share offset
  binary ctx op v part offset

/-- Shares are taken of numbers and quantities, and are such. -/
theorem yields_numeric_mul (v w : Value) :
    Yields noCare offset (fun x => v.isNumeric = true ∧ x.isNumeric = true)
      (mul ctx v w offset) := by
  unfold mul
  split
  · exact yields_orOverflow.bind fun _ _ => yields_pure ⟨rfl, rfl⟩
  · rename_i x q
    exact (Quantity.yields_scale q x).bind fun _ _ => yields_pure ⟨rfl, rfl⟩
  · rename_i q x
    exact (Quantity.yields_scale q x).bind fun _ _ => yields_pure ⟨rfl, rfl⟩
  · rename_i p q
    have hmul : Yields noCare offset _ (p.mul q ctx.rates offset) :=
      Quantity.yields_mul (fun h => h.elim) fun h => h.elim
    exact hmul.bind fun r _ => yields_pure ⟨rfl, by cases r <;> rfl⟩
  · exact yields_mismatch _ _ _

theorem gives_ofAmount (a : Amount) : Gives (Value.Atomic noCare) (pure (Value.ofAmount a)) :=
  gives_pure (Value.ofAmount_atomic fun hunits => hunits.elim)

theorem gives_add {v w : Value} (hv : v.isNumeric = true) (hw : w.isNumeric = true) :
    Gives (Value.Atomic noCare) (add ctx v w offset) := by
  cases v with
  | number x =>
    cases w with
    | number y =>
      have hsum : Yields noCare offset _ (numberOr offset (x.add? y)) := yields_numberOr _
      exact gives_lift hsum
    | quantity q => exact (gives_trivial _).bind fun r _ => gives_pure nofun
    | _ => cases hw
  | quantity p =>
    cases w with
    | number y => exact (gives_trivial _).bind fun r _ => gives_pure nofun
    | quantity q => exact (gives_trivial _).bind fun r _ => gives_ofAmount _
    | _ => cases hw
  | _ => cases hv

theorem gives_withShare (hop : op = .add ∨ op = .sub) (v w : Value) :
    Gives (Value.Atomic noCare) (withShare ctx op v v w percentOffset offset) := by
  refine (gives_trivial _).bind fun s _ => (gives_trivial _).bind fun share _ => ?_
  refine (gives_lift (yields_numeric_mul v share)).bind fun part hpart => ?_
  rcases hop with rfl | rfl
  · exact gives_add hpart.1 hpart.2
  · exact gives_lift (yields_sub v.measured_noCare part.measured_noCare)

/-- Of what has numbers no share can be taken, so two forms of a value under different
numbers are as good as one. -/
theorem withShare_renamed (ρ σ : Renaming) (v w : Value) :
    withShare ctx op (v.renamed ρ) (v.renamed σ) w percentOffset offset =
      withShare ctx op (v.renamed σ) (v.renamed σ) w percentOffset offset := by
  cases v with
  | array c | object c | closure i f | builtin i b | applied i f bound =>
    unfold withShare
    refine congrArg (get >>= ·) (funext fun s => congrArg (_ >>= ·) (funext fun share => ?_))
    rfl
  | _ => rfl

variable {ρ : Renaming} {base s s' : Session}

theorem mirrors_withShare (h : Alike ρ base s s') {u v w : Value} (hu : u.Sound s.cells.size)
    (hv : v.Sound s.cells.size) :
    Mirrors ρ base s s' (withShare ctx op u v w percentOffset offset)
      (withShare ctx op (u.renamed ρ) (v.renamed ρ) (w.renamed ρ) percentOffset offset) := by
  refine mirrors_get_bind ?_
  refine (mirrors_atomic h (yields_unary w.measured_noCare)
    (unary_renamed h.embeds .percent w)).bind fun share t t' ht hle hshare => ?_
  refine (mirrors_binary ht .mul (hv.mono hle) hshare).bind fun part r r' hr hle' hpart => ?_
  exact mirrors_binary hr op (hu.mono (hle.trans hle')) hpart

/-- An expression, then another one, and the first value plus or minus a share of it, in as many
hundredths as the second value says. -/
def sumWithShare (ctx : Context) (bound scope : Nat) (op : BinaryOp) (e p : Expr)
    (percentOffset offset : Nat) : EvalM Value := do
  let v ← evalExpr ctx (callValue ctx bound) scope e
  let w ← evalExpr ctx (callValue ctx bound) scope p
  withShare ctx op v v w percentOffset offset

theorem gives_sumWithShare (hop : op = .add ∨ op = .sub) (bound scope : Nat) (e p : Expr) :
    Gives (Value.Atomic noCare)
      (sumWithShare ctx bound scope op e p percentOffset offset) :=
  (gives_trivial _).bind fun v _ => (gives_trivial _).bind fun w _ => gives_withShare hop v w

theorem mirrors_sumWithShare (h : Alike ρ base s s') (bound scope : Nat) (e p : Expr) :
    Mirrors ρ base s s' (sumWithShare ctx bound scope op e p percentOffset offset)
      (sumWithShare ctx bound (ρ.scope scope) op e p percentOffset offset) := by
  have hcall := equivariant_callValue ρ base ctx bound
  refine (mirrors_evalExpr hcall h scope e).bind fun v t t' ht _ hv => ?_
  refine (mirrors_evalExpr hcall ht scope p).bind fun w u u' hu hle _ => ?_
  exact mirrors_withShare hu (hv.mono hle) (hv.mono hle)

/-! ## How the sum is read and evaluated -/

theorem combineSum_percent {e : Expr} (he : e.isPercentage = false) (p : Expr) :
    Grammar.combineSum op offset e (.unary .percent p percentOffset) =
      .binary op e (.binary .mul e (.unary .percent p percentOffset) offset) offset := by
  have hshares : Grammar.combineShares op offset e (.unary .percent p percentOffset) =
      .binary op e (.binary .mul e (.unary .percent p percentOffset) offset) offset := by
    cases e with
    | unary sign x o => cases sign with
      | percent => cases he
      | _ => rfl
    | _ => rfl
  unfold Grammar.combineSum
  split
  · exact hshares
  · exact hshares

/-- The expression is evaluated twice before the percentage is. -/
theorem evalExpr_share {e : Expr} (he : e.isPercentage = false) (bound scope : Nat) (p : Expr) :
    evalExpr ctx (callValue ctx bound) scope
        (Grammar.combineSum op offset e (.unary .percent p percentOffset)) =
      (do
        let v ← evalExpr ctx (callValue ctx bound) scope e
        let base ← evalExpr ctx (callValue ctx bound) scope e
        let w ← evalExpr ctx (callValue ctx bound) scope p
        withShare ctx op v base w percentOffset offset) := by
  rw [combineSum_percent he, evalExpr, evalExpr, evalExpr]
  simp only [bind_assoc]
  rfl

/-- Where an expression leaves the session as it was, evaluating it twice is evaluating it
once. -/
theorem evalExpr_share_of_still {e : Expr} (he : e.isPercentage = false) (bound scope : Nat)
    (p : Expr) {s : Session}
    (hstill : ∀ v t, evalExpr ctx (callValue ctx bound) scope e s = .ok v t → t = s) :
    evalExpr ctx (callValue ctx bound) scope
        (Grammar.combineSum op offset e (.unary .percent p percentOffset)) s =
      sumWithShare ctx bound scope op e p percentOffset offset s := by
  rw [evalExpr_share he, sumWithShare]
  cases hrun : evalExpr ctx (callValue ctx bound) scope e s with
  | error stop t => rw [bind_of_error hrun, bind_of_error hrun]
  | ok v t =>
    obtain rfl := hstill v t hrun
    rw [bind_of_ok hrun, bind_of_ok hrun, bind_of_ok hrun]

/-- Where an expression changes nothing, evaluating it twice agrees with evaluating it once. -/
theorem agree_share {e : Expr} (hop : op = .add ∨ op = .sub) (he : e.isPercentage = false)
    (hcalm : e.Every Expr.Calm) (bound : Nat) (p : Expr) {s : Session} (hs : s.Reachable)
    (hfree : s.CallableFree) :
    Agree (sumWithShare ctx bound s.root op e p percentOffset offset s)
      (evalExpr ctx (callValue ctx bound) s.root
        (Grammar.combineSum op offset e (.unary .percent p percentOffset)) s) := by
  obtain ⟨q, σ, htame, -, hpacked⟩ := hs.exists_packed hfree
  let once (scope : Nat) := sumWithShare ctx bound scope op e p percentOffset offset
  have hgives : Gives (Value.Atomic noCare) (once q.root) := gives_sumWithShare hop bound q.root e p
  -- one evaluation of the sum goes as in the packed session, from every session like it
  have hsum {t : Session} (ht : Alike (σ t) t q t) :
      Mirrors (σ t) t q t (once q.root) (once t.root) := by
    rw [ht.embeds.root_eq]
    exact mirrors_sumWithShare ht bound q.root e p
  have hfirst := (hpacked s (Session.undisturbed_refl s) rfl).1
  have hm := mirrors_evalCalls hfirst ctx bound e
  have hq : q.Undisturbed (sessionAfter (evalExpr ctx (callValue ctx bound) q.root e) q) :=
    undisturbed_of_calm ctx bound htame hcalm
  have ht := hq.renamed hfirst.embeds hm.alike.embeds
  have hdepth := depth_evalExpr ctx bound s s.root e
  rw [evalExpr_share he]
  cases hres : evalExpr ctx (callValue ctx bound) q.root e q with
  | error stop r =>
    obtain ⟨t, hrun⟩ := hm.of_error hres
    have hself := agree_of_mirrors (hsum hfirst) (hsum hfirst) hgives
    have hfail : once s.root s = .error stop t := bind_of_error hrun
    rw [hfail] at hself
    show Agree (once s.root s) _
    rw [bind_of_error hrun, hfail]
    exact hself
  | ok x r =>
    -- what the second evaluation starts from is like the packed session too
    obtain ⟨-, t, hrun⟩ := hm.of_ok hres
    rw [(endsIn_sessionAfter _ s).eq_of_ok hrun] at ht hdepth
    have hsecond := (hpacked t ht hdepth).1
    have hm' := mirrors_evalCalls hsecond ctx bound e
    obtain ⟨-, u, hrun'⟩ := hm'.of_ok hres
    have hagree := agree_of_mirrors (hsum hfirst) (hsum hsecond) hgives
    rw [ht.root_eq] at hagree hrun'
    rw [bind_of_ok hrun, bind_of_ok hrun']
    have honce : once s.root t = _ := bind_of_ok hrun'
    rw [honce] at hagree
    have hshare (w : Value) : withShare ctx op (rename (σ s) x) (rename (σ t) x) w percentOffset
        offset = withShare ctx op (rename (σ t) x) (rename (σ t) x) w percentOffset offset :=
      withShare_renamed (σ s) (σ t) x w
    simp only [hshare]
    exact hagree

end Eval

/-! ## The statement -/

/-- A sum or difference of an expression, which is no percentage, and a percentage is
evaluated as the expression, the expression again, the percentage once, and then the first value
plus or minus a share of the second one, in every session and scope.  If the expression leaves
the session as it was, this is what one evaluation of it comes to.  If it binds no name and names
no function that changes cells, at the root of a session that no function can be reached in, both
have the same value or the same error, in sessions that nobody can tell apart. -/
theorem runs_share_as_sum {op : BinaryOp} (hop : op = .add ∨ op = .sub) {e : Expr}
    (he : e.isPercentage = false) (p : Expr) (ctx : Context) (bound percentOffset offset : Nat) :
    let sum := Grammar.combineSum op offset e (.unary .percent p percentOffset)
    (∀ scope, evalExpr ctx (callValue ctx bound) scope sum = (do
      let v ← evalExpr ctx (callValue ctx bound) scope e
      let base ← evalExpr ctx (callValue ctx bound) scope e
      let w ← evalExpr ctx (callValue ctx bound) scope p
      withShare ctx op v base w percentOffset offset)) ∧
    (∀ scope s, (∀ v t, evalExpr ctx (callValue ctx bound) scope e s = .ok v t → t = s) →
      evalExpr ctx (callValue ctx bound) scope sum s =
        sumWithShare ctx bound scope op e p percentOffset offset s) ∧
    ∀ s : Session, s.Reachable → s.CallableFree → e.Every Expr.Calm →
      Agree (sumWithShare ctx bound s.root op e p percentOffset offset s)
        (evalExpr ctx (callValue ctx bound) s.root sum s) :=
  ⟨fun scope => evalExpr_share he bound scope p,
    fun scope _ hstill => evalExpr_share_of_still he bound scope p hstill,
    fun _ hs hfree hcalm => agree_share hop he hcalm bound p hs hfree⟩

theorem runs_share_as_sum_name :
    let ctx := Context.ofClock ⟨0, 0⟩ (.fixed 0)
    let s := sessionAfter (evaluate ctx "a = 50") .empty
    let e := Expr.name "a" 0
    let sum := Grammar.combineSum .sub 2 e (.unary .percent (.number (.ofNat 10) [] 4) 6)
    let once := sumWithShare ctx callBound s.root .sub e (.number (.ofNat 10) [] 4) 6 2
    e.isPercentage = false ∧ s.Reachable ∧ s.CallableFree ∧ e.Every Expr.Calm ∧
      (∀ v t, evalExpr ctx (callValue ctx callBound) s.root e s = .ok v t → t = s) ∧
      evalExpr ctx (callValue ctx callBound) s.root sum s = once s ∧
      Agree (once s) (evalExpr ctx (callValue ctx callBound) s.root sum s) := by
  intro ctx s e sum once
  have hs : s.Reachable := .evaluate .empty (endsIn_sessionAfter _ _)
  have hall : s.All fun v => v.isCallable = false := by decide +kernel
  have hfree : s.CallableFree := fun v hv => hv.prop hall
  have hcalm : e.Every Expr.Calm :=
    .node (by decide : "a" ∉ Builtin.changers) (List.forall_mem_nil _)
  have hbound : (s.lookup s.root "a").isSome = true := by decide +kernel
  obtain ⟨current, hcurrent⟩ := Option.isSome_iff_exists.1 hbound
  have hstill (v : Value) (t : Session)
      (h : evalExpr ctx (callValue ctx callBound) s.root e s = .ok v t) : t = s := by
    have hname := nameValue_of_lookup hcurrent 0
    rw [evalExpr, hname] at h
    exact (EStateM.Result.ok.inj h).2.symm
  obtain ⟨-, honce, hagree⟩ := runs_share_as_sum (.inr rfl) (e := e) rfl
    (.number (.ofNat 10) [] 4) ctx callBound 6 2
  exact ⟨rfl, hs, hfree, hcalm, hstill, honce s.root s hstill, hagree s hs hfree hcalm⟩

/-- The text of the value of a computation. -/
def resultText (m : EvalM Value) (s : Session) : Option String :=
  match m s with
  | .ok v t => some (t.render v)
  | .error _ _ => none

/-- Where `a` is `[100, 50]`, `pop(a) + 10%` gives 60 and leaves nothing of `a`; one evaluation
of `pop(a)`, with a tenth of its value added, gives 55 and leaves `[100]`. -/
theorem exists_share_ne_sum :
    let ctx := Context.ofClock ⟨0, 0⟩ (.fixed 0)
    let s := sessionAfter (evaluate ctx "a = [100, 50]") .empty
    let e := Expr.call "pop" [.name "a" 4] 0
    let p := Expr.number (.ofNat 10) [] 9
    let shared := evalExpr ctx (callValue ctx callBound) s.root
      (Grammar.combineSum .add 7 e (.unary .percent p 11))
    let once := sumWithShare ctx callBound s.root .add e p 11 7
    let whole := evaluate ctx "pop(a) + 10%"
    s.Reachable ∧ e.isPercentage = false ∧
      (resultText whole s = some "60" ∧
        ((sessionAfter whole s).get? "a").map (sessionAfter whole s).render = some "[]") ∧
      (resultText shared s = some "60" ∧
        ((sessionAfter shared s).get? "a").map (sessionAfter shared s).render = some "[]") ∧
      (resultText once s = some "55" ∧
        ((sessionAfter once s).get? "a").map (sessionAfter once s).render = some "[100]") := by
  intro ctx s e p shared once whole
  refine ⟨.evaluate .empty (endsIn_sessionAfter _ _), rfl, ?_⟩
  decide +kernel

end Reckoner
