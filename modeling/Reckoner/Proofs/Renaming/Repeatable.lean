import Reckoner.Proofs.Renaming.Evaluate
import Reckoner.Proofs.Renaming.Packed

/-!
# Expressions that change nothing can be repeated

An expression that binds no name and names none of `push`, `append`, `pop` and
`set` changes nothing where no function can be reached from the names of the root.
It leaves new cells and scopes behind, and so what follows gets other numbers; but
nothing sees them.  Evaluated again it does the same, with other numbers for what is
new.

* `Session.Repeatable` says all that of a computation.
* `repeatable_evalExpr` is the statement.

The session that the second evaluation starts from is not the first one with
other numbers: it has more that cannot be reached.  But both are the same packed
session with other numbers, so both evaluations go as that of the packed session
goes.
-/

namespace Reckoner

open Eval Renamable

/-! ## Expressions -/

/-- The node binds no name and names no function that changes cells. -/
def Expr.Calm : Expr → Prop
  | assign _ _ _ _ => False
  | e => e.Tame

theorem Expr.Calm.tame {e : Expr} (h : e.Calm) : e.Tame := by
  cases e with
  | assign name value compound offset => exact h.elim
  | _ => exact h

theorem Expr.not_assigns_of_calm {e : Expr} (he : e.Every Calm) (name : String) :
    ¬ e.Assigns name := by
  intro h
  induction h with
  | here => exact he.here
  | operand hc _ ih => exact ih (he.child _ (mem_children_of_mem_operands hc))

/-- An expression that binds no name and names no function that changes cells leaves all as
it was, if the functions of the session change no cells. -/
theorem undisturbed_of_calm (ctx : Context) (bound : Nat) {s : Session} (hs : s.Tame) {scope : Nat}
    {e : Expr} (he : e.Every Expr.Calm) :
    s.Undisturbed (sessionAfter (evalExpr ctx (callValue ctx bound) scope e) s) :=
  undisturbed_evalExpr ctx bound hs scope (he.imp fun _ h => h.tame) (Expr.not_assigns_of_calm he)

/-! ## What is new -/

namespace Renaming

/-- The numbers below `n` stay, and the others follow those below `m`. -/
def shift (n m i : Nat) : Nat := if i < n then i else m + (i - n)

theorem shift_of_lt {n m i : Nat} (h : i < n) : shift n m i = i := if_pos h

theorem shift_add (n m k : Nat) : shift n m (n + k) = m + k := by
  rw [shift, if_neg (by omega), Nat.add_sub_cancel_left]

theorem injective_shift {n m : Nat} (h : n ≤ m) : Function.Injective (shift n m) := by
  intro i j hij
  unfold shift at hij
  split at hij <;> split at hij <;> omega

/-- What is in `s` keeps its number, and what is new gets the numbers after those of
`t`. -/
def renewing (s t : Session) : Renaming where
  cell := shift s.cells.size t.cells.size
  scope := shift s.scopes.size t.scopes.size
  identity := shift s.identity t.identity

theorem injective_renewing {s t : Session} (hcells : s.cells.size ≤ t.cells.size)
    (hscopes : s.scopes.size ≤ t.scopes.size) (hidentity : s.identity ≤ t.identity) :
    (renewing s t).Injective :=
  ⟨injective_shift hcells, injective_shift hscopes, injective_shift hidentity⟩

/-- Unpacked in a later session, the cells have the numbers that they had, and what is
new gets new ones. -/
theorem unpacking_eq_after {s t : Session} {live : List Nat} (hlive : ∀ c ∈ live, c < s.cells.size)
    (hroot : t.root = s.root) (hroot_lt : s.root < s.scopes.size) :
    unpacking live t = (renewing s t).after (unpacking live s) := by
  refine congr (congrArg₂ Renaming.mk (funext fun c => ?_) (funext fun i => ?_))
    (funext fun i => ?_)
  · rcases Nat.lt_or_ge c live.length with hc | hc
    · show (unpacking live t).cell c = shift _ _ ((unpacking live s).cell c)
      rw [unpacking_cell_of_lt hc, unpacking_cell_of_lt hc,
        shift_of_lt (hlive _ (List.getElem_mem hc))]
    · show (unpacking live t).cell c = shift _ _ ((unpacking live s).cell c)
      rw [unpacking_cell_of_le hc, unpacking_cell_of_le hc, shift_add]
  · cases i with
    | zero => exact hroot.trans (shift_of_lt hroot_lt).symm
    | succ i => exact (shift_add s.scopes.size t.scopes.size i).symm
  · exact (shift_add s.identity t.identity i).symm

end Renaming

namespace Session

/-- A computation, in a session and then again in the session it leaves behind: nothing
that was there changes, and the second run ends as the first one did, but for the numbers
of what is new. -/
structure Repeatable (m : EvalM Value) (s t u : Session) : Prop where
  undisturbed : s.Undisturbed t
  undisturbed_again : t.Undisturbed u
  injective : (Renaming.renewing s t).Injective
  ok : ∀ v, m s = .ok v t →
    m t = .ok (v.renamed (.renewing s t)) u ∧ u.render (v.renamed (.renewing s t)) = t.render v
  error : ∀ stop, m s = .error stop t → m t = .error stop u
  new_cell : ∀ k, u.cells[t.cells.size + k]? =
    t.cells[s.cells.size + k]?.map (Cell.renamed (.renewing s t))
  new_scope : ∀ k, u.scopes[t.scopes.size + k]? =
    t.scopes[s.scopes.size + k]?.map (Scope.renamed (.renewing s t))

/-! ## The statement -/

section

variable {ρ : Renaming} {s s' t t' : Session}

theorem Embeds.lt_scopes_iff {base : Session} (h : Embeds ρ base s s') {i : Nat} :
    ρ.scope i < s'.scopes.size ↔ i < s.scopes.size := by
  have hnone : s'.scopes[ρ.scope i]? = none ↔ s.scopes[i]? = none := by
    rw [h.scope_eq, Option.map_eq_none_iff]
  rw [Array.getElem?_eq_none_iff, Array.getElem?_eq_none_iff] at hnone
  omega

/-- What comes of a session next to which nothing has changed. -/
theorem Undisturbed.renamed (hst : s.Undisturbed t) (hs : Embeds ρ s' s s')
    (ht : Embeds ρ s' t t') : s'.Undisturbed t' where
  root_eq := by rw [ht.root_eq, hst.root_eq, ← hs.root_eq]
  size_le := by
    obtain ⟨k, hk⟩ := Nat.exists_eq_add_of_le hst.size_le
    rw [← ht.new_cell, hk, hs.next_cell]
    exact Nat.le_add_right _ _
  cell_eq c hc := by
    by_cases hold : ∃ d, ρ.cell d = c
    · obtain ⟨d, rfl⟩ := hold
      rw [ht.cell_eq, hst.cell_eq d (hs.lt_size_iff.1 hc), hs.cell_eq]
    · exact ht.cell_kept c fun d hd => hold ⟨d, hd⟩
  scopes_le := by
    obtain ⟨k, hk⟩ := Nat.exists_eq_add_of_le hst.scopes_le
    rw [← ht.new_scope, hk, hs.next_scope]
    exact Nat.le_add_right _ _
  scope_eq i hi := by
    by_cases hold : ∃ j, ρ.scope j = i
    · obtain ⟨j, rfl⟩ := hold
      rw [ht.scope_eq, hst.scope_eq j (hs.lt_scopes_iff.1 hi), hs.scope_eq]
    · exact ht.scope_kept i fun j hj => hold ⟨j, hj⟩

theorem undisturbed_refl (s : Session) : s.Undisturbed s where
  toCellsKept := cellsKept_of_cells_eq rfl rfl
  scopes_le := le_rfl
  scope_eq _ _ := rfl

end

end Session

/-- Two computations that both go as one of a third session goes, which the first of them
starts from and the second, after the first, again. -/
theorem repeatable_of_mirrors {ρ σ : Renaming} {s t p : Session} {m m' : EvalM Value}
    (hs : Alike ρ s p s) (ht : Alike σ t p t) (hafter : σ = (Renaming.renewing s t).after ρ)
    (hfirst : Mirrors ρ s p s m' m) (hsecond : Mirrors σ t p t m' m)
    (hp : p.Undisturbed (sessionAfter m' p))
    (hidentity : p.identity ≤ (sessionAfter m' p).identity) (hm : sessionAfter m s = t) :
    s.Repeatable m t (sessionAfter m t) := by
  have hst := hp.renamed hs.embeds hfirst.alike.embeds
  have hend := hfirst.alike.embeds
  have hagain := hsecond.alike.embeds
  rw [hm] at hst hend
  have hidentity : s.identity ≤ t.identity := by
    obtain ⟨k, hk⟩ := Nat.exists_eq_add_of_le hidentity
    rw [← hend.new_identity, hk, hs.embeds.next_identity]
    exact Nat.le_add_right _ _
  refine ⟨hst, hp.renamed ht.embeds hagain,
    Renaming.injective_renewing hst.size_le hst.scopes_le hidentity,
    fun v hv => ?_, fun stop hstop => ?_, fun k => ?_, fun k => ?_⟩
  · cases hres : m' p with
    | error stop q =>
      obtain ⟨t', herror⟩ := hfirst.of_error hres
      cases hv.symm.trans herror
    | ok x q =>
      obtain ⟨hx, t', hok⟩ := hfirst.of_ok hres
      obtain ⟨-, u, hu⟩ := hsecond.of_ok hres
      have hvalue : v = x.renamed ρ := (EStateM.Result.ok.inj (hv.symm.trans hok)).1
      have hnew : v.renamed (.renewing s t) = x.renamed σ := by
        rw [hvalue, Value.renamed_renamed, ← hafter]
      have hq : sessionAfter m' p = q := (endsIn_sessionAfter m' p).eq_of_ok hres
      have htidy := hsecond.alike.tidy
      rw [hq] at hend hagain htidy
      rw [hnew, hvalue, hend.render_renamed htidy hx, hagain.render_renamed htidy hx,
        (endsIn_sessionAfter m t).eq_of_ok hu]
      exact ⟨hu, rfl⟩
  · cases hres : m' p with
    | error stop' q =>
      obtain ⟨t', herror⟩ := hfirst.of_error hres
      obtain ⟨u, hu⟩ := hsecond.of_error hres
      have hsame : stop = stop' := (EStateM.Result.error.inj (hstop.symm.trans herror)).1
      rw [hsame, (endsIn_sessionAfter m t).eq_of_error hu]
      exact hu
    | ok x q =>
      obtain ⟨-, t', hok⟩ := hfirst.of_ok hres
      cases hstop.symm.trans hok
  · rw [← hs.embeds.next_cell, ← ht.embeds.next_cell, hend.cell_eq, hagain.cell_eq,
      Option.map_map, hafter]
    exact congrArg (Option.map · _) (funext fun cell => (Cell.renamed_renamed _ ρ cell).symm)
  · rw [← hs.embeds.next_scope, ← ht.embeds.next_scope, hend.scope_eq, hagain.scope_eq,
      Option.map_map, hafter]
    exact congrArg (Option.map · _) (funext fun sc => (Scope.renamed_renamed _ ρ sc).symm)

/-- A session that no function can be reached in is a packed one with other numbers, next
to all the rest; and so is every later session in which nothing has changed. -/
theorem Session.Reachable.exists_packed {s : Session} (hs : s.Reachable) (hfree : s.CallableFree) :
    ∃ (p : Session) (σ : Session → Renaming), p.Tame ∧ p.identity = 0 ∧
      ∀ t, s.Undisturbed t → t.depth = s.depth →
        Alike (σ t) t p t ∧ σ t = (Renaming.renewing s t).after (σ s) := by
  have hsep := hs.separate
  obtain ⟨rank, hrank⟩ := hsep.ranked
  obtain ⟨names, hroot⟩ := hsep.root_scope
  rw [← hsep.root_eq] at hroot
  obtain ⟨live, hlive⟩ := exists_covers hsep.all_within hfree
  refine ⟨s.packed live, .unpacking live, tame_packed hlive, rfl, fun t ht hdepth => ⟨?_, ?_⟩⟩
  · exact ⟨embeds_packed hlive hroot ht hdepth, tidy_packed hlive hrank⟩
  · exact Renaming.unpacking_eq_after hlive.lt_size ht.root_eq
      (Array.getElem?_eq_some_iff.1 hroot).1

/-- An expression that binds no name and names no function that changes cells, at the
root of a session that no function can be reached in, changes nothing that was there,
and does the same when it is evaluated again. -/
theorem repeatable_evalExpr (ctx : Context) (bound : Nat) {s : Session} (hs : s.Reachable)
    (hfree : s.CallableFree) {e : Expr} (he : e.Every Expr.Calm) :
    let m := evalExpr ctx (callValue ctx bound) s.root e
    s.Repeatable m (sessionAfter m s) (sessionAfter m (sessionAfter m s)) := by
  intro m
  obtain ⟨p, σ, htame, hidentity, hpacked⟩ := hs.exists_packed hfree
  let mp := evalExpr ctx (callValue ctx bound) p.root e
  have hp : p.Undisturbed (sessionAfter mp p) := undisturbed_of_calm ctx bound htame he
  -- the first evaluation goes as that of the packed session
  have hfirst := (hpacked s (Session.undisturbed_refl s) rfl).1
  have hm : Mirrors (σ s) s p s mp m := mirrors_evalCalls hfirst ctx bound e
  have ht : s.Undisturbed (sessionAfter m s) := hp.renamed hfirst.embeds hm.alike.embeds
  -- and so does the second one
  obtain ⟨hsecond, hafter⟩ := hpacked _ ht (depth_evalExpr ctx bound s s.root e)
  have hm' := mirrors_evalCalls hsecond ctx bound e
  rw [ht.root_eq] at hm'
  exact repeatable_of_mirrors hfirst hsecond hafter hm hm' hp (hidentity ▸ Nat.zero_le _) rfl

/-- The expression `map(a, (x) => x + 1)`. -/
def successors : Expr :=
  .call "map" [.name "a" 4,
    .lambda none ["x"] (.binary .add (.name "x" 14) (.number (.ofNat 1) [] 18) 16) 7] 0

theorem repeatable_evalExpr_successors :
    let ctx := Context.ofClock ⟨0, 0⟩ (.fixed 0)
    let s := sessionAfter (evaluate ctx "a = [1]") .empty
    let m := evalExpr ctx (callValue ctx callBound) s.root successors
    s.Reachable ∧ s.CallableFree ∧ successors.Every Expr.Calm ∧
      s.Repeatable m (sessionAfter m s) (sessionAfter m (sessionAfter m s)) := by
  intro ctx s m
  have hs : s.Reachable := .evaluate .empty (endsIn_sessionAfter _ _)
  have hall : s.All fun v => v.isCallable = false := by decide +kernel
  have hfree : s.CallableFree := fun v hv => hv.prop hall
  have hname {text : String} (offset : Nat) (h : text ∉ Builtin.changers) :
      (Expr.name text offset).Every Expr.Calm := .node h (List.forall_mem_nil _)
  have hbody : (Expr.binary .add (.name "x" 14) (.number (.ofNat 1) [] 18) 16).Every Expr.Calm :=
    .node trivial <| List.forall_mem_cons.2 ⟨hname 14 (by decide), List.forall_mem_singleton.2 <|
      .node trivial (List.forall_mem_nil _)⟩
  have he : successors.Every Expr.Calm :=
    .node (by decide : "map" ∉ Builtin.changers) <| List.forall_mem_cons.2
      ⟨hname 4 (by decide), List.forall_mem_singleton.2 <| .node trivial <|
        List.forall_mem_singleton.2 hbody⟩
  exact ⟨hs, hfree, he, repeatable_evalExpr ctx callBound hs hfree he⟩

-- Both evaluations give `[2]`, in a cell that comes last, and `a` is what it was.
example :
    let ctx := Context.ofClock ⟨0, 0⟩ (.fixed 0)
    let s := sessionAfter (evaluate ctx "a = [1]") .empty
    let m := evalExpr ctx (callValue ctx callBound) s.root successors
    let t := sessionAfter m s
    let u := sessionAfter m t
    t.cells.size < u.cells.size ∧ t.render (.array (t.cells.size - 1)) = "[2]" ∧
      u.render (.array (u.cells.size - 1)) = "[2]" ∧ (u.get? "a").map u.render = some "[1]" := by
  decide +kernel

end Reckoner
