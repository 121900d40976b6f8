import Reckoner.Proofs.Assignment.Failure
import Reckoner.Proofs.Assignment.Offset
import Reckoner.Proofs.Grammar.Enclosed

/-!
# Compound assignments

`x += e` is meant as `x = x + (e)`, and `x -= e` as `x = x - (e)`.  The two come to
the same (`runs_compound_as_expansion`), except in three cases:

* `e` assigns `x` itself: the compound assignment reads `x` after `e`, its
  expansion before;
* `e` is a percentage: behind a sign it is a share of what stands before it;
* the parentheses change how `e` is read (see `Expr.ofTokens_enclosed`).
-/

namespace Reckoner

/-- Whether an expression is a percentage. -/
def Expr.isPercentage : Expr → Bool
  | unary .percent _ _ => true
  | _ => false

namespace Grammar

/-! ## How the two are read -/

variable {expr : Reader Expr}

/-- What is read of a list is read of it with brackets that may nest deeper. -/
theorem expression_mono {depth depth' : Nat} (h : depth ≤ depth') {ts rest : List Placed} {e : Expr}
    (hread : expression depth ts = .ok (e, rest)) : expression depth' ts = .ok (e, rest) := by
  obtain ⟨us, hread', halike, -⟩ := imitates_expression h (alike_refl ts) hread
  rw [hread', halike.eq_of_open]

/-- An expression behind what is read as a name, and an equals sign or the sign of a compound
assignment. -/
theorem ofTokens_assign_of_target {t : Placed} (target : Expr) {x : String} {m : Mark}
    {compound : Option BinaryOp} {o : Nat} {ts : List Placed} {e : Expr}
    (hm : assignOp? (.mark m) = some compound) (hx : targetName? target = some x)
    (htarget : ∀ depth, conditional (expression depth) (t :: ⟨.mark m, o⟩ :: ts) =
      .ok (target, ⟨.mark m, o⟩ :: ts))
    (hhead : definitionHead? (t :: ⟨.mark m, o⟩ :: ts) = none)
    (hread : Expr.ofTokens ts = .ok e) :
    Expr.ofTokens (t :: ⟨.mark m, o⟩ :: ts) = .ok (.assign x e compound o) := by
  obtain ⟨depth, hdepth, hle⟩ :
      ∃ d, depthBound (t :: ⟨.mark m, o⟩ :: ts) = d + 1 ∧ depthBound ts ≤ d := by
    have hmark : tokenDepth (.mark m) = 1 := rfl
    rw [depthBound_cons, depthBound_cons, hmark]
    exact ⟨tokenDepth t.token + depthBound ts, by omega, by omega⟩
  have hstatement {rest : List Placed} {e : Expr} (h : expression depth ts = .ok (e, rest)) :
      expression (depth + 1) (t :: ⟨.mark m, o⟩ :: ts) = .ok (.assign x e compound o, rest) := by
    rw [expression, statement, hhead]
    dsimp only
    rw [assignment, htarget]
    dsimp only [bind, Except.bind]
    rw [hm]
    dsimp only
    rw [hx]
    dsimp only
    rw [h]
  unfold Expr.ofTokens complete at hread ⊢
  rw [hdepth]
  cases hexpr : expression (depthBound ts) ts with
  | error _ =>
    rw [hexpr] at hread
    cases hread
  | ok p =>
    obtain ⟨e', rest⟩ := p
    rw [hexpr] at hread
    rw [hstatement (expression_mono hle hexpr)]
    cases rest with
    | nil =>
      cases hread
      rfl
    | cons t rest =>
      dsimp only at hread ⊢
      split at hread
      · cases hread
        rw [if_pos ‹_›]
      · cases hread

/-- An expression behind a name and an equals sign, or the sign of a compound
assignment. -/
theorem ofTokens_assign {x : String} {m : Mark} {compound : Option BinaryOp}
    (hm : assignOp? (.mark m) = some compound) (o o' : Nat) {ts : List Placed} {e : Expr}
    (hread : Expr.ofTokens ts = .ok e) :
    Expr.ofTokens (⟨.name x, o⟩ :: ⟨.mark m, o'⟩ :: ts) = .ok (.assign x e compound o') := by
  refine ofTokens_assign_of_target (.name x o) hm rfl (fun depth => ?_) ?_ hread
  · cases m with
    | equals | plusAssign | minusAssign => rfl
    | _ => cases hm
  · cases m with
    | equals | plusAssign | minusAssign => rfl
    | _ => cases hm

/-- Two products with a sign between them. -/
theorem sum_of_products {ts rest rest' : List Placed} {left right : Expr} {m : Mark} {o : Nat}
    {op : BinaryOp} (hm : sumOp? (.mark m) = some op)
    (hleft : product expr ts = .ok (left, ⟨.mark m, o⟩ :: rest))
    (hright : product expr rest = .ok (right, rest')) (hrest : Follows .comparison rest') :
    sum expr ts = .ok (combineSum op o left right, rest') := by
  rw [sum, leftGrouped, hleft]
  dsimp only [bind, Except.bind]
  rw [List.length_cons, chain]
  dsimp only
  rw [hm]
  dsimp only [Option.map_some, bind, Except.bind]
  rw [hright]
  exact chain_sum_stop _ _ _ hrest

/-- A name, a sign and an expression in parentheses. -/
theorem ofTokens_name_sum {x : String} {m : Mark} {op : BinaryOp} {ts : List Placed}
    {last opening paren final : Placed} {e : Expr} (hm : sumOp? (.mark m) = some op) (o o' : Nat)
    (hts : ∀ t ∈ ts, t.token ≠ .finish) (hlast : last.token = .finish)
    (hopening : opening.token = .mark .leftParen) (hparen : paren.token = .mark .rightParen)
    (hfinal : final.token = .finish) (hsplit : ¬ Split (ts ++ [last]))
    (hread : Expr.ofTokens (ts ++ [last]) = .ok e) :
    Expr.ofTokens (⟨.name x, o⟩ :: ⟨.mark m, o'⟩ :: opening :: (ts ++ [paren, final])) =
      .ok (combineSum op o' (.name x o) e) := by
  have hdepth : ∃ n, depthBound (⟨.name x, o⟩ :: ⟨.mark m, o'⟩ :: opening ::
      (ts ++ [paren, final])) = n + 1 ∧ depthBound (ts ++ [last]) ≤ n := by
    have hends : depthBound [last] ≤ depthBound [paren, final] := by
      simp [depthBound, hlast, hparen, hfinal]
    have hle := depthBound_append ts hends
    have hname : tokenDepth (.name x) = 1 := rfl
    have hmark : tokenDepth (.mark m) = 1 := rfl
    rw [depthBound_cons, depthBound_cons, depthBound_cons, hname, hmark]
    exact ⟨1 + (tokenDepth opening.token + depthBound (ts ++ [paren, final])), by omega, by omega⟩
  obtain ⟨n, hn, hle⟩ := hdepth
  obtain ⟨final', hfinal', hoperand⟩ :=
    operand_enclosed hts hlast hopening hparen hfinal hsplit hle hread
  have hend : Follows .whole [final'] := ⟨.whole, hfinal' ▸ rfl, Nat.le_refl _⟩
  have hleft : product (expression n) (⟨.name x, o⟩ :: ⟨.mark m, o'⟩ :: opening ::
      (ts ++ [paren, final])) = .ok (.name x o, ⟨.mark m, o'⟩ :: opening ::
      (ts ++ [paren, final])) := by
    cases m with
    | plus | minus => rfl
    | _ => cases hm
  have hhead : definitionHead? (⟨.name x, o⟩ :: ⟨.mark m, o'⟩ :: opening ::
      (ts ++ [paren, final])) = none := by
    cases m with
    | plus | minus => rfl
    | _ => cases hm
  have hright := product_of_operand hoperand (hend.mono (by decide)) (by rw [hopening]; rfl)
  have hsum := sum_of_products hm hleft hright (hend.mono (by decide))
  have hwhole : expression (n + 1) (⟨.name x, o⟩ :: ⟨.mark m, o'⟩ :: opening ::
      (ts ++ [paren, final])) = .ok (combineSum op o' (.name x o) e, [final']) :=
    statement_of_sum hsum hend hhead
  rw [Expr.ofTokens, hn, complete, hwhole]
  simp only [hfinal', if_true]

theorem combineSum_name {op : BinaryOp} {x : String} {e : Expr} (he : e.isPercentage = false)
    (o o' : Nat) : combineSum op o (.name x o') e = .binary op (.name x o') e o := by
  cases e with
  | unary sign y o => cases sign with
    | percent => cases he
    | _ => rfl
  | _ => rfl

end Grammar

namespace Eval

/-! ## How the two are evaluated -/

variable {ctx : Context} {s : Session}

/-- A compound assignment of an expression that leaves the name alone comes to the
same as the assignment of the sum or the difference. -/
theorem sameEnd_compound {op : BinaryOp} (hop : op = .add ∨ op = .sub) (bound scope : Nat)
    {x : String} {e : Expr} (he : ¬ e.Assigns x) (hx : (s.lookup scope x).isSome)
    (o o₁ o₂ o₃ : Nat) :
    SameEnd (evalExpr ctx (callValue ctx bound) scope (.assign x e (some op) o) s)
      (evalExpr ctx (callValue ctx bound) scope
        (.assign x (.binary op (.name x o₁) e o₂) none o₃) s) := by
  obtain ⟨current, hcurrent⟩ := Option.isSome_iff_exists.1 hx
  have hretains := retains_evalExpr ctx bound s scope he
  have hname := nameValue_of_lookup hcurrent o₁
  have hcompound : evalExpr ctx (callValue ctx bound) scope (.assign x e (some op) o) s =
      (evalExpr ctx (callValue ctx bound) scope e >>= fun v =>
        assign ctx scope x (some op) v o) s := by
    rw [evalExpr]
  have hexpanded : evalExpr ctx (callValue ctx bound) scope
      (.assign x (.binary op (.name x o₁) e o₂) none o₃) s =
      (evalExpr ctx (callValue ctx bound) scope e >>= fun v => binary ctx op current v o₂ >>=
        fun w => assign ctx scope x none w o₃) s := by
    rw [evalExpr, evalExpr, evalExpr, bind_assoc, bind_of_ok hname, bind_assoc]
  rw [hcompound, hexpanded]
  cases hrun : evalExpr ctx (callValue ctx bound) scope e s with
  | error stop t =>
    rw [bind_of_error hrun, bind_of_error hrun]
    exact sameEnd_refl _
  | ok v t =>
    rw [(endsIn_sessionAfter _ s).eq_of_ok hrun] at hretains
    rw [bind_of_ok hrun, bind_of_ok hrun, assign_some, hretains.lookup_eq hcurrent]
    exact (sameEnd_binary hop current v t).bind _

end Eval

/-! ## Both together -/

theorem Grammar.eq_add_or_sub {t : Token} {op : BinaryOp} (h : sumOp? t = some op) :
    op = .add ∨ op = .sub := by
  unfold sumOp? at h
  split at h
  · exact .inl (Option.some.inj h).symm
  · exact .inr (Option.some.inj h).symm
  · cases h

/-- A compound assignment comes to the same as its expansion: the same value or an
error of the same cause, in the same session.  This holds for every name that is
bound and all tokens that are read as an expression on their own, unless this
is a percentage or assigns the name, or the parentheses change how it is read. -/
theorem runs_compound_as_expansion {x : String} {op : BinaryOp} {sign assign : Mark}
    {ts : List Placed} {last opening paren final : Placed} {e : Expr} (o₁ o₂ o₃ o₄ o₅ o₆ : Nat)
    (hsign : Grammar.sumOp? (.mark sign) = some op)
    (hassign : Grammar.assignOp? (.mark assign) = some (some op))
    (hts : ∀ t ∈ ts, t.token ≠ .finish) (hlast : last.token = .finish)
    (hopening : opening.token = .mark .leftParen) (hparen : paren.token = .mark .rightParen)
    (hfinal : final.token = .finish) (hread : Expr.ofTokens (ts ++ [last]) = .ok e)
    (hsplit : ¬ Grammar.Split (ts ++ [last])) (hpercent : e.isPercentage = false)
    (hx : ¬ e.Assigns x) :
    ∃ compound expanded,
      Expr.ofTokens (⟨.name x, o₁⟩ :: ⟨.mark assign, o₂⟩ :: (ts ++ [last])) = .ok compound ∧
      Expr.ofTokens (⟨.name x, o₃⟩ :: ⟨.mark .equals, o₄⟩ :: ⟨.name x, o₅⟩ :: ⟨.mark sign, o₆⟩ ::
        opening :: (ts ++ [paren, final])) = .ok expanded ∧
      ∀ ctx bound s scope, (s.lookup scope x).isSome →
        SameEnd (Eval.evalExpr ctx (Eval.callValue ctx bound) scope compound s)
          (Eval.evalExpr ctx (Eval.callValue ctx bound) scope expanded s) := by
  have hsum := Grammar.ofTokens_name_sum (x := x) hsign o₅ o₆ hts hlast hopening hparen hfinal
    hsplit hread
  rw [Grammar.combineSum_name hpercent] at hsum
  refine ⟨_, _, Grammar.ofTokens_assign hassign o₁ o₂ hread,
    Grammar.ofTokens_assign rfl o₃ o₄ hsum, fun ctx bound s scope hbound => ?_⟩
  exact Eval.sameEnd_compound (Grammar.eq_add_or_sub hsign) bound scope hx hbound o₂ o₅ o₆ o₄

/-- The tokens of `f(y)`, without the final one. -/
def oneCall : List Placed :=
  [⟨.name "f", 9⟩, ⟨.mark .leftParen, 10⟩, ⟨.name "y", 11⟩, ⟨.mark .rightParen, 12⟩]

/-- Whether an expression is a call with a name as its argument. -/
def isCallOfName : Checked Expr → Bool
  | .ok (.call _ [.name _ _] _) => true
  | _ => false

theorem runs_compound_as_expansion_oneCall :
    ∃ e, (∀ t ∈ oneCall, t.token ≠ .finish) ∧
      Expr.ofTokens (oneCall ++ [⟨.finish, 13⟩]) = .ok e ∧
      ¬ Grammar.Split (oneCall ++ [⟨.finish, 13⟩]) ∧ e.isPercentage = false ∧ ¬ e.Assigns "x" ∧
      ∃ compound expanded,
        Expr.ofTokens (⟨.name "x", 0⟩ :: ⟨.mark .minusAssign, 6⟩ ::
          (oneCall ++ [⟨.finish, 13⟩])) = .ok compound ∧
        Expr.ofTokens (⟨.name "x", 0⟩ :: ⟨.mark .equals, 2⟩ :: ⟨.name "x", 4⟩ ::
          ⟨.mark .minus, 6⟩ :: ⟨.mark .leftParen, 8⟩ ::
          (oneCall ++ [⟨.mark .rightParen, 13⟩, ⟨.finish, 14⟩])) = .ok expanded ∧
        ∀ ctx bound s scope, (s.lookup scope "x").isSome →
          SameEnd (Eval.evalExpr ctx (Eval.callValue ctx bound) scope compound s)
            (Eval.evalExpr ctx (Eval.callValue ctx bound) scope expanded s) := by
  have hts : ∀ t ∈ oneCall, t.token ≠ .finish := by decide
  have hread : isCallOfName (Expr.ofTokens (oneCall ++ [⟨.finish, 13⟩])) = true := by
    decide
  have hsplit : ¬ Grammar.Split (oneCall ++ [⟨.finish, 13⟩]) := by
    rintro ⟨front, t, rest, heq, ht, -⟩
    have hloose : ∀ t ∈ oneCall ++ [⟨.finish, 13⟩], Grammar.bindsTight t.token = false := by
      decide
    exact absurd (hloose t (heq ▸ by simp)) (by simp [ht])
  unfold isCallOfName at hread
  split at hread
  · rename_i f y o o' heq
    have hx : ¬ (Expr.call f [.name y o] o').Assigns "x" := by
      rintro (_ | ⟨hc, h⟩)
      rw [List.mem_singleton.1 hc] at h
      obtain _ | ⟨hc, -⟩ := h
      cases hc
    exact ⟨_, hts, heq, hsplit, rfl, hx,
      runs_compound_as_expansion 0 6 0 2 4 6 rfl rfl hts rfl rfl rfl rfl heq hsplit rfl hx⟩
  · cases hread

/-- The text of what `x` is bound to after a source. -/
def textOfX (ctx : Context) (source : String) (s : Session) : Option String :=
  let t := sessionAfter (evaluate ctx source) s
  (t.get? "x").map t.render

/-- Three sums that an expansion changes: one with an assignment of `x` in it, a
percentage, and one whose conversion ends the source. -/
theorem exists_compound_ne_expansion :
    let ctx := Context.ofClock ⟨0, 0⟩ (.fixed 0)
    let one := sessionAfter (evaluate ctx "x = 1") .empty
    let hundred := sessionAfter (evaluate ctx "x = 100") .empty
    let blank := sessionAfter (evaluate ctx "x = ''") .empty
    (one.Reachable ∧ textOfX ctx "x += (x = 5)" one = some "10" ∧
      textOfX ctx "x = x + ((x = 5))" one = some "6") ∧
    (hundred.Reachable ∧ textOfX ctx "x += 10%" hundred = some "100.1" ∧
      textOfX ctx "x = x + (10%)" hundred = some "110") ∧
    (blank.Reachable ∧ textOfX ctx "x += 2 km + 3 km in m" blank = some "5000 m" ∧
      textOfX ctx "x = x + (2 km + 3 km in m)" blank = some "5 km") := by
  intro ctx one hundred blank
  refine ⟨⟨.evaluate .empty (endsIn_sessionAfter _ _), ?_⟩,
    ⟨.evaluate .empty (endsIn_sessionAfter _ _), ?_⟩,
    ⟨.evaluate .empty (endsIn_sessionAfter _ _), ?_⟩⟩ <;> decide +kernel

end Reckoner
