import Reckoner.Proofs.Assignment.Compound
import Reckoner.Proofs.Value.Copies

/-!
# Names that are bound are read back

A name can be bound as a parameter, by an assignment and by a definition.  A variable, a unit
and a zone are bound and looked up under the name as it is written.  A constant is bound so
too where it is a parameter or is defined, but it is looked up, and assigned to, under the one
name of the constant; and a constant is never called.

* `Token.aliases`: the constants that are written otherwise than they are looked up.
* `Grammar.nodeOf`: what such a token is read as where nothing goes on with it, with one lemma
  for each of the sources in question (`ofTokens_lone`, `ofTokens_identity` and so on).
* `callValue_closure`: the call of a function whose body is its parameter.
* `names_read_back` is the statement, with the exact conditions.
-/

namespace Reckoner

open Eval

/-! ## Names of bindings -/

namespace Token

/-- The name under which a token that can be bound is looked up. -/
def lookupName? : Token → Option String
  | constant text => some (((Constant.ofName? text).map Constant.name).getD text)
  | t => t.bindingName?

/-- The constants that are written otherwise than they are looked up. -/
def aliases : List Token := [constant "π", constant "PI", constant "τ", constant "φ"]

theorem lookupName?_ne_iff {t : Token} : t.lookupName? ≠ t.bindingName? ↔ t ∈ aliases := by
  cases t with
  | constant text =>
    simp only [lookupName?, bindingName?, aliases, Constant.ofName?]
    split
    all_goals simp_all [Constant.name]
  | _ => simp [lookupName?, bindingName?, aliases]

theorem lookupName?_isSome {t : Token} {n : String} (h : t.bindingName? = some n) :
    ∃ m, t.lookupName? = some m := by
  cases t with
  | constant text | name text | unit text | zone text => exact ⟨_, rfl⟩
  | _ => cases h

end Token

namespace Grammar

variable {expr : Reader Expr} {t u : Placed} {ts us rest : List Placed} {e : Expr} {n : String}

/-- What a token that can be bound is read as where it is not called. -/
def nodeOf (t : Placed) : Expr :=
  match t.token with
  | .constant text =>
    match Constant.ofName? text with
    | some c => .constant c t.offset
    | none => .name text t.offset
  | token => .name (token.bindingName?.getD "") t.offset

theorem targetName?_nodeOf (h : t.token.bindingName? = some n) :
    targetName? (nodeOf t) = t.token.lookupName? := by
  obtain ⟨token, offset⟩ := t
  cases token with
  | constant text =>
    simp only [nodeOf, Token.lookupName?]
    split
    · rename_i c hc
      simp [hc, targetName?]
    · rename_i hc
      simp [hc, targetName?]
  | name text | unit text | zone text => rfl
  | _ => cases h

/-! ## Sources that bind and read names -/

theorem exists_depth (ts : List Placed) (h : 2 ≤ ts.length) : ∃ d, depthBound ts = d + 1 + 1 :=
  ⟨depthBound ts - 2, by have := length_lt_depthBound ts; omega⟩

/-- A token that can be bound, as an operand that is not called. -/
theorem operand_binding (ht : t.token.bindingName? = some n) (harrow : u.token ≠ .mark .arrow)
    (hcall : u.token = .mark .leftParen → ∃ text, t.token = .constant text) :
    operand expr (t :: u :: rest) = .ok (nodeOf t, u :: rest) := by
  have hahead : lambdaAhead (t :: u :: rest) = false := by
    simp [lambdaAhead, ht, eat?, harrow]
  simp only [operand, hahead, Bool.false_eq_true, if_false]
  obtain ⟨token, offset⟩ := t
  have hname (text : String) (h : ∀ c, token ≠ .constant c) :
      nameOrCall expr text offset (u :: rest) = .ok (.name text offset, u :: rest) := by
    have hparen : eat? .leftParen (u :: rest) = none := if_neg fun hu => by
      obtain ⟨c, hc⟩ := hcall hu
      exact h c hc
    rw [nameOrCall, hparen]
  cases token with
  | name text | unit text | zone text => exact hname text (by simp)
  | constant text =>
    unfold operandAt nodeOf
    dsimp only
    split <;> simp [*]
  | _ => cases ht

/-- A token that can be bound, up to the end of an expression. -/
theorem statement_lone (ht : t.token.bindingName? = some n)
    (hu : level? u.token = some .whole) :
    statement expr (t :: u :: rest) = .ok (nodeOf t, u :: rest) := by
  have hne (m : Mark) (hm : level? (.mark m) ≠ some .whole) : u.token ≠ .mark m :=
    fun h => hm (h ▸ hu)
  have hparen : eat? .leftParen (u :: rest) = none := if_neg (hne .leftParen (by decide))
  have hhead : definitionHead? (t :: u :: rest) = none := by
    simp [definitionHead?, ht, hparen]
  exact statement_of_operand
    (operand_binding ht (hne .arrow (by decide)) fun h => absurd h (hne .leftParen (by decide)))
    ⟨.whole, hu, Nat.le_refl _⟩ (unaryOp?_of_bindingName? ht) hhead

theorem ofTokens_lone (ht : t.token.bindingName? = some n) (hu : u.token = .finish) :
    Expr.ofTokens [t, u] = .ok (nodeOf t) := by
  obtain ⟨d, hd⟩ := exists_depth [t, u] (by simp)
  rw [Expr.ofTokens, hd, complete, expression, statement_lone ht (by rw [hu]; rfl)]
  simp [hu]

/-- A function of one parameter that is its own body. -/
theorem ofTokens_identity {arrow : Placed} {t' : Placed} (ht : t.token.bindingName? = some n)
    (ht' : t'.token = t.token) (harrow : arrow.token = .mark .arrow) (hu : u.token = .finish) :
    Expr.ofTokens [t, arrow, t', u] = .ok (.lambda none [n] (nodeOf t') t.offset) := by
  obtain ⟨d, hd⟩ := exists_depth [t, arrow, t', u] (by simp)
  have hwhole : level? u.token = some .whole := by rw [hu]; rfl
  have hbody : expression (d + 1) [t', u] = .ok (nodeOf t', [u]) :=
    statement_lone (by rw [ht', ht]) hwhole
  have hparen : t.token ≠ .mark .leftParen := by
    intro h
    rw [h] at ht
    cases ht
  have hahead : lambdaAhead [t, arrow, t', u] = true := by
    simp [lambdaAhead, ht, eat?, harrow]
  have hoperand : operand (expression (d + 1)) [t, arrow, t', u] =
      .ok (.lambda none [n] (nodeOf t') t.offset, [u]) := by
    rw [operand, if_pos hahead, lambda, if_neg hparen, ht]
    dsimp only [bind, Except.bind]
    rw [expect, if_pos harrow]
    dsimp only
    rw [hbody]
  have hhead : definitionHead? [t, arrow, t', u] = none := by
    simp [definitionHead?, ht, eat?, harrow]
  have hread : statement (expression (d + 1)) [t, arrow, t', u] =
      .ok (.lambda none [n] (nodeOf t') t.offset, [u]) :=
    statement_of_operand hoperand ⟨.whole, hwhole, Nat.le_refl _⟩ (unaryOp?_of_bindingName? ht) hhead
  rw [Expr.ofTokens, hd, complete, expression, hread]
  simp [hu]

/-- An operand that cannot be called and that an equals sign or a parenthesis follows. -/
theorem conditional_of_operand {m : Mark} {o : Nat} (ht : unaryOp? t.token = none)
    (he : e = nodeOf t) (hm : m = .equals ∨ m = .leftParen)
    (h : operand expr (t :: ts) = .ok (e, ⟨.mark m, o⟩ :: rest)) :
    conditional expr (t :: ts) = .ok (e, ⟨.mark m, o⟩ :: rest) := by
  have hform : (∃ c o', e = .constant c o') ∨ ∃ text o', e = .name text o' := by
    rw [he, nodeOf]
    split
    · split
      · exact .inl ⟨_, _, rfl⟩
      · exact .inr ⟨_, _, rfl⟩
    · exact .inr ⟨_, _, rfl⟩
  simp only [conditional, List.length_cons, conditionals, disjunction, conjunction, comparison,
    conversion, share, sum, product, power, powerChain, bitwise, leftGrouped, unary, ht, suffixed, h]
  rcases hm with rfl | rfl <;> rcases hform with ⟨c, o', rfl⟩ | ⟨text, o', rfl⟩ <;> rfl

/-- An assignment to a token that can be bound. -/
theorem ofTokens_assign_binding {m : String} {o : Nat} (ht : t.token.bindingName? = some n)
    (hm : t.token.lookupName? = some m) (hread : Expr.ofTokens us = .ok e) :
    Expr.ofTokens (t :: ⟨.mark .equals, o⟩ :: us) = .ok (.assign m e none o) := by
  have hhead : definitionHead? (t :: ⟨.mark .equals, o⟩ :: us) = none := by
    simp [definitionHead?, ht, eat?]
  refine ofTokens_assign_of_target (nodeOf t) rfl ((targetName?_nodeOf ht).trans hm)
    (fun depth => ?_) hhead hread
  exact conditional_of_operand (unaryOp?_of_bindingName? ht) rfl (.inl rfl)
    (operand_binding ht (by simp) fun h => by cases h)

theorem eat?_binding {m : Mark} (ht : t.token.bindingName? = some n) :
    eat? m (t :: rest) = none := by
  refine if_neg fun h => ?_
  rw [h] at ht
  cases ht

/-- The definition of a function of one parameter that is its own body. -/
theorem ofTokens_definition {m : String} {opening paren equals p p' : Placed}
    (ht : t.token.bindingName? = some n) (hp : p.token.bindingName? = some m)
    (hp' : p'.token = p.token) (hopening : opening.token = .mark .leftParen)
    (hparen : paren.token = .mark .rightParen) (hequals : equals.token = .mark .equals)
    (hu : u.token = .finish) :
    Expr.ofTokens [t, opening, p, paren, equals, p', u] =
      .ok (.assign n (.lambda (some n) [m] (nodeOf p') t.offset) none t.offset) := by
  obtain ⟨d, hd⟩ := exists_depth [t, opening, p, paren, equals, p', u] (by simp)
  have hbody : expression (d + 1) [p', u] = .ok (nodeOf p', [u]) :=
    statement_lone (by rw [hp', hp]) (by rw [hu]; rfl)
  have hparameter : parameter [p, paren, equals, p', u] = .ok (m, [paren, equals, p', u]) := by
    rw [parameter, hp]
  have hparams : parameters [p, paren, equals, p', u] = .ok ([m], [equals, p', u]) :=
    itemsUntil_of_closing (eat?_binding hp) hparameter hparen (by simp)
  have hhead : definitionHead? [t, opening, p, paren, equals, p', u] =
      some (n, [m], [p', u]) := by
    simp [definitionHead?, ht, eat?, hopening, hparams, hequals]
  have hread : statement (expression (d + 1)) [t, opening, p, paren, equals, p', u] =
      .ok (.assign n (.lambda (some n) [m] (nodeOf p') t.offset) none t.offset, [u]) := by
    rw [statement, hhead]
    dsimp only
    rw [hbody]
    rfl
  rw [Expr.ofTokens, hd, complete, expression, hread]
  simp [hu]

/-- What is read up to a closing parenthesis at the end of a source is no list of parameters
that an equals sign follows. -/
theorem definitionHead?_call {d : Nat} {opening paren : Placed}
    (hopening : opening.token = .mark .leftParen) (hparen : paren.token = .mark .rightParen)
    (hu : u.token = .finish)
    (hread : expression d (us ++ [paren, u]) = .ok (e, [paren, u])) :
    definitionHead? (t :: opening :: (us ++ [paren, u])) = none := by
  unfold definitionHead?
  simp only [eat?, hopening, if_true]
  split
  · rename_i hopen
    cases hopen
    cases hparams : parameters (us ++ [paren, u]) with
    | error _ => rfl
    | ok p =>
      obtain ⟨params, rest⟩ := p
      cases d with
      | zero => cases hread
      | succ d =>
        rcases head_of_parameters hparams with
          ⟨v, vs, hvs, hclose⟩ | ⟨v, w, vs, name, m, hvs, hname, hm, hwhole⟩
        · rw [hvs, expression_of_closing hclose] at hread
          cases hread
        · rw [hvs, expression, statement_lone hname (by rw [hm]; exact hwhole)] at hread
          cases hread
          rw [hvs, parameters, items, itemsUntil_of_closing (eat?_binding hname)
            (by rw [parameter, hname]) hparen (by simp)] at hparams
          cases hparams
          simp [hu]
  · rfl

/-- A call of a name. -/
theorem ofTokens_call {opening paren : Placed} (ht : t.token.bindingName? = some n)
    (hconstant : ∀ text, t.token ≠ .constant text)
    (hopening : opening.token = .mark .leftParen) (hparen : paren.token = .mark .rightParen)
    (hu : u.token = .finish)
    (hread : expression (depthBound (us ++ [paren, u])) (us ++ [paren, u]) = .ok (e, [paren, u])) :
    Expr.ofTokens (t :: opening :: (us ++ [paren, u])) = .ok (.call n [e] t.offset) := by
  obtain ⟨d, hd, hle⟩ : ∃ d, depthBound (t :: opening :: (us ++ [paren, u])) = d + 1 ∧
      depthBound (us ++ [paren, u]) ≤ d := by
    have hmark : tokenDepth opening.token = 1 := by rw [hopening]; rfl
    rw [depthBound_cons, depthBound_cons, hmark]
    exact ⟨tokenDepth t.token + depthBound (us ++ [paren, u]), by omega, by omega⟩
  have hitem := expression_mono hle hread
  have heat : eat? .rightParen (us ++ [paren, u]) = none := by
    cases hus : us ++ [paren, u] with
    | nil => rfl
    | cons v vs =>
      refine if_neg fun hclose => ?_
      cases d with
      | zero => cases hitem
      | succ d =>
        rw [hus, expression_of_closing hclose] at hitem
        cases hitem
  have harguments : arguments (expression d) (us ++ [paren, u]) = .ok ([e], [u]) :=
    itemsUntil_of_closing heat hitem hparen (by simp)
  have hoperand : operand (expression d) (t :: opening :: (us ++ [paren, u])) =
      .ok (.call n [e] t.offset, [u]) := by
    have hahead : lambdaAhead (t :: opening :: (us ++ [paren, u])) = false := by
      simp [lambdaAhead, ht, eat?, hopening]
    simp only [operand, hahead, Bool.false_eq_true, if_false]
    have hcall : nameOrCall (expression d) n t.offset (opening :: (us ++ [paren, u])) =
        .ok (.call n [e] t.offset, [u]) := by
      simp only [nameOrCall, eat?, hopening, if_true]
      rw [harguments]
      rfl
    obtain ⟨token, offset⟩ := t
    cases token with
    | name text | unit text | zone text =>
      cases ht
      exact hcall
    | constant text => exact absurd rfl (hconstant text)
    | _ => cases ht
  have hread' : statement (expression d) (t :: opening :: (us ++ [paren, u])) =
      .ok (.call n [e] t.offset, [u]) :=
    statement_of_operand hoperand ⟨.whole, by rw [hu]; rfl, Nat.le_refl _⟩
      (unaryOp?_of_bindingName? ht) (definitionHead?_call hopening hparen hu hread)
  rw [Expr.ofTokens, hd, complete, expression, hread']
  simp [hu]

/-- A constant is not called. -/
theorem ofTokens_constant_call {text : String} {o : Nat} {opening paren : Placed}
    (hopening : opening.token = .mark .leftParen) :
    Expr.ofTokens [⟨.constant text, o⟩, opening, ⟨.keyword .true_, 0⟩, paren, u] =
      failAt opening.offset (.trailingTokens opening.token.describe) := by
  obtain ⟨mark, o'⟩ := opening
  obtain rfl : mark = .mark .leftParen := hopening
  obtain ⟨d, hd⟩ := exists_depth
    [⟨.constant text, o⟩, ⟨.mark .leftParen, o'⟩, ⟨.keyword .true_, 0⟩, paren, u] (by simp)
  have hoperand : operand (expression (d + 1)) [⟨.constant text, o⟩, ⟨.mark .leftParen, o'⟩,
      ⟨.keyword .true_, 0⟩, paren, u] = .ok (nodeOf ⟨.constant text, o⟩,
        [⟨.mark .leftParen, o'⟩, ⟨.keyword .true_, 0⟩, paren, u]) :=
    operand_binding rfl (by simp) fun _ => ⟨text, rfl⟩
  have hconditional := conditional_of_operand rfl rfl (.inr rfl) hoperand
  rw [Expr.ofTokens, hd, complete, expression]
  have hhead : definitionHead? [⟨.constant text, o⟩, ⟨.mark .leftParen, o'⟩,
      ⟨.keyword .true_, 0⟩, paren, u] = none := rfl
  rw [statement, hhead]
  dsimp only
  rw [assignment, hconditional]
  rfl

end Grammar

/-! ## Values of tokens -/

/-- The value of a list of tokens. -/
def evaluateTokens (ctx : Context) (ts : List Placed) : EvalM Value := do
  let e ← Expr.ofTokens ts
  evalExpr ctx (callValue ctx callBound) (← get).root e

/-- The value of a source is that of its tokens. -/
theorem evaluate_eq (ctx : Context) (source : String) :
    evaluate ctx source = evaluateTokens ctx (Token.tokenize source) := rfl

section

variable {ctx : Context} {ts : List Placed} {e : Expr} {s t : Session} {v : Value}
  {p : Placed} {m n : String}

theorem evaluateTokens_of_ok (h : Expr.ofTokens ts = .ok e) (s : Session) :
    evaluateTokens ctx ts s = evalExpr ctx (callValue ctx callBound) s.root e s := by
  unfold evaluateTokens
  rw [h]
  rfl

/-- A name is read as what it is bound to. -/
theorem evalExpr_nodeOf {call : Caller} {scope : Nat} (hp : p.token.lookupName? = some n)
    (h : s.lookup scope n = some v) :
    evalExpr ctx call scope (Grammar.nodeOf p) s = .ok v s := by
  obtain ⟨token, offset⟩ := p
  have hname (text : String) (htext : text = n) :
      evalExpr ctx call scope (.name text offset) s = .ok v s := by
    rw [evalExpr]
    exact nameValue_of_lookup (htext ▸ h) offset
  cases token with
  | name text | unit text | zone text => exact hname text (Option.some.inj hp)
  | constant text =>
    unfold Grammar.nodeOf
    dsimp only
    simp only [Token.lookupName?, Option.some.injEq] at hp
    split
    · rename_i c hc
      rw [hc] at hp
      have hvalue : constantValue s scope c = v := by
        have hlookup : s.lookup scope c.name = some v := by
          rw [← h, ← hp]
          rfl
        cases c with
        | pi | e | tau | phi => simp only [constantValue, hlookup, Option.getD_some]
        | true_ | false_ | null =>
          unfold Constant.ofName? at hc
          split at hc <;> cases hc
      rw [evalExpr, get_bind_run, hvalue]
      rfl
    · rename_i hc
      rw [hc] at hp
      exact hname text hp
  | _ => cases hp

/-- The call of a function whose body is its parameter. -/
theorem callValue_closure (ctx : Context) (v : Value) (i offset : Nat) (name : Option String)
    (scope : Option Nat) (hp : p.token.lookupName? = some m) (hdepth : s.depth < maxDepth) :
    ∃ t, callValue ctx callBound
      (.closure i { name, params := [m], body := Grammar.nodeOf p, scope }) [v] offset s =
        .ok v t := by
  have hbody (call : Caller) : evalExpr ctx call s.scopes.size (Grammar.nodeOf p)
      (s.entered { bindings := [(m, v)], parent := some (scope.getD s.root) }) =
      .ok v (s.entered { bindings := [(m, v)], parent := some (scope.getD s.root) }) :=
    evalExpr_nodeOf hp (Session.lookup_entered (by simp [Entries.find?]) s)
  have hbound : callBound = 999999999 + 1 := rfl
  rw [hbound, callValue, unfoldApplied]
  · show ∃ t, callClosure ctx _ _ [v] offset s = .ok v t
    rw [callClosure, if_neg (by simp), get_bind_run, if_neg (Nat.not_le.2 hdepth), get_bind_run]
    show ∃ t, nested _ (s.newScope { bindings := [(m, v)], parent := some (scope.getD s.root) }) =
      .ok v t
    rw [Discipline.nested_newScope, hbody]
    exact ⟨_, rfl⟩
  · simp

/-- Evaluation at the root keeps its bindings apart, and gives a value of the session it ends
in. -/
theorem Session.Separate.evalExpr {bound r : Nat} (hs : s.Separate r)
    (h : Eval.evalExpr ctx (callValue ctx bound) s.root e s = .ok v t) :
    t.Separate r ∧ v.Within t.cells.size := by
  have hctx : (separation r).FitsContext ctx := fun _ _ _ _ h => h.elim
  have hrun := Discipline.keeps_evalCalls (separation_lawful r) hctx bound hs
    (Expr.every_of_forall (fun _ => trivial) e)
  unfold Discipline.Keeps at hrun
  rw [h] at hrun
  cases hrun with
  | ok step hv => exact ⟨step.holds, hv⟩

/-- A name at the root is bound to a copy. -/
theorem Session.Separate.lookup_withBinding {r : Nat} (hs : s.Separate r)
    (hv : v.Within s.cells.size) (name : String) :
    (s.withBinding s.root name v).lookup s.root name = some (Session.copy v s).1 := by
  have ht : (s.withBinding s.root name v).Separate r := hs.withBinding s.root name hv
  have hroot : (s.withBinding s.root name v).root = s.root := ht.root_eq.trans hs.root_eq.symm
  have hlookup := ht.get?_eq name
  rw [Session.get?, hroot] at hlookup
  rw [hlookup, Session.bindings_withBinding, if_pos ⟨hs.root_eq, hs.root_lt⟩,
    Entries.find?_insert_self]

end

/-! ## Reading what is bound -/

namespace Token

/-- The function of which a token is the parameter and the body gives back its argument. -/
def ReadsAsParameter (t : Token) : Prop :=
  ∀ (ctx : Context) (ts : List Placed) (s : Session) (v : Value) (offset : Nat),
    ts.map (·.token) = [t, .mark .arrow, t, .finish] → s.depth < maxDepth →
      ∃ f s₁ s₂, evaluateTokens ctx ts s = .ok f s₁ ∧
        callValue ctx callBound f [v] offset s₁ = .ok v s₂

/-- After an assignment to a token, the token is read as a copy that is equal to what was
assigned. -/
def ReadsAsVariable (t : Token) : Prop :=
  ∀ (ctx : Context) (p p' final : Placed) (offset : Nat) (us : List Placed) (s s₁ : Session)
    (v : Value), p.token = t → p'.token = t → final.token = .finish → s.Reachable →
      s.KeysDistinct → evaluateTokens ctx us s = .ok v s₁ →
      ∃ w s₂, evaluateTokens ctx (p :: ⟨.mark .equals, offset⟩ :: us) s = .ok v s₂ ∧
        evaluateTokens ctx [p', final] s₂ = .ok w s₂ ∧ s₂.same w v = true ∧
        ∀ c, w.cell? = some c → s₁.cells.size ≤ c

/-- After the definition of a function by a token, of which the parameter is the body, a call
of the token gives back the argument. -/
def ReadsAsFunction (t : Token) : Prop :=
  ∀ (ctx : Context) (ts : List Placed) (s : Session) (x : Token), x.bindingName?.isSome →
    x ∉ aliases → s.Reachable → s.depth < maxDepth →
    ts.map (·.token) =
      [t, .mark .leftParen, x, .mark .rightParen, .mark .equals, x, .finish] →
    ∃ f s₁, evaluateTokens ctx ts s = .ok f s₁ ∧
      ∀ (p opening paren final : Placed) (us : List Placed) (e : Expr) (v : Value)
        (s₂ : Session), p.token = t → opening.token = .mark .leftParen →
        paren.token = .mark .rightParen → final.token = .finish →
        Grammar.expression (Grammar.depthBound (us ++ [paren, final])) (us ++ [paren, final]) =
          .ok (e, [paren, final]) →
        evalExpr ctx (callValue ctx callBound) s₁.root e s₁ = .ok v s₂ →
        ∃ s₃, evaluateTokens ctx (p :: opening :: (us ++ [paren, final])) s₁ = .ok v s₃

variable {t : Token} {n : String}

theorem lookupName?_eq (h : t.bindingName? = some n) (ht : t ∉ aliases) :
    t.lookupName? = some n := by
  rw [← h]
  by_contra hne
  exact ht (lookupName?_ne_iff.1 hne)

theorem readsAsParameter_of_not_alias (h : t.bindingName? = some n) (ht : t ∉ aliases) :
    t.ReadsAsParameter := by
  intro ctx ts s v offset hts hdepth
  obtain ⟨p, ts, rfl, rfl, hts⟩ := List.map_eq_cons_iff.1 hts
  obtain ⟨arrow, ts, rfl, harrow, hts⟩ := List.map_eq_cons_iff.1 hts
  obtain ⟨p', ts, rfl, hp', hts⟩ := List.map_eq_cons_iff.1 hts
  obtain ⟨final, ts, rfl, hfinal, hts⟩ := List.map_eq_cons_iff.1 hts
  obtain rfl := List.map_eq_nil_iff.1 hts
  have hread := Grammar.ofTokens_identity h hp' harrow hfinal
  let made : Session := { s with identity := s.identity + 1 }
  have hp'' : p'.token.lookupName? = some n := hp'.symm ▸ lookupName?_eq h ht
  have hdepth' : made.depth < maxDepth := hdepth
  obtain ⟨s₂, hcall⟩ := callValue_closure ctx v s.identity offset none none hp'' hdepth'
  refine ⟨_, _, s₂, ?_, hcall⟩
  rw [evaluateTokens_of_ok hread, evalExpr]
  show EStateM.Result.ok (Value.closure _ { scope := if s.root = s.root then _ else _, .. }) _ = _
  rw [if_pos rfl]

theorem readsAsVariable (h : t.bindingName? = some n) : t.ReadsAsVariable := by
  intro ctx p p' final offset us s s₁ v hp hp' hfinal hs hkeys hrun
  subst hp
  obtain ⟨m, hm⟩ := lookupName?_isSome h
  cases hus : Expr.ofTokens us with
  | error e =>
    unfold evaluateTokens at hrun
    rw [hus] at hrun
    cases hrun
  | ok e =>
    rw [evaluateTokens_of_ok hus] at hrun
    obtain ⟨hsep, hv⟩ := hs.separate.evalExpr hrun
    have hroot : s₁.root = s.root := hsep.root_eq.trans hs.separate.root_eq.symm
    have hkeys₁ : s₁.KeysDistinct := hkeys.evalExpr hrun
    have hsep₂ : (s₁.withBinding s₁.root m v).Separate 0 := hsep.withBinding s₁.root m hv
    refine ⟨(Session.copy v s₁).1, s₁.withBinding s₁.root m v, ?_, ?_, ?_, ?_⟩
    · rw [evaluateTokens_of_ok (Grammar.ofTokens_assign_binding h hm hus), evalExpr,
        bind_of_ok hrun, ← hroot]
      rfl
    · rw [evaluateTokens_of_ok (Grammar.ofTokens_lone (by rw [hp', h]) hfinal)]
      refine evalExpr_nodeOf (hp'.symm ▸ hm) ?_
      rw [hsep₂.root_eq, ← hsep.root_eq]
      exact hsep.lookup_withBinding hv m
    · obtain ⟨rank, hrank⟩ := hsep.ranked
      have hcells : (s₁.withBinding s₁.root m v).cells = (Session.copy v s₁).2.cells := rfl
      rw [Session.same_of_cells_eq hcells]
      exact Session.same_copy hsep.all_within hrank hkeys₁ hv
    · exact fun c hc => Session.size_le_of_copy hv hc

/-- The call of a name that is bound to a function whose body is its parameter. -/
theorem evaluateTokens_call {ctx : Context} {p q opening paren final : Placed} {us : List Placed}
    {e : Expr} {s s₁ : Session} {v : Value} {i : Nat} {name : Option String} {scope : Option Nat}
    {m : String} (h : p.token.bindingName? = some n) (ht : ∀ text, p.token ≠ .constant text)
    (hq : q.token.lookupName? = some m) (hopening : opening.token = .mark .leftParen)
    (hparen : paren.token = .mark .rightParen) (hfinal : final.token = .finish)
    (hargument : Grammar.expression (Grammar.depthBound (us ++ [paren, final]))
      (us ++ [paren, final]) = .ok (e, [paren, final])) (hdepth : s.depth < maxDepth)
    (hlookup : s.lookup s.root n =
      some (.closure i { name, params := [m], body := Grammar.nodeOf q, scope }))
    (hrun : evalExpr ctx (callValue ctx callBound) s.root e s = .ok v s₁) :
    ∃ s₂, evaluateTokens ctx (p :: opening :: (us ++ [paren, final])) s = .ok v s₂ := by
  have hread := Grammar.ofTokens_call h ht hopening hparen hfinal hargument
  have hcallee : calleeOf s s.root n p.offset =
      .ok (.value (.closure i { name, params := [m], body := Grammar.nodeOf q, scope })) := by
    rw [calleeOf, hlookup]
    rfl
  have hargs : evalList ctx (callValue ctx callBound) s.root #[] [e] s = .ok #[v] s₁ := by
    rw [evalList, bind_of_ok hrun]
    rfl
  have hdepth₁ : s₁.depth < maxDepth := by
    have hsame := depth_evalExpr ctx callBound s s.root e
    rw [(endsIn_sessionAfter _ _).eq_of_ok hrun] at hsame
    exact hsame ▸ hdepth
  obtain ⟨s₂, hvalue⟩ := callValue_closure ctx v i p.offset name scope hq hdepth₁
  refine ⟨s₂, ?_⟩
  rw [evaluateTokens_of_ok hread, evalExpr, get_bind_run, hcallee]
  exact (bind_of_ok hargs).trans hvalue

theorem readsAsFunction_of_ne_constant (h : t.bindingName? = some n)
    (ht : ∀ text, t ≠ .constant text) : t.ReadsAsFunction := by
  intro ctx ts s x hx halias hs hdepth hts
  obtain ⟨m, hm⟩ := Option.isSome_iff_exists.1 hx
  obtain ⟨p, ts, rfl, hp, hts⟩ := List.map_eq_cons_iff.1 hts
  obtain ⟨opening, ts, rfl, hopening, hts⟩ := List.map_eq_cons_iff.1 hts
  obtain ⟨q, ts, rfl, hq, hts⟩ := List.map_eq_cons_iff.1 hts
  obtain ⟨paren, ts, rfl, hparen, hts⟩ := List.map_eq_cons_iff.1 hts
  obtain ⟨equals, ts, rfl, hequals, hts⟩ := List.map_eq_cons_iff.1 hts
  obtain ⟨q', ts, rfl, hq', hts⟩ := List.map_eq_cons_iff.1 hts
  obtain ⟨final, ts, rfl, hfinal, hts⟩ := List.map_eq_cons_iff.1 hts
  obtain rfl := List.map_eq_nil_iff.1 hts
  have hread := Grammar.ofTokens_definition (hp.symm ▸ h) (hq.symm ▸ hm) (hq'.trans hq.symm)
    hopening hparen hequals hfinal
  -- What the name is bound to, and the session in which it is made.
  let f : Value := .closure s.identity
    { name := some n, params := [m], body := Grammar.nodeOf q', scope := none }
  let made : Session := { s with identity := s.identity + 1 }
  have hmade : made.Separate 0 := hs.separate.congr rfl rfl rfl hs.separate.all_within.bindings
  have hf : f.Within made.cells.size :=
    Value.within_of_not_applied (by simp [f]) fun c hc => by cases hc
  have hroot : (made.withBinding s.root n f).root = s.root :=
    (hmade.withBinding s.root n hf).root_eq.trans hs.separate.root_eq.symm
  have hlookup : (made.withBinding s.root n f).lookup (made.withBinding s.root n f).root n =
      some f := by
    have hcopy : Session.copy f made = (f, made) := Session.copyTo_of_cell?_eq_none rfl _ _
    rw [hroot]
    refine (hmade.lookup_withBinding hf n).trans ?_
    rw [hcopy]
  refine ⟨f, made.withBinding s.root n f, ?_, ?_⟩
  · have hclosure : newClosure s.root (some n) [m] (Grammar.nodeOf q') s = .ok f made := by
      show EStateM.Result.ok (Value.closure _ { scope := if s.root = s.root then _ else _, .. }) _ = _
      rw [if_pos rfl]
    rw [evaluateTokens_of_ok hread, evalExpr, evalExpr, bind_of_ok hclosure]
    rfl
  · intro p' opening' paren' final' us e v s₂ hp' hopening' hparen' hfinal' hargument hrun
    refine evaluateTokens_call (hp'.symm ▸ h) (hp'.symm ▸ ht) (hq'.symm ▸ lookupName?_eq hm halias)
      hopening' hparen' hfinal' hargument ?_ hlookup hrun
    rw [tracks_depth.withBinding made s.root n f]
    exact hdepth

/-! ### Where it is not -/

/-- Whether a computation gives null. -/
def givesNull : EStateM.Result Stop Session Value → Bool
  | .ok .null _ => true
  | _ => false

theorem not_readsAsParameter_of_alias (ht : t ∈ aliases) : ¬ t.ReadsAsParameter := by
  intro h
  let ctx := Context.ofClock ⟨0, 0⟩ (.fixed 0)
  let ts (t : Token) : List Placed := [⟨t, 0⟩, ⟨.mark .arrow, 0⟩, ⟨t, 0⟩, ⟨.finish, 0⟩]
  obtain ⟨f, s₁, s₂, hf, hcall⟩ := h ctx (ts t) .empty .null 0 rfl (by decide)
  have hnull : givesNull ((evaluateTokens ctx (ts t) >>= fun f =>
      callValue ctx callBound f [.null] 0) .empty) = true := by
    rw [bind_of_ok hf, hcall]
    rfl
  have hnot : ∀ t ∈ aliases, givesNull ((evaluateTokens ctx (ts t) >>= fun f =>
      callValue ctx callBound f [.null] 0) .empty) = false := by
    decide
  rw [hnot t ht] at hnull
  cases hnull

theorem not_readsAsFunction_of_constant (text : String) : ¬ (constant text).ReadsAsFunction := by
  intro h
  let ctx := Context.ofClock ⟨0, 0⟩ (.fixed 0)
  obtain ⟨f, s₁, -, hcall⟩ := h ctx
    [⟨.constant text, 0⟩, ⟨.mark .leftParen, 0⟩, ⟨.name "x", 0⟩, ⟨.mark .rightParen, 0⟩,
      ⟨.mark .equals, 0⟩, ⟨.name "x", 0⟩, ⟨.finish, 0⟩]
    .empty (.name "x") rfl (by decide) .empty (by decide) rfl
  obtain ⟨s₃, hrun⟩ := hcall ⟨.constant text, 0⟩ ⟨.mark .leftParen, 0⟩ ⟨.mark .rightParen, 0⟩
    ⟨.finish, 0⟩ [⟨.keyword .true_, 0⟩] (.constant .true_ 0) (.bool true) s₁ rfl rfl rfl rfl rfl
    (by rw [evalExpr]; rfl)
  have hread : Expr.ofTokens [⟨.constant text, 0⟩, ⟨.mark .leftParen, 0⟩, ⟨.keyword .true_, 0⟩,
      ⟨.mark .rightParen, 0⟩, ⟨.finish, 0⟩] =
        failAt 0 (.trailingTokens (Token.mark .leftParen).describe) :=
    Grammar.ofTokens_constant_call rfl
  unfold evaluateTokens at hrun
  rw [List.singleton_append, hread] at hrun
  cases hrun

end Token

/-- Names that are bound are read back, but not all constants.

* A function of which the parameter is the body gives back its argument for every name but the
  constants that are written otherwise than they are looked up.
* After an assignment every name is read as a copy, equal to what was assigned.
* After the definition of a function of which the parameter is the body, a call gives back its
  argument for every name but the constants. -/
theorem names_read_back {t : Token} {n : String} (h : t.bindingName? = some n) :
    (t.ReadsAsParameter ↔ t ∉ Token.aliases) ∧ t.ReadsAsVariable ∧
      (t.ReadsAsFunction ↔ ∀ text, t ≠ .constant text) := by
  refine ⟨⟨fun hreads halias => Token.not_readsAsParameter_of_alias halias hreads,
    Token.readsAsParameter_of_not_alias h⟩, Token.readsAsVariable h,
    ⟨fun hreads text ht => ?_, Token.readsAsFunction_of_ne_constant h⟩⟩
  subst ht
  exact Token.not_readsAsFunction_of_constant text hreads

theorem names_read_back_unit : Token.bindingName? (.unit "d") = some "d" ∧
    (Token.unit "d").ReadsAsParameter ∧ (Token.unit "d").ReadsAsVariable ∧
      (Token.unit "d").ReadsAsFunction := by
  obtain ⟨hparameter, hvariable, hfunction⟩ := names_read_back (t := .unit "d") rfl
  exact ⟨rfl, hparameter.2 (by decide), hvariable, hfunction.2 (by simp)⟩

/-- The constant `π` can be the name of a parameter, but is read as the number; and it can be
the name of a function that is not called. -/
theorem not_reads_back_pi : Token.bindingName? (.constant "π") = some "π" ∧
    ¬ (Token.constant "π").ReadsAsParameter ∧ ¬ (Token.constant "π").ReadsAsFunction :=
  ⟨rfl, Token.not_readsAsParameter_of_alias (by decide),
    Token.not_readsAsFunction_of_constant "π"⟩

end Reckoner
