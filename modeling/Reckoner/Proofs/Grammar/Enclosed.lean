import Reckoner.Proofs.Grammar.Forms
import Reckoner.Proofs.Grammar.Imitation

/-!
# Expressions in parentheses

Parentheses around a whole source keep its tree, except where an operator that
binds tighter than a conversion stands before a number with units whose
conversion ends the source (`ofTokens_enclosed`).  There the conversion is one
of the whole expression without parentheses, and of the number within them
(`ofTokens_enclosed_ne_scaledLength`).
-/

namespace Reckoner

namespace Grammar

/-! ## An operand as a whole source -/

variable {expr : Reader Expr}

/-- An operand with what belongs to it, behind which an operator of sums or a looser one
follows. -/
theorem product_of_suffixed {t : Placed} {ts rest : List Placed} {e : Expr}
    (hsuffixed : suffixed expr (t :: ts) = .ok (e, rest)) (hrest : Follows .sum rest)
    (hsign : unaryOp? t.token = none) : product expr (t :: ts) = .ok (e, rest) := by
  have hunary : unary expr (t :: ts) = .ok (e, rest) := by
    simp only [unary, hsign, hsuffixed]
  have hbitwise : bitwise expr (t :: ts) = .ok (e, rest) := by
    rw [bitwise, leftGrouped, hunary]
    exact chain_bits_stop _ _ _ (hrest.mono (by decide))
  have hpower : power expr (t :: ts) = .ok (e, rest) := by
    rw [power, List.length_cons, powerChain_succ, hbitwise]
    exact morePowers_stop (head?_ne_of_follows hrest (by decide)) _ _ _
  rw [product, leftGrouped, hpower]
  exact chain_product_stop _ _ _ hrest

/-- An operand to which nothing else belongs. -/
theorem suffixed_of_operand {ts rest : List Placed} {e : Expr}
    (hoperand : operand expr ts = .ok (e, rest)) (hrest : Follows .sum rest) :
    suffixed expr ts = .ok (e, rest) := by
  rw [suffixed, hoperand]
  exact suffixes_stop _ _ _ (hrest.mono (by decide))

theorem product_of_operand {t : Placed} {ts rest : List Placed} {e : Expr}
    (hoperand : operand expr (t :: ts) = .ok (e, rest)) (hrest : Follows .sum rest)
    (hsign : unaryOp? t.token = none) : product expr (t :: ts) = .ok (e, rest) :=
  product_of_suffixed (suffixed_of_operand hoperand hrest) hrest hsign

/-- A sum that the end of an expression follows. -/
theorem statement_of_sum {t : Placed} {ts rest : List Placed} {e : Expr}
    (hsum : sum expr (t :: ts) = .ok (e, rest)) (hrest : Follows .whole rest)
    (hhead : definitionHead? (t :: ts) = none) : statement expr (t :: ts) = .ok (e, rest) := by
  have hshare : share expr (t :: ts) = .ok (e, rest) := by
    rw [share, leftGrouped, hsum]
    exact chain_share_stop _ _ _ (hrest.mono (by decide))
  have hconversion : conversion expr (t :: ts) = .ok (e, rest) := by
    rw [conversion, hshare]
    exact congrArg Except.ok (conversions_stop _ e hrest)
  have hcomparison : comparison expr (t :: ts) = .ok (e, rest) := by
    rw [comparison, hconversion]
    exact comparisons_stop _ _ _ (hrest.mono (by decide))
  have hconjunction : conjunction expr (t :: ts) = .ok (e, rest) := by
    rw [conjunction, leftGrouped, hcomparison]
    exact chain_conjunction_stop _ _ _ (hrest.mono (by decide))
  have hdisjunction : disjunction expr (t :: ts) = .ok (e, rest) := by
    rw [disjunction, leftGrouped, hconjunction]
    exact chain_disjunction_stop _ _ _ (hrest.mono (by decide))
  have hconditional : conditional expr (t :: ts) = .ok (e, rest) := by
    rw [conditional, List.length_cons, conditionals_succ, hdisjunction]
    exact branches_stop (head?_ne_of_follows hrest (by decide)) _ _ _
  rw [statement, hhead]
  dsimp only
  rw [assignment, hconditional]
  cases rest with
  | nil => rfl
  | cons u rest =>
    dsimp only [bind, Except.bind]
    rw [assignOp?_of_level (level?_of_follows_whole hrest)]

/-- An operand with what belongs to it that the end of an expression follows. -/
theorem statement_of_suffixed {t : Placed} {ts rest : List Placed} {e : Expr}
    (hsuffixed : suffixed expr (t :: ts) = .ok (e, rest)) (hrest : Follows .whole rest)
    (hsign : unaryOp? t.token = none) (hhead : definitionHead? (t :: ts) = none) :
    statement expr (t :: ts) = .ok (e, rest) := by
  have hproduct := product_of_suffixed hsuffixed (hrest.mono (by decide)) hsign
  have hsum : sum expr (t :: ts) = .ok (e, rest) := by
    rw [sum, leftGrouped, hproduct]
    exact chain_sum_stop _ _ _ (hrest.mono (by decide))
  exact statement_of_sum hsum hrest hhead

/-- An operand that the end of an expression follows. -/
theorem statement_of_operand {t : Placed} {ts rest : List Placed} {e : Expr}
    (hoperand : operand expr (t :: ts) = .ok (e, rest)) (hrest : Follows .whole rest)
    (hsign : unaryOp? t.token = none) (hhead : definitionHead? (t :: ts) = none) :
    statement expr (t :: ts) = .ok (e, rest) :=
  statement_of_suffixed (suffixed_of_operand hoperand (hrest.mono (by decide))) hrest hsign hhead

/-- A source that starts with no operand cannot be read. -/
theorem statement_of_operand_error {t : Placed} {ts : List Placed} {error : Error}
    (hoperand : operand expr (t :: ts) = .error error) (hsign : unaryOp? t.token = none)
    (hhead : definitionHead? (t :: ts) = none) : statement expr (t :: ts) = .error error := by
  simp only [statement, hhead, assignment, conditional, List.length_cons, conditionals_succ,
    disjunction, conjunction, comparison, conversion, share, sum, product, power, powerChain_succ,
    bitwise, leftGrouped, unary, hsign, suffixed, hoperand]
  rfl

/-- A name that the end of an expression follows is an operand. -/
theorem operand_of_word {t u : Placed} {rest : List Placed} {name : String}
    (ht : t.token.bindingName? = some name) (hu : level? u.token = some .whole) :
    ∃ e, operand expr (t :: u :: rest) = .ok (e, u :: rest) := by
  have hne (m : Mark) (hm : level? (.mark m) ≠ some .whole) : eat? m (u :: rest) = none := by
    refine if_neg fun h => hm ?_
    rw [← h]
    exact hu
  have hahead : lambdaAhead (t :: u :: rest) = false := by
    simp [lambdaAhead, ht, hne .arrow (by decide)]
  simp only [operand, hahead, Bool.false_eq_true, if_false]
  obtain ⟨token, offset⟩ := t
  cases token with
  | name text | unit text | zone text =>
    refine ⟨.name text offset, ?_⟩
    simp only [operandAt, nameOrCall, hne .leftParen (by decide)]
  | constant text =>
    unfold operandAt
    dsimp only
    split
    · exact ⟨_, rfl⟩
    · exact ⟨_, rfl⟩
  | _ => cases ht

theorem unaryOp?_of_bindingName? {t : Token} {name : String} (h : t.bindingName? = some name) :
    unaryOp? t = none := by
  cases t with
  | mark m => cases h
  | _ => rfl

/-- A list of parameters starts with its closing parenthesis, or with a name and a
comma or that parenthesis. -/
theorem head_of_parameters {ts ts' : List Placed} {params : List String}
    (h : parameters ts = .ok (params, ts')) :
    (∃ t rest, ts = t :: rest ∧ t.token = .mark .rightParen) ∨
      ∃ t u rest name m, ts = t :: u :: rest ∧ t.token.bindingName? = some name ∧
        u.token = .mark m ∧ level? (.mark m) = some .whole := by
  unfold parameters items at h
  rw [itemsUntil] at h
  cases ts with
  | nil => cases h
  | cons t ts =>
    by_cases hclose : t.token = .mark .rightParen
    · exact .inl ⟨t, ts, rfl, hclose⟩
    · simp only [eat?, if_neg hclose, parameter] at h
      cases hname : t.token.bindingName? with
      | none =>
        rw [hname] at h
        cases h
      | some name =>
        rw [hname] at h
        cases ts with
        | nil => cases h
        | cons u rest =>
          dsimp only at h
          by_cases hcomma : u.token = .mark .comma
          · exact .inr ⟨t, u, rest, name, .comma, rfl, hname, hcomma, rfl⟩
          · rw [if_neg hcomma] at h
            by_cases hparen : u.token = .mark .rightParen
            · exact .inr ⟨t, u, rest, name, .rightParen, rfl, hname, hparen, rfl⟩
            · rw [if_neg hparen] at h
              split at h
              · cases h
              · cases h

theorem expression_of_closing {depth : Nat} {t : Placed} {rest : List Placed}
    (ht : t.token = .mark .rightParen) :
    expression (depth + 1) (t :: rest) = failAt t.offset (.unexpectedToken t.token.describe) := by
  have hahead : lambdaAhead (t :: rest) = false := by
    simp [lambdaAhead, ht, Token.bindingName?]
  have hoperand : operand (expression depth) (t :: rest) =
      failAt t.offset (.unexpectedToken t.token.describe) := by
    simp only [operand, hahead, Bool.false_eq_true, if_false, operandAt, ht]
  exact statement_of_operand_error hoperand (by rw [ht]; rfl)
    (by simp [definitionHead?, ht, Token.bindingName?])

/-- A source that starts like a list of parameters up to its end cannot be
read. -/
theorem complete_ne_ok_of_parameters {depth : Nat} {ts ts' : List Placed} {params : List String}
    (hparams : parameters ts = .ok (params, ts')) (e : Expr) :
    complete (expression depth) ts ≠ .ok e := by
  intro h
  cases depth with
  | zero => cases h
  | succ depth =>
    rcases head_of_parameters hparams with
      ⟨t, rest, rfl, hclose⟩ | ⟨t, u, rest, name, m, rfl, hname, hm, hwhole⟩
    · rw [complete, expression_of_closing hclose] at h
      cases h
    · have hu : level? u.token = some .whole := hm ▸ hwhole
      have hparen : eat? .leftParen (u :: rest) = none :=
        eat?_leftParen_of_follows ⟨.whole, hu, Nat.le_refl _⟩
      have hread : ∃ e', expression (depth + 1) (t :: u :: rest) = .ok (e', u :: rest) := by
        obtain ⟨e', hoperand⟩ := operand_of_word hname hu
        exact ⟨e', statement_of_operand hoperand ⟨.whole, hu, Nat.le_refl _⟩
          (unaryOp?_of_bindingName? hname) (by simp [definitionHead?, hname, hparen])⟩
      obtain ⟨e', hread⟩ := hread
      rw [complete, hread] at h
      simp only [hm, reduceCtorEq, if_false] at h
      cases h

/-! ## Parentheses around a source -/

/-- Whether an operator that binds tighter than a conversion stands before a
number with units whose conversion ends the source. -/
def Split (ts : List Placed) : Prop :=
  ∃ front t rest, ts = front ++ t :: rest ∧ bindsTight t.token = true ∧ Deferring rest

theorem alike_of_not_split {ts : List Placed} {last paren final : Placed}
    (hts : ∀ t ∈ ts, t.token ≠ .finish) (hlast : last.token = .finish)
    (hparen : paren.token = .mark .rightParen) (hfinal : final.token = .finish)
    (hsplit : ¬ Split (ts ++ [last])) : Alike true (ts ++ [last]) (ts ++ [paren, final]) := by
  induction ts with
  | nil => exact .ends rfl hlast hparen hfinal
  | cons t ts ih =>
    refine .cons (fun _ => ⟨hts t List.mem_cons_self, fun ht hdefer => hsplit ?_⟩) ?_
    · exact ⟨[], t, ts ++ [last], rfl, ht, hdefer⟩
    · refine ih (fun u hu => hts u (List.mem_cons_of_mem _ hu)) fun h => hsplit ?_
      obtain ⟨front, u, rest, heq, hu, hdefer⟩ := h
      exact ⟨t :: front, u, rest, by rw [List.cons_append, heq]; rfl, hu, hdefer⟩

theorem depthBound_cons (t : Placed) (ts : List Placed) :
    depthBound (t :: ts) = tokenDepth t.token + depthBound ts := by
  have hfold (k n : Nat) : ts.foldl (fun n t => n + tokenDepth t.token) (k + n) =
      n + ts.foldl (fun n t => n + tokenDepth t.token) k := by
    induction ts generalizing k with
    | nil => exact Nat.add_comm k n
    | cons t ts ih => rw [List.foldl_cons, List.foldl_cons, Nat.add_right_comm, ih]
  exact hfold 1 (tokenDepth t.token)

theorem depthBound_append (ts : List Placed) {us vs : List Placed}
    (h : depthBound us ≤ depthBound vs) : depthBound (ts ++ us) ≤ depthBound (ts ++ vs) := by
  induction ts with
  | nil => exact h
  | cons t ts ih =>
    rw [List.cons_append, List.cons_append, depthBound_cons, depthBound_cons]
    exact Nat.add_le_add_left ih _

/-- The tree that is read of a list up to its end is read of a list that is like
it, up to the closing parenthesis. -/
theorem expression_of_complete {depth depth' : Nat} {ts us : List Placed} {e : Expr}
    (h : Alike true ts us) (hdepth : depth ≤ depth')
    (hread : complete (expression depth) ts = .ok e) :
    ∃ paren final, paren.token = .mark .rightParen ∧ final.token = .finish ∧
      expression depth' us = .ok (e, [paren, final]) := by
  unfold complete at hread
  cases hexpr : expression depth ts with
  | error _ =>
    rw [hexpr] at hread
    cases hread
  | ok p =>
    obtain ⟨e', rest⟩ := p
    rw [hexpr] at hread
    obtain ⟨us', hexpr', h', -⟩ := imitates_expression hdepth h hexpr
    cases h' with
    | nil hclosed => cases hclosed
    | @ends last paren final _ hlast hparen hfinal =>
      simp only [hlast, if_true] at hread
      cases hread
      exact ⟨paren, final, hparen, hfinal, hexpr'⟩
    | @cons t rest us' ht _ =>
      simp only [if_neg (ht rfl).1] at hread
      cases hread

/-- What starts with the parenthesis around a source is no function. -/
theorem lambdaAhead_enclosed {depth : Nat} {ts us : List Placed} {opening : Placed} {e : Expr}
    (h : Alike true ts us) (hopening : opening.token = .mark .leftParen)
    (hread : complete (expression depth) ts = .ok e) : lambdaAhead (opening :: us) = false := by
  simp only [lambdaAhead, hopening, Token.bindingName?, Option.isSome_none, Bool.false_eq_true,
    if_false, if_true]
  split
  · rename_i params us' hparams
    rcases parameters_alike h hparams with ⟨ts', hts'⟩ | ⟨final, rfl, hfinal⟩
    · exact absurd hread (complete_ne_ok_of_parameters hts' e)
    · simp [eat?, hfinal]
  · rfl

/-- An expression in parentheses at the end of a source, as an operand. -/
theorem operand_enclosed {ts : List Placed} {last opening paren final : Placed} {e : Expr}
    {depth depth' : Nat} (hts : ∀ t ∈ ts, t.token ≠ .finish) (hlast : last.token = .finish)
    (hopening : opening.token = .mark .leftParen) (hparen : paren.token = .mark .rightParen)
    (hfinal : final.token = .finish) (hsplit : ¬ Split (ts ++ [last])) (hdepth : depth ≤ depth')
    (hread : complete (expression depth) (ts ++ [last]) = .ok e) :
    ∃ final', final'.token = .finish ∧
      operand (expression depth') (opening :: (ts ++ [paren, final])) = .ok (e, [final']) := by
  have halike := alike_of_not_split hts hlast hparen hfinal hsplit
  obtain ⟨paren', final', hparen', hfinal', hexpr⟩ := expression_of_complete halike hdepth hread
  refine ⟨final', hfinal', ?_⟩
  simp only [operand, lambdaAhead_enclosed halike hopening hread, Bool.false_eq_true, if_false,
    operandAt, hopening, hexpr]
  dsimp only [bind, Except.bind, expect]
  rw [if_pos hparen']

end Grammar

/-- Parentheses around a whole source keep its tree, unless an operator that
binds tighter than a conversion stands before a number with units whose
conversion ends the source. -/
theorem Expr.ofTokens_enclosed {ts : List Placed} {last opening paren final : Placed} {e : Expr}
    (hts : ∀ t ∈ ts, t.token ≠ .finish) (hlast : last.token = .finish)
    (hopening : opening.token = .mark .leftParen) (hparen : paren.token = .mark .rightParen)
    (hfinal : final.token = .finish) (hsplit : ¬ Grammar.Split (ts ++ [last]))
    (h : Expr.ofTokens (ts ++ [last]) = .ok e) :
    Expr.ofTokens (opening :: (ts ++ [paren, final])) = .ok e := by
  have hdepth : ∃ n, Grammar.depthBound (opening :: (ts ++ [paren, final])) = n + 1 ∧
      Grammar.depthBound (ts ++ [last]) ≤ n := by
    have hends : Grammar.depthBound [last] ≤ Grammar.depthBound [paren, final] := by
      simp [Grammar.depthBound, hlast, hparen, hfinal]
    have hle := Grammar.depthBound_append ts hends
    have hpos := Grammar.tokenDepth_pos opening.token
    rw [Grammar.depthBound_cons]
    exact ⟨Grammar.tokenDepth opening.token - 1 + Grammar.depthBound (ts ++ [paren, final]),
      by omega, by omega⟩
  obtain ⟨n, hn, hle⟩ := hdepth
  obtain ⟨final', hfinal', hoperand⟩ :=
    Grammar.operand_enclosed hts hlast hopening hparen hfinal hsplit hle h
  have hread : Grammar.expression (n + 1) (opening :: (ts ++ [paren, final])) = .ok (e, [final']) :=
    Grammar.statement_of_operand hoperand ⟨.whole, hfinal' ▸ rfl, Nat.le_refl _⟩
      (by rw [hopening]; rfl) (by simp [Grammar.definitionHead?, hopening, Token.bindingName?])
  rw [Expr.ofTokens, hn, Grammar.complete, hread]
  simp only [hfinal', if_true]

/-- The tokens of `2 * 5 km in m`, without the final one. -/
def scaledLength : List Placed :=
  [⟨.number "2", 0⟩, ⟨.mark .star, 2⟩, ⟨.number "5", 4⟩, ⟨.unit "km", 6⟩, ⟨.keyword .in_, 9⟩,
    ⟨.unit "m", 12⟩]

/-- The tokens of `5 km in m`. -/
def plainLength : List Placed := scaledLength.drop 2

theorem Expr.ofTokens_enclosed_plainLength :
    (∀ t ∈ plainLength, t.token ≠ .finish) ∧ ¬ Grammar.Split (plainLength ++ [⟨.finish, 13⟩]) ∧
      ∃ e, Expr.ofTokens (plainLength ++ [⟨.finish, 13⟩]) = .ok e ∧
        Expr.ofTokens (⟨.mark .leftParen, 3⟩ ::
          (plainLength ++ [⟨.mark .rightParen, 13⟩, ⟨.finish, 14⟩])) = .ok e := by
  have hts : ∀ t ∈ plainLength, t.token ≠ .finish := by decide
  have hsplit : ¬ Grammar.Split (plainLength ++ [⟨.finish, 13⟩]) := by
    rintro ⟨front, t, rest, heq, ht, -⟩
    have hloose : ∀ t ∈ plainLength ++ [⟨.finish, 13⟩], Grammar.bindsTight t.token = false := by
      decide
    exact absurd (hloose t (heq ▸ by simp)) (by simp [ht])
  have hread : (Expr.ofTokens (plainLength ++ [⟨.finish, 13⟩])).toOption.map Expr.offset =
      some 9 := by decide +kernel
  cases h : Expr.ofTokens (plainLength ++ [⟨.finish, 13⟩]) with
  | error _ =>
    rw [h] at hread
    cases hread
  | ok e => exact ⟨hts, hsplit, e, rfl, Expr.ofTokens_enclosed hts rfl rfl rfl rfl hsplit h⟩

/-- Parentheses around `2 * 5 km in m` change its tree: a conversion of the
product becomes a product with a conversion. -/
theorem Expr.ofTokens_enclosed_ne_scaledLength :
    (∀ t ∈ scaledLength, t.token ≠ .finish) ∧
      ∃ e, Expr.ofTokens (scaledLength ++ [⟨.finish, 13⟩]) = .ok e ∧
        Expr.ofTokens (⟨.mark .leftParen, 0⟩ ::
          (scaledLength ++ [⟨.mark .rightParen, 13⟩, ⟨.finish, 14⟩])) ≠ .ok e := by
  have hts : ∀ t ∈ scaledLength, t.token ≠ .finish := by decide
  have hopen : (Expr.ofTokens (scaledLength ++ [⟨.finish, 13⟩])).toOption.map Expr.offset =
      some 9 := by decide
  have hclosed : (Expr.ofTokens (⟨.mark .leftParen, 0⟩ ::
      (scaledLength ++ [⟨.mark .rightParen, 13⟩, ⟨.finish, 14⟩]))).toOption.map Expr.offset =
      some 2 := by decide +kernel
  cases h : Expr.ofTokens (scaledLength ++ [⟨.finish, 13⟩]) with
  | error _ =>
    rw [h] at hopen
    cases hopen
  | ok e =>
    refine ⟨hts, e, rfl, fun henclosed => ?_⟩
    rw [h] at hopen
    rw [henclosed] at hclosed
    cases hopen.symm.trans hclosed

end Reckoner
