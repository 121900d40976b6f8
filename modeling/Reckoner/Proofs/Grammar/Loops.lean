import Reckoner.Proofs.Grammar.Traced

/-!
# Loops of readers

A reader that goes on for as long as it can is a loop, and it is given as many rounds as there are
tokens.  A round that goes on has taken a token at least, so the rounds that a loop is given are
never used up, and it comes to the same without such a bound.

* `Grammar.Loops`: a row of rounds up to a last one, with no bound.
* `Grammar.Forward`: rounds that take a token before they go on, and `Grammar.Unrolls.endsBy`: a
  loop of such rounds ends.
* `Grammar.levels`: the readers of all levels, which take a token too (`Grammar.advances_levels`).
-/

namespace Reckoner

namespace Grammar

variable {α σ β : Type} {ts us : List Placed}

/-! ## Readers that take a token -/

/-- Where a reader succeeds, it takes a token at least. -/
def Advances (reader : Reader α) : Prop :=
  ∀ ⦃ts x rest⦄, reader ts = .ok (x, rest) → Takes 1 ts rest

theorem advances_of_traced {n : Nat} {P : α → Prop} {reader : Reader α}
    (h : Traced (fun _ => True) n P reader) : Advances reader := by
  intro ts x rest heq
  have hread := h ts fun _ _ => trivial
  rw [heq] at hread
  cases hread with
  | ok h => exact h.2

theorem traced_of_advances {n : Nat} {P : α → Prop} {reader : Reader α} (h : Advances reader)
    (hP : ∀ x, P x) : Traced (fun _ => True) n P reader := by
  intro ts _
  cases heq : reader ts with
  | ok p => exact .ok ⟨hP p.1, h heq⟩
  | error e => exact .error fun _ _ => ⟨⟨.finish, e.offset⟩, trivial, rfl, fun _ => rfl⟩

theorem sited_everywhere (e : Expr) : e.Sited fun _ => True :=
  Expr.every_of_forall (fun n => ⟨⟨.finish, n.offset⟩, trivial, rfl⟩) e

theorem closed_everywhere : Placed.Closed fun _ => True := fun _ _ _ _ _ _ _ _ _ _ => trivial

/-- There is nothing to take of no tokens. -/
theorem Advances.nil {reader : Reader α} (h : Advances reader) : ∃ e, reader [] = .error e :=
  (traced_of_advances (n := 0) (P := fun _ => True) h fun _ => trivial).nil

/-- The readers of the levels of an expression, from the loosest to operands, with what is inside
brackets read by `expr`. -/
def levels (expr : Reader Expr) : List (Reader Expr) :=
  [expr, statement expr, assignment expr, conditional expr, disjunction expr, conjunction expr,
    comparison expr, conversion expr, share expr, sum expr, product expr, power expr, bitwise expr,
    unary expr, suffixed expr, operand expr]

section

variable {expr : Reader Expr}

/-- A level takes a token if it does so with all that is known of `expr` being that it does. -/
theorem Advances.level {level : Reader Expr → Reader Expr} (h : Advances expr)
    (hlevel : ∀ {n : Nat}, Traced (fun _ => True) n (Expr.Sited fun _ => True) expr →
      Traced (fun _ => True) (n + 1) (Expr.Sited fun _ => True) (level expr)) :
    Advances (level expr) :=
  advances_of_traced (hlevel (n := 0) (traced_of_advances h sited_everywhere))

theorem advances_levels (h : Advances expr) : ∀ reader ∈ levels expr, Advances reader := by
  have hM := closed_everywhere
  simp only [levels, List.forall_mem_cons]
  exact ⟨h, h.level (traced_statement hM), h.level (traced_assignment hM),
    h.level (traced_conditional hM), h.level (traced_disjunction hM),
    h.level (traced_conjunction hM), h.level (traced_comparison hM),
    h.level (traced_conversion hM), h.level (traced_share hM), h.level (traced_sum hM),
    h.level (traced_product hM), h.level (traced_power hM), h.level (traced_bitwise hM),
    h.level (traced_unary hM), h.level (traced_suffixed hM), h.level (traced_operand hM), nofun⟩

theorem Advances.items {item : Reader α} (h : Advances item) (closing : Mark) :
    Advances (items item closing) :=
  advances_of_traced (n := 0) (traced_items (traced_of_advances h fun _ => trivial) closing)

theorem Advances.entry (h : Advances expr) : Advances (entry expr) :=
  advances_of_traced (n := 0) (traced_entry (traced_of_advances h sited_everywhere))

theorem advances_parameter : Advances parameter :=
  advances_of_traced (n := 0) traced_parameter

theorem advances_expression (depth : Nat) : Advances (expression depth) :=
  advances_of_traced (traced_expression closed_everywhere depth)

end

/-! ## Loops that end -/

/-- A loop comes to a result in so many rounds.  Nothing else bounds it. -/
inductive Loops (round : σ → List Placed → Round σ β) :
    Nat → σ → List Placed → Checked (β × List Placed) → Prop where
  | last {x : σ} {ts : List Placed} {c : Checked (β × List Placed)} (h : round x ts = .last c) :
    Loops round 1 x ts c
  | more {n : Nat} {x y : σ} {ts us : List Placed} {c : Checked (β × List Placed)}
      (h : round x ts = .more y us) (hrest : Loops round n y us c) : Loops round (n + 1) x ts c

/-- Every round takes a token at least before the loop goes on. -/
def Forward (round : σ → List Placed → Round σ β) : Prop :=
  ∀ ⦃x ts y us⦄, round x ts = .more y us → Takes 1 ts us

/-- A loop of rounds that each take a token at least ends, with the results of `loop`. -/
structure EndsBy (round : σ → List Placed → Round σ β)
    (loop : σ → List Placed → Checked (β × List Placed)) : Prop where
  forward : Forward round
  loops (x : σ) (ts : List Placed) : ∃ n ≤ ts.length + 1, Loops round n x ts (loop x ts)
  unique {n : Nat} {x : σ} {ts : List Placed} {c : Checked (β × List Placed)}
    (h : Loops round n x ts c) : c = loop x ts

section

variable {round : σ → List Placed → Round σ β}

theorem Loops.unique {n m : Nat} {x : σ} {ts : List Placed} {c d : Checked (β × List Placed)}
    (hc : Loops round n x ts c) (hd : Loops round m x ts d) : c = d := by
  induction hc generalizing m with
  | last hlast =>
    cases hd with
    | last hlast' => exact Round.last.inj (hlast.symm.trans hlast')
    | more hmore _ => cases hlast.symm.trans hmore
  | more hmore _ ih =>
    cases hd with
    | last hlast => cases hlast.symm.trans hmore
    | more hmore' hrest =>
      cases hmore.symm.trans hmore'
      exact ih hrest

theorem Unrolls.endsBy {loop : Nat → σ → List Placed → Checked (β × List Placed)}
    (h : Unrolls round loop) (hforward : Forward round) :
    EndsBy round fun x ts => loop ts.length x ts := by
  suffices hloops : ∀ rounds x ts, ts.length ≤ rounds →
      ∃ n ≤ ts.length + 1, Loops round n x ts (loop rounds x ts) by
    replace hloops (x : σ) (ts : List Placed) := hloops ts.length x ts (Nat.le_refl _)
    refine ⟨hforward, hloops, fun hc => ?_⟩
    obtain ⟨n, -, hn⟩ := hloops _ _
    exact hc.unique hn
  intro rounds x ts hrounds
  induction hlength : ts.length using Nat.strongRecOn generalizing rounds x ts with
  | _ length ih =>
    rw [h.eq_go x hrounds]
    cases hround : round x ts with
    | last c => exact ⟨1, Nat.le_add_left 1 _, .last hround⟩
    | more y us =>
      have hle := (hforward hround).length_le
      obtain ⟨n, hn, hloops⟩ := ih us.length (by omega) (rounds - 1) y us (by omega) rfl
      exact ⟨n + 1, by omega, .more hround hloops⟩

end

/-! ## Every round that goes on takes a token -/

/-- The operators that group from the left, from the tightest to the loosest. -/
def operators : List (Placed → Option (Expr → Expr → Expr)) :=
  [plain? bitOp?, plain? productOp?, fun t => (sumOp? t.token).map fun op => combineSum op t.offset,
    plain? ofOp?, logical? .and .and, logical? .or .or]

theorem attaches_operators {M : Placed → Prop} : ∀ combine? ∈ operators, Attaches M combine? := by
  simp only [operators, List.forall_mem_cons]
  exact ⟨attaches_plain (M := M) rfl, attaches_plain (M := M) rfl, attaches_sum (M := M),
    attaches_plain (M := M) rfl, attaches_logical (M := M) _ _, attaches_logical (M := M) _ _, nofun⟩

section

variable {expr operand : Reader Expr} {combine? : Placed → Option (Expr → Expr → Expr)}
  {item : Reader α} {closing : Mark}

theorem takes_of_expect {m : Mark} {wanted : String} (h : expect m wanted ts = .ok us) :
    Takes 1 ts us := by
  cases ts with
  | nil => cases h
  | cons t rest =>
    unfold expect at h
    dsimp only at h
    split at h
    · rename_i htoken
      cases h
      exact takes_one (by simp [htoken])
    · cases h

theorem forward_of_roundTraces {n k : Nat} {P : σ → Prop} {P' : β → Prop}
    {round : σ → List Placed → Round σ β}
    (h : ∀ x ts, RoundTraces (fun _ => True) n k P P' ts (round x ts)) : Forward round := by
  intro x ts y us hmore
  have hround := h x ts fun _ _ => trivial
  rw [hmore] at hround
  exact hround.2

theorem forward_suffixRound (h : Advances expr) : Forward (suffixRound expr) :=
  forward_of_roundTraces fun e _ =>
    roundTraces_suffix (n := 0) (traced_of_advances h sited_everywhere) (sited_everywhere e)

theorem forward_termRound : Forward termRound :=
  forward_of_roundTraces fun terms _ => roundTraces_term terms

theorem forward_chainRound (hoperand : Advances operand) (hcombine : combine? ∈ operators) :
    Forward (chainRound operand combine?) :=
  forward_of_roundTraces fun left _ =>
    roundTraces_chain (n := 0) (traced_of_advances hoperand sited_everywhere)
      (attaches_operators (M := fun _ => True) _ hcombine) (sited_everywhere left)

theorem forward_conversionRound : Forward conversionRound :=
  forward_of_roundTraces fun e _ => roundTraces_conversion (n := 0) (sited_everywhere e)

theorem forward_comparisonRound (h : Advances expr) : Forward (comparisonRound expr) :=
  forward_of_roundTraces fun left _ =>
    roundTraces_comparison (n := 0) closed_everywhere (traced_of_advances h sited_everywhere)
      (sited_everywhere left)

theorem forward_itemRound (hitem : Advances item) : Forward (itemRound item closing) :=
  forward_of_roundTraces fun _ _ =>
    roundTraces_item (n := 0) (traced_of_advances hitem fun _ => trivial) closing
      fun _ _ => trivial

/-! ## Every loop ends -/

theorem endsBy_suffixes (h : Advances expr) :
    EndsBy (suffixRound expr) fun e ts => suffixes expr ts.length e ts :=
  unrolls_suffixes.endsBy (forward_suffixRound h)

theorem endsBy_moreTerms :
    EndsBy termRound fun terms ts => prepended terms (.ok (moreTerms ts.length ts)) :=
  unrolls_moreTerms.endsBy forward_termRound

theorem endsBy_chain (hoperand : Advances operand) (hcombine : combine? ∈ operators) :
    EndsBy (chainRound operand combine?) fun left ts => chain operand combine? ts.length left ts :=
  unrolls_chain.endsBy (forward_chainRound hoperand hcombine)

theorem endsBy_conversions :
    EndsBy conversionRound fun e ts => .ok (conversions ts.length e ts) :=
  unrolls_conversions.endsBy forward_conversionRound

theorem endsBy_comparisons (h : Advances expr) :
    EndsBy (comparisonRound expr) fun left ts => comparisons expr ts.length left ts :=
  unrolls_comparisons.endsBy (forward_comparisonRound h)

/-- With no items before it, the loop is a list. -/
theorem endsBy_items (hitem : Advances item) (closing : Mark) :
    EndsBy (itemRound item closing) fun xs ts => prepended xs (items item closing ts) := by
  have hunrolls : Unrolls (itemRound item closing) _ := unrolls_items hitem.nil
  exact hunrolls.endsBy (forward_itemRound hitem)

end

end Grammar

end Reckoner
