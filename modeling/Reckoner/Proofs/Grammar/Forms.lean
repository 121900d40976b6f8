import Mathlib.Data.List.Forall2
import Reckoner.Proofs.Grammar.Levels

/-!
# The forms of expressions

What the grammar makes of one form after the other: a number, a name, a pair of
parentheses, an array, a call, an index, a sign, a comparison.  Each lemma takes
what is read of the parts, wherever their tokens are placed, and says what is
read of the form.

`spells_items` is about lists with commas, for items of any type.
-/

namespace Reckoner

namespace Grammar

variable {expr : Reader Expr} {toks : List Token} {P Q R : Expr → Prop}

/-! ## Operands -/

theorem operand_of_plain {t : Placed} {ts : List Placed} (h : Plain (t :: ts)) :
    operand expr (t :: ts) = operandAt expr t ts := by
  simp [operand, lambdaAhead_eq_false h]

/-- Tokens that are an operand as they stand. -/
theorem opens_operand (h : Spells (fun _ => operand expr) .index toks P) :
    OpensAt expr .index toks P := by
  intro ts rest rounds hts hplain hrest hrounds
  obtain ⟨e, he, hread⟩ := h ts rest rounds hts hplain hrest hrounds
  refine ⟨e, rest.length, he, Nat.le_refl _, ?_⟩
  simp only [suffixed, hread]
  rfl

theorem spells_number {text : String} {value : Decimal}
    (h : Decimal.parseNumber? text = some value)
    (hvalue : ∀ offset, P (.number value [] offset)) :
    Spells (fun _ => operand expr) .index [.number text] P := by
  intro ts rest rounds hts hplain hrest hrounds
  obtain ⟨t, us, rfl, htoken, hus⟩ := List.map_eq_cons_iff.1 hts
  rw [List.map_eq_nil_iff] at hus
  subst hus
  refine ⟨.number value [] t.offset, hvalue t.offset, ?_⟩
  rw [List.singleton_append] at hplain ⊢
  simp only [operand_of_plain hplain, operandAt, htoken, numberLiteral, h]
  rfl

theorem eat?_leftParen_of_follows {level : Level} {rest : List Placed} (h : Follows level rest) :
    eat? .leftParen rest = none := by
  cases rest with
  | nil => rfl
  | cons t rest =>
    obtain ⟨l, hl, -⟩ := h
    refine if_neg fun htoken => ?_
    rw [htoken] at hl
    cases hl

theorem spells_name {text : String} (hname : ∀ offset, P (.name text offset)) :
    Spells (fun _ => operand expr) .index [.name text] P := by
  intro ts rest rounds hts hplain hrest hrounds
  obtain ⟨t, us, rfl, htoken, hus⟩ := List.map_eq_cons_iff.1 hts
  rw [List.map_eq_nil_iff] at hus
  subst hus
  refine ⟨.name text t.offset, hname t.offset, ?_⟩
  rw [List.singleton_append] at hplain ⊢
  simp only [operand_of_plain hplain, operandAt, htoken, nameOrCall,
    eat?_leftParen_of_follows hrest]

/-- Parentheses leave no node. -/
theorem spells_parens (h : Spells (fun _ => expr) .whole toks P) :
    Spells (fun _ => operand expr) .index (.mark .leftParen :: (toks ++ [.mark .rightParen])) P := by
  intro ts rest rounds hts hplain hrest hrounds
  obtain ⟨t, us, rfl, htoken, hus⟩ := List.map_eq_cons_iff.1 hts
  obtain ⟨inner, vs, rfl, hinner, hvs⟩ := List.map_eq_append_iff.1 hus
  obtain ⟨u, ws, rfl, hclose, hws⟩ := List.map_eq_cons_iff.1 hvs
  rw [List.map_eq_nil_iff] at hws
  subst hws
  simp only [List.cons_append, List.append_assoc, List.nil_append] at hplain ⊢
  obtain ⟨e, he, hread⟩ := h inner (u :: rest) _ hinner (plain_cons.1 hplain).2
    ⟨.whole, hclose ▸ rfl, by decide⟩ (Nat.le_refl _)
  refine ⟨e, he, ?_⟩
  simp only [operand_of_plain hplain, operandAt, htoken, hread]
  dsimp only [bind, Except.bind, expect]
  rw [if_pos hclose]

/-! ## Items -/

theorem mem_intercalate_comma {tss : List (List Token)} {t : Token}
    (h : t ∈ [.mark .comma].intercalate tss) : t = .mark .comma ∨ ∃ ts ∈ tss, t ∈ ts := by
  induction tss with
  | nil => cases h
  | cons ts tss ih =>
    cases tss with
    | nil => exact .inr ⟨ts, List.mem_cons_self, by simpa using h⟩
    | cons us tss =>
      rw [List.intercalate_cons_cons, List.mem_append, List.mem_append, List.mem_singleton] at h
      rcases h with (h | h) | h
      · exact .inr ⟨ts, List.mem_cons_self, h⟩
      · exact .inl h
      · rcases ih h with h | ⟨vs, hvs, h⟩
        · exact .inl h
        · exact .inr ⟨vs, List.mem_cons_of_mem _ hvs, h⟩

theorem length_le_intercalate {tss : List (List Token)} {ts : List Token} (h : ts ∈ tss) :
    ts.length ≤ ([.mark .comma].intercalate tss).length := by
  induction tss with
  | nil => cases h
  | cons us tss ih =>
    cases tss with
    | nil =>
      obtain rfl := List.mem_singleton.1 h
      simp
    | cons vs tss =>
      simp only [List.intercalate_cons_cons, List.length_append]
      rcases List.mem_cons.1 h with rfl | h
      · omega
      · have := ih h
        omega

section

variable {α β : Type} {item : Reader β} {closing : Mark}

theorem itemsUntil_of_comma {rounds : Nat} {ts rest : List Placed} {y : β} {t : Placed}
    (heat : eat? closing ts = none) (hitem : item ts = .ok (y, t :: rest))
    (ht : t.token = .mark .comma) :
    itemsUntil item closing (rounds + 1) ts =
      (itemsUntil item closing rounds rest).map fun p => (y :: p.1, p.2) := by
  rw [itemsUntil]
  simp only [heat, hitem, ht, if_true]
  cases itemsUntil item closing rounds rest <;> rfl

theorem itemsUntil_of_closing {rounds : Nat} {ts rest : List Placed} {y : β} {t : Placed}
    (heat : eat? closing ts = none) (hitem : item ts = .ok (y, t :: rest))
    (ht : t.token = .mark closing) (hcomma : closing ≠ .comma) :
    itemsUntil item closing (rounds + 1) ts = .ok ([y], rest) := by
  rw [itemsUntil]
  simp [heat, hitem, ht, hcomma]

theorem eat?_append_of_head {toks : List Token} {ts rest : List Placed}
    (hts : ts.map (·.token) = toks) (hhead : ∃ t us, toks = t :: us ∧ t ≠ .mark closing) :
    eat? closing (ts ++ rest) = none := by
  obtain ⟨t, us, rfl, hne⟩ := hhead
  obtain ⟨u, vs, rfl, rfl, -⟩ := List.map_eq_cons_iff.1 hts
  exact if_neg hne

/-- Items with commas between them and the mark that ends them. -/
theorem spells_itemsUntil {spell : α → List Token} {S : α → β → Prop}
    (hclosing : level? (.mark closing) = some .whole) (hcomma : closing ≠ .comma)
    {xs : List α} (hitem : ∀ x ∈ xs, Spells (fun _ => item) .whole (spell x) (S x))
    (hhead : ∀ x ∈ xs, ∃ t us, spell x = t :: us ∧ t ≠ .mark closing) :
    Spells (fun rounds => itemsUntil item closing (rounds + 1)) .index
      ([.mark .comma].intercalate (xs.map spell) ++ [.mark closing]) (List.Forall₂ S xs) := by
  induction xs with
  | nil =>
    intro ts rest rounds hts hplain hrest hrounds
    obtain ⟨t, us, rfl, htoken, hus⟩ := List.map_eq_cons_iff.1 hts
    rw [List.map_eq_nil_iff] at hus
    subst hus
    refine ⟨[], .nil, ?_⟩
    simp [itemsUntil, eat?, htoken]
  | cons x xs ih =>
    have hx := hitem x List.mem_cons_self
    have hxhead := hhead x List.mem_cons_self
    cases xs with
    | nil =>
      intro ts rest rounds hts hplain hrest hrounds
      obtain ⟨us, vs, rfl, hus, hvs⟩ := List.map_eq_append_iff.1 hts
      obtain ⟨t, ws, rfl, htoken, hws⟩ := List.map_eq_cons_iff.1 hvs
      rw [List.map_eq_nil_iff] at hws
      subst hws
      rw [List.map_singleton, List.intercalate_singleton] at hus
      rw [List.append_assoc, List.singleton_append] at hplain ⊢
      obtain ⟨y, hy, hread⟩ := hx us (t :: rest) _ hus hplain
        ⟨.whole, htoken ▸ hclosing, Nat.le_refl _⟩ (Nat.le_refl _)
      exact ⟨[y], .cons hy .nil,
        itemsUntil_of_closing (eat?_append_of_head hus hxhead) hread htoken hcomma⟩
    | cons x' xs =>
      have hmore := ih (fun z hz => hitem z (List.mem_cons_of_mem _ hz))
        fun z hz => hhead z (List.mem_cons_of_mem _ hz)
      intro ts rest rounds hts hplain hrest hrounds
      rw [List.map_cons, List.map_cons, List.intercalate_cons_cons, ← List.map_cons,
        List.append_assoc, List.append_assoc] at hts
      obtain ⟨us, vs, rfl, hus, hvs⟩ := List.map_eq_append_iff.1 hts
      obtain ⟨t, ws, rfl, htoken, hws⟩ := List.map_eq_cons_iff.1 hvs
      rw [List.append_assoc, List.cons_append] at hplain hrounds ⊢
      obtain ⟨y, hy, hread⟩ := hx us (t :: (ws ++ rest)) _ hus hplain
        ⟨.whole, htoken ▸ rfl, Nat.le_refl _⟩ (Nat.le_refl _)
      simp only [List.length_append, List.length_cons] at hrounds
      obtain ⟨n, rfl⟩ : ∃ n, rounds = n + 1 := ⟨rounds - 1, by omega⟩
      obtain ⟨ys, hys, hread'⟩ := hmore ws rest n hws (plain_cons.1 (plain_append.1 hplain).2).2
        hrest (by simp only [List.length_append]; omega)
      refine ⟨y :: ys, .cons hy hys, ?_⟩
      dsimp only at hread' ⊢
      rw [itemsUntil_of_comma (eat?_append_of_head hus hxhead) hread htoken, hread']
      rfl

theorem spells_items {spell : α → List Token} {S : α → β → Prop}
    (hclosing : level? (.mark closing) = some .whole) (hcomma : closing ≠ .comma)
    {xs : List α} (hitem : ∀ x ∈ xs, Spells (fun _ => item) .whole (spell x) (S x))
    (hhead : ∀ x ∈ xs, ∃ t us, spell x = t :: us ∧ t ≠ .mark closing) :
    Spells (fun _ => items item closing) .index
      ([.mark .comma].intercalate (xs.map spell) ++ [.mark closing]) (List.Forall₂ S xs) :=
  fun ts rest _ hts hplain hrest _ =>
    spells_itemsUntil hclosing hcomma hitem hhead ts rest _ hts hplain hrest (Nat.le_refl _)

end

theorem spells_array {α : Type} {spell : α → List Token} {S : α → Expr → Prop} {xs : List α}
    (hitem : ∀ x ∈ xs, Spells (fun _ => expr) .whole (spell x) (S x))
    (hhead : ∀ x ∈ xs, ∃ t us, spell x = t :: us ∧ t ≠ .mark .rightBracket)
    (hnode : ∀ es offset, List.Forall₂ S xs es → P (.array es offset)) :
    Spells (fun _ => operand expr) .index
      (.mark .leftBracket ::
        ([.mark .comma].intercalate (xs.map spell) ++ [.mark .rightBracket])) P := by
  intro ts rest rounds hts hplain hrest hrounds
  obtain ⟨t, us, rfl, htoken, hus⟩ := List.map_eq_cons_iff.1 hts
  rw [List.cons_append] at hplain ⊢
  obtain ⟨es, hes, hread⟩ := spells_items rfl (by decide) hitem hhead us rest _ hus
    (plain_cons.1 hplain).2 hrest (Nat.le_refl _)
  refine ⟨.array es t.offset, hnode es t.offset hes, ?_⟩
  simp only [operand_of_plain hplain, operandAt, htoken, hread]
  rfl

/-- The name of the function that is called if parentheses follow a token. -/
def calledName? : Token → Option String
  | .function text | .name text | .unit text | .zone text => some text
  | .keyword .sum | .keyword .total => some "sum"
  | .keyword .average | .keyword .avg => some "average"
  | _ => none

theorem operandAt_call {t u : Placed} {name : String} {ts : List Placed}
    (hname : calledName? t.token = some name) (hu : u.token = .mark .leftParen) :
    operandAt expr t (u :: ts) =
      (do
        let (args, rest) ← arguments expr ts
        .ok (.call name args t.offset, rest)) := by
  obtain ⟨token, offset⟩ := t
  cases token with
  | function text | name text | unit text | zone text =>
    cases hname
    simp [operandAt, nameOrCall, eat?, hu]
  | keyword k =>
    cases k with
    | sum | total | average | avg =>
      cases hname
      simp [operandAt, keyword, aggregate, eat?, hu]
    | _ => cases hname
  | _ => cases hname

theorem spells_call {α : Type} {spell : α → List Token} {S : α → Expr → Prop} {xs : List α}
    {callee : Token} {name : String} (hname : calledName? callee = some name)
    (hitem : ∀ x ∈ xs, Spells (fun _ => expr) .whole (spell x) (S x))
    (hhead : ∀ x ∈ xs, ∃ t us, spell x = t :: us ∧ t ≠ .mark .rightParen)
    (hnode : ∀ es offset, List.Forall₂ S xs es → P (.call name es offset)) :
    Spells (fun _ => operand expr) .index
      (callee :: .mark .leftParen ::
        ([.mark .comma].intercalate (xs.map spell) ++ [.mark .rightParen])) P := by
  intro ts rest rounds hts hplain hrest hrounds
  obtain ⟨t, us, rfl, htoken, hus⟩ := List.map_eq_cons_iff.1 hts
  obtain ⟨u, vs, rfl, hparen, hvs⟩ := List.map_eq_cons_iff.1 hus
  rw [List.cons_append, List.cons_append] at hplain ⊢
  obtain ⟨es, hes, hread⟩ := spells_items rfl (by decide) hitem hhead vs rest _ hvs
    (plain_cons.1 (plain_cons.1 hplain).2).2 hrest (Nat.le_refl _)
  refine ⟨.call name es t.offset, hnode es t.offset hes, ?_⟩
  simp only [operand_of_plain hplain, operandAt_call (htoken ▸ hname) hparen, arguments, hread]
  rfl

/-! ## Indices and signs -/

/-- An index behind an operand. -/
theorem OpensAt.index {key : List Token} (h : OpensAt expr .index toks P)
    (hkey : Spells (fun _ => expr) .whole key Q)
    (hnode : ∀ a k offset, P a → Q k → R (.access a k offset)) :
    OpensAt expr .index
      (toks ++ .mark .leftBracket :: (key ++ [.mark .rightBracket])) R := by
  intro ts rest rounds hts hplain hrest hrounds
  obtain ⟨as, us, rfl, has, hus⟩ := List.map_eq_append_iff.1 hts
  obtain ⟨t, vs, rfl, htoken, hvs⟩ := List.map_eq_cons_iff.1 hus
  obtain ⟨ks, ws, rfl, hks, hws⟩ := List.map_eq_append_iff.1 hvs
  obtain ⟨u, zs, rfl, hclose, hzs⟩ := List.map_eq_cons_iff.1 hws
  rw [List.map_eq_nil_iff] at hzs
  subst hzs
  simp only [List.append_assoc, List.cons_append, List.nil_append] at hplain hrounds ⊢
  obtain ⟨a, n, ha, hn, hread⟩ := h as (t :: (ks ++ u :: rest)) rounds has hplain
    ⟨.index, htoken ▸ rfl, Nat.le_refl _⟩ hrounds
  simp only [List.length_append, List.length_cons] at hn
  obtain ⟨m, rfl⟩ : ∃ m, n = m + 1 := ⟨n - 1, by omega⟩
  obtain ⟨k, hk, hread'⟩ := hkey ks (u :: rest) _ hks
    (plain_cons.1 (plain_append.1 hplain).2).2 ⟨.whole, hclose ▸ rfl, by decide⟩ (Nat.le_refl _)
  refine ⟨.access a k t.offset, m, hnode a k t.offset ha hk, by omega, ?_⟩
  refine hread.trans ?_
  simp only [suffixes, htoken, hread']
  dsimp only [bind, Except.bind, expect]
  rw [if_pos hclose]

/-- A sign in front of an operand. -/
theorem Spells.signed {level : Level} {sign : Token} {op : UnaryOp}
    (h : Spells (fun _ => Grammar.unary expr) level toks P) (hop : unaryOp? sign = some op)
    (hnode : ∀ e offset, P e → R (.unary op e offset)) :
    Spells (fun _ => Grammar.unary expr) level (sign :: toks) R := by
  intro ts rest rounds hts hplain hrest hrounds
  obtain ⟨t, us, rfl, htoken, hus⟩ := List.map_eq_cons_iff.1 hts
  rw [List.cons_append] at hplain ⊢
  obtain ⟨e, he, hread⟩ := h us rest _ hus (plain_cons.1 hplain).2 hrest (Nat.le_refl _)
  refine ⟨.unary op e t.offset, hnode e t.offset he, ?_⟩
  dsimp only at hread ⊢
  rw [Grammar.unary]
  simp only [htoken, hop, hread]
  rfl

/-! ## Comparisons -/

theorem level?_of_compareOp? {t : Token} {op : CompareOp} (h : compareOp? t = some op) :
    level? t = some .comparison := by
  cases t with
  | mark m => cases m with
    | equalEqual | notEqual | less | lessEqual | greater | greaterEqual => rfl
    | _ => cases h
  | _ => cases h

theorem OpensAt.comparison {left right : List Token} {op : Token} {cmp : CompareOp}
    (hleft : OpensAt expr .comparison left P)
    (hright : SpellsAt expr .sum right Q) (hop : compareOp? op = some cmp)
    (hnode : ∀ a b offset, P a → Q b → R (.compare cmp a b offset)) :
    OpensAt expr .comparison (left ++ op :: right) R := by
  intro ts rest rounds hts hplain hrest hrounds
  obtain ⟨ls, us, rfl, hls, hus⟩ := List.map_eq_append_iff.1 hts
  obtain ⟨t, rs, rfl, htoken, hrs⟩ := List.map_eq_cons_iff.1 hus
  rw [List.append_assoc, List.cons_append] at hplain hrounds ⊢
  obtain ⟨a, k, ha, hk, hread⟩ := hleft ls (t :: (rs ++ rest)) rounds hls hplain
    ⟨.comparison, htoken ▸ level?_of_compareOp? hop, Nat.le_refl _⟩ hrounds
  obtain ⟨b, hb, hread'⟩ := (hright.conversion (Nat.le_refl _)) rs rest _ hrs
    (plain_cons.1 (plain_append.1 hplain).2).2 hrest (Nat.le_refl _)
  simp only [List.length_cons, List.length_append] at hk
  obtain ⟨n, rfl⟩ : ∃ n, k = n + 1 := ⟨k - 1, by omega⟩
  refine ⟨.compare cmp a b t.offset, n, hnode a b t.offset ha hb, ?_, ?_⟩
  · omega
  · have his : op ≠ .keyword .is_ := by
      rintro rfl
      cases hop
    refine hread.trans ?_
    simp only [comparisons, htoken, if_neg his, hop, hread']
    rfl

end Grammar

end Reckoner
