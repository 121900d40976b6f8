import Reckoner.Grammar.Expression

/-!
# The rounds of loops

A reader that goes on for as long as it can is a loop, and it is given as many rounds as there are
tokens.  Here a loop is taken apart into its rounds.

* `Grammar.Round`: what a round comes to.
* `Grammar.Unrolls`: a loop is made of its rounds.
* One definition for the rounds of each loop: what follows an operand, units, operators,
  conversions, comparisons, and the items of a list.
-/

namespace Reckoner

namespace Grammar

variable {α σ β : Type}

/-! ## Rounds -/

/-- What a round of a loop comes to: the loop goes on with a new state, or it ends. -/
inductive Round (σ β : Type) where
  | more (state : σ) (rest : List Placed)
  | last (result : Checked (β × List Placed))

/-- A round that starts with something to be read. -/
def Round.after (c : Checked (α × List Placed)) (f : α → List Placed → Round σ β) : Round σ β :=
  match c with
  | .ok (x, rest) => f x rest
  | .error e => .last (.error e)

/-- What a loop comes to behind a round. -/
def Round.go (loop : σ → List Placed → Checked (β × List Placed)) :
    Round σ β → Checked (β × List Placed)
  | more x rest => loop x rest
  | last result => result

@[simp]
theorem Round.go_more {loop : σ → List Placed → Checked (β × List Placed)} (x : σ)
    (rest : List Placed) : (Round.more x rest).go loop = loop x rest := rfl

@[simp]
theorem Round.go_last {loop : σ → List Placed → Checked (β × List Placed)}
    (result : Checked (β × List Placed)) : (Round.last result).go loop = result := rfl

@[simp]
theorem Round.go_after {loop : σ → List Placed → Checked (β × List Placed)}
    (c : Checked (α × List Placed)) (f : α → List Placed → Round σ β) :
    (Round.after c f).go loop = c >>= fun p => (f p.1 p.2).go loop := by
  cases c <;> rfl

/-- A loop is made of its rounds, as far as there are rounds for it. -/
structure Unrolls (round : σ → List Placed → Round σ β)
    (loop : Nat → σ → List Placed → Checked (β × List Placed)) : Prop where
  nil (x : σ) : round x [] = .last (loop 0 x [])
  succ (rounds : Nat) (x : σ) (ts : List Placed) :
    loop (rounds + 1) x ts = (round x ts).go (loop rounds)

/-- With as many rounds as there are tokens, a loop starts with a round. -/
theorem Unrolls.eq_go {round : σ → List Placed → Round σ β}
    {loop : Nat → σ → List Placed → Checked (β × List Placed)} (h : Unrolls round loop) (x : σ)
    {rounds : Nat} {ts : List Placed} (hts : ts.length ≤ rounds) :
    loop rounds x ts = (round x ts).go (loop (rounds - 1)) := by
  cases rounds with
  | zero =>
    obtain rfl := List.length_eq_zero_iff.1 (Nat.le_zero.1 hts)
    rw [h.nil, Round.go_last]
  | succ rounds => exact h.succ rounds x ts

/-! ## The rounds of each loop -/

/-- A reader, then a mark that has to follow. -/
def before (reader : Reader α) (m : Mark) (wanted : String) : Reader α := fun ts => do
  let (x, ts) ← reader ts
  let ts ← expect m wanted ts
  .ok (x, ts)

/-- One thing that follows an operand. -/
def suffixRound (expr : Reader Expr) (e : Expr) : List Placed → Round Expr Expr
  | [] => .last (.ok (e, []))
  | t :: rest =>
    match t.token with
    | .mark .dot => .after (property rest) fun key rest => .more (.access e key t.offset) rest
    | .mark .leftBracket =>
      .after (before expr .rightBracket "']' after index" rest) fun key rest =>
        .more (.access e key t.offset) rest
    | .mark .leftParen =>
      if e.isCallable then
        .after (arguments expr rest) fun args rest => .more (.apply e args t.offset) rest
      else .last (.ok (e, t :: rest))
    | .mark .percent =>
      if percentAhead rest then .more (.unary .percent e t.offset) rest
      else .last (.ok (e, t :: rest))
    | .zone name =>
      match e.inZone? name with
      | some e => .more e rest
      | none => .last (.ok (e, t :: rest))
    | _ =>
      match numberSuffix? e (t :: rest) with
      | some (e, rest) => .more e rest
      | none => .last (.ok (e, t :: rest))

/-- One further unit with its mark. -/
def termRound (terms : List UnitTerm) : List Placed → Round (List UnitTerm) (List UnitTerm)
  | [] => .last (.ok (terms, []))
  | t :: rest =>
    match (unitSign? t.token).bind (takeTerm? · rest) with
    | some (term, rest) => .more (terms ++ [term]) rest
    | none => .last (.ok (terms, t :: rest))

/-- One operator and the operand behind it. -/
def chainRound (operand : Reader Expr) (combine? : Placed → Option (Expr → Expr → Expr))
    (left : Expr) : List Placed → Round Expr Expr
  | [] => .last (.ok (left, []))
  | t :: rest =>
    match combine? t with
    | some combine => .after (operand rest) fun right rest => .more (combine left right) rest
    | none => .last (.ok (left, t :: rest))

/-- One conversion, or a keyword that asks for none. -/
def conversionRound (e : Expr) : List Placed → Round Expr Expr
  | [] => .last (.ok (e, []))
  | t :: rest =>
    if isConversion t.token then
      match rest with
      | [] => .last (.ok (e, []))
      | target :: rest' =>
        match convert? e t.offset target rest' with
        | some (e, rest) => .more e rest
        | none => .more e rest
    else .last (.ok (e, t :: rest))

/-- One comparison or test of kind. -/
def comparisonRound (expr : Reader Expr) (left : Expr) : List Placed → Round Expr Expr
  | [] => .last (.ok (left, []))
  | t :: rest =>
    if t.token = .keyword .is_ then
      match rest with
      | [] => .last (failAt t.offset .unexpectedEnd)
      | target :: rest =>
        match kindOf? target with
        | some kind => .more (.isKind left kind t.offset) rest
        | none =>
          .last (failAt target.offset
            (.expectedToken "type name after 'is'" target.token.describe))
    else
      match compareOp? t.token with
      | some op =>
        .after (conversion expr rest) fun right rest => .more (.compare op left right t.offset) rest
      | none => .last (.ok (left, t :: rest))

/-- One item of a list behind those that came before, with the comma or the closing mark. -/
def itemRound (item : Reader α) (closing : Mark) (xs : List α) (ts : List Placed) :
    Round (List α) (List α) :=
  match eat? closing ts with
  | some rest => .last (.ok (xs, rest))
  | none =>
    .after (item ts) fun x rest =>
      match rest with
      | [] => .last (failAt 0 .unexpectedEnd)
      | t :: rest =>
        if t.token = .mark .comma then .more (xs ++ [x]) rest
        else if t.token = .mark closing then .last (.ok (xs ++ [x], rest))
        else if t.token = .finish then .last (failAt t.offset .unexpectedEnd)
        else .last (failAt t.offset (.expectedToken "',' or closing bracket" t.token.describe))

/-- Items in front of those that are read. -/
def prepended (xs : List α) : Checked (List α × List Placed) → Checked (List α × List Placed)
  | .ok (ys, rest) => .ok (xs ++ ys, rest)
  | .error e => .error e

@[simp]
theorem prepended_nil (c : Checked (List α × List Placed)) : prepended [] c = c := by
  cases c <;> rfl

/-! ## Loops are made of their rounds -/

section

variable {expr operand : Reader Expr} {combine? : Placed → Option (Expr → Expr → Expr)}
  {item : Reader α} {closing : Mark}

theorem suffixes_succ (rounds : Nat) (e : Expr) (ts : List Placed) :
    suffixes expr (rounds + 1) e ts = (suffixRound expr e ts).go (suffixes expr rounds) := by
  fun_cases suffixRound expr e ts with
  | case3 t rest htoken =>
    simp only [suffixes, htoken, Round.go_after, Round.go_more, before, bind_assoc]
    rfl
  | _ => simp [suffixes, *]

theorem unrolls_suffixes : Unrolls (suffixRound expr) (suffixes expr) :=
  ⟨fun _ => rfl, suffixes_succ⟩

theorem prepended_moreTerms (rounds : Nat) (terms : List UnitTerm) (ts : List Placed) :
    prepended terms (.ok (moreTerms (rounds + 1) ts)) =
      (termRound terms ts).go fun terms ts => prepended terms (.ok (moreTerms rounds ts)) := by
  fun_cases termRound terms ts <;> simp [moreTerms, prepended, *]

theorem unrolls_moreTerms :
    Unrolls termRound fun rounds terms ts => prepended terms (.ok (moreTerms rounds ts)) :=
  ⟨fun terms => by simp [termRound, moreTerms, prepended], prepended_moreTerms⟩

theorem chain_succ (rounds : Nat) (left : Expr) (ts : List Placed) :
    chain operand combine? (rounds + 1) left ts =
      (chainRound operand combine? left ts).go (chain operand combine? rounds) := by
  fun_cases chainRound operand combine? left ts <;> simp [chain, *]

theorem unrolls_chain : Unrolls (chainRound operand combine?) (chain operand combine?) :=
  ⟨fun _ => rfl, chain_succ⟩

theorem conversions_succ (rounds : Nat) (e : Expr) (ts : List Placed) :
    .ok (conversions (rounds + 1) e ts) =
      (conversionRound e ts).go fun e ts => .ok (conversions rounds e ts) := by
  fun_cases conversionRound e ts <;> simp [conversions, *]

theorem unrolls_conversions :
    Unrolls conversionRound fun rounds e ts => .ok (conversions rounds e ts) :=
  ⟨fun _ => rfl, conversions_succ⟩

theorem comparisons_succ (rounds : Nat) (left : Expr) (ts : List Placed) :
    comparisons expr (rounds + 1) left ts =
      (comparisonRound expr left ts).go (comparisons expr rounds) := by
  fun_cases comparisonRound expr left ts <;> simp [comparisons, *]

theorem unrolls_comparisons : Unrolls (comparisonRound expr) (comparisons expr) :=
  ⟨fun _ => rfl, comparisons_succ⟩

theorem itemsUntil_succ (rounds : Nat) (xs : List α) (ts : List Placed) :
    prepended xs (itemsUntil item closing (rounds + 1) ts) = (itemRound item closing xs ts).go
      fun xs ts => prepended xs (itemsUntil item closing rounds ts) := by
  fun_cases itemRound item closing xs ts with
  | case1 rest hclosing => simp [itemsUntil, prepended, hclosing]
  | case2 hclosing =>
    simp only [itemsUntil, hclosing, Round.go_after]
    cases item ts with
    | error e => rfl
    | ok p =>
      obtain ⟨x, rest⟩ := p
      cases rest with
      | nil => rfl
      | cons t rest =>
        dsimp only [bind, Except.bind]
        split
        · rw [Round.go_more]
          cases itemsUntil item closing rounds rest <;> simp [prepended]
        · split
          · rfl
          · split <;> rfl

/-- With no items before it, the loop is a list. -/
theorem unrolls_items (hnil : ∃ e, item [] = .error e) :
    Unrolls (itemRound item closing)
      fun rounds xs ts => prepended xs (itemsUntil item closing (rounds + 1) ts) := by
  obtain ⟨e, he⟩ := hnil
  refine ⟨fun xs => ?_, fun rounds => itemsUntil_succ (rounds + 1)⟩
  simp [itemRound, itemsUntil, prepended, Round.after, eat?, he]

end

end Grammar

end Reckoner
