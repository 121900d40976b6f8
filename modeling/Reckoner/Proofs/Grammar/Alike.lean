import Reckoner.Proofs.Grammar.Levels
import Reckoner.Proofs.Grammar.Rounds

/-!
# Lists of tokens that are alike

Two lists of tokens are alike if they are the same, or if they have the same
tokens up to the end and there the first list has the final token and the second
a closing parenthesis in front of it.  What is read of the first is read of the
second, as far as tokens, units and heads of functions go:

* `Unrolls.alike`: loops, as far as their rounds are alike (`RoundAlike`);
* `takeUnits?_alike`, `conversionAhead?_alike`: units, and the one place where
  the two differ, a conversion that ends the source (`lastConversion?`);
* `parameters_alike`, `lambdaAhead_alike`, `definitionHead?_alike`: heads of
  functions and definitions;
* `itemsUntil_alike`: lists with commas.

`Alike` also says that behind an operator that binds tighter than a conversion
there is no operand whose conversion is left for later because it ends the
source (`Deferring`).
-/

namespace Reckoner

/-- Whether an expression is a number with units. -/
def Expr.isMeasured : Expr → Bool
  | .number _ (_ :: _) _ => true
  | _ => false

namespace Grammar

/-! ## Conversions at the end of a source -/

/-- The units that a conversion asks for, if it ends the source. -/
def lastConversion? : List Placed → Option (List UnitTerm)
  | t :: rest =>
    if isConversion t.token && (rest.head?.bind kindOf?).isNone then
      match takeUnits? rest with
      | some (units, [last]) => if last.token = .finish then some units else none
      | _ => none
    else none
  | [] => none

/-- Whether the source starts with a number with units and ends with its
conversion to other units. -/
def Deferring (ts : List Placed) : Prop :=
  ∃ depth e rest, suffixed (expression depth) ts = .ok (e, rest) ∧ e.isMeasured = true ∧
    (lastConversion? rest).isSome = true

/-- Whether a token is an operator that binds tighter than a conversion. -/
def bindsTight (t : Token) : Bool :=
  (unaryOp? t).isSome || (bitOp? t).isSome || t == .mark .caret || (productOp? t).isSome ||
    (sumOp? t).isSome || (ofOp? t).isSome

/-! ## Alike lists -/

/-- Lists of tokens that are the same, or, if `closed` says so, the same but for
a closing parenthesis before the final token of the second. -/
inductive Alike (closed : Bool) : List Placed → List Placed → Prop where
  | nil (hclosed : closed = false) : Alike closed [] []
  | ends {last paren final : Placed} (hclosed : closed = true) (hlast : last.token = .finish)
      (hparen : paren.token = .mark .rightParen) (hfinal : final.token = .finish) :
      Alike closed [last] [paren, final]
  | cons {t : Placed} {ts us : List Placed}
      (ht : closed = true → t.token ≠ .finish ∧ (bindsTight t.token = true → ¬ Deferring ts))
      (h : Alike closed ts us) : Alike closed (t :: ts) (t :: us)

theorem alike_refl (ts : List Placed) : Alike false ts ts := by
  induction ts with
  | nil => exact .nil rfl
  | cons t ts ih => exact .cons (fun h => by cases h) ih

section

variable {closed : Bool} {ts us : List Placed}

theorem Alike.length_eq (h : Alike closed ts us) : us.length = ts.length + closed.toNat := by
  induction h with
  | nil hclosed => rw [hclosed]; rfl
  | ends hclosed => rw [hclosed]; rfl
  | cons _ _ ih => simp only [List.length_cons, ih]; omega

/-- Without a closing parenthesis the lists are the same. -/
theorem Alike.eq_of_open (h : Alike false ts us) : us = ts := by
  induction h with
  | nil => rfl
  | ends hclosed => cases hclosed
  | cons _ _ ih => rw [ih]

/-- Two ways to read that take the same from lists that are alike, or both
nothing. -/
inductive Both {α : Type} (closed : Bool) (size : Nat) :
    Option (α × List Placed) → Option (α × List Placed) → Prop where
  | none : Both closed size none none
  | some {x : α} {ts us : List Placed} (h : Alike closed ts us) (hsize : ts.length < size) :
      Both closed size (some (x, ts)) (some (x, us))

/-- What follows a mark other than the closing parenthesis. -/
theorem eat?_alike (h : Alike closed ts us) {m : Mark} (hm : m ≠ .rightParen) :
    (eat? m ts = none ∧ eat? m us = none) ∨
      ∃ ts' us', eat? m ts = some ts' ∧ eat? m us = some us' ∧ Alike closed ts' us' ∧
        ts'.length < ts.length := by
  cases h with
  | nil => exact .inl ⟨rfl, rfl⟩
  | ends _ hlast hparen =>
    refine .inl ⟨if_neg ?_, if_neg ?_⟩
    · rw [hlast]
      exact Token.noConfusion
    · rw [hparen]
      exact fun h => hm (Token.mark.inj h).symm
  | @cons t ts us _ h =>
    by_cases ht : t.token = .mark m
    · exact .inr ⟨ts, us, if_pos ht, if_pos ht, h, Nat.lt_succ_self _⟩
    · exact .inl ⟨if_neg ht, if_neg ht⟩

/-- The heads of lists that are alike: nothing, the end, or the same token. -/
theorem Alike.head?_bind {β : Type} (h : Alike closed ts us) {f : Placed → Option β}
    (hfinish : ∀ t, t.token = .finish → f t = none)
    (hparen : ∀ t, t.token = .mark .rightParen → f t = none) :
    us.head?.bind f = ts.head?.bind f := by
  cases h with
  | nil => rfl
  | ends _ hlast hclose => simp [hfinish _ hlast, hparen _ hclose]
  | cons => rfl

theorem kindOf?_head_alike (h : Alike closed ts us) :
    us.head?.bind kindOf? = ts.head?.bind kindOf? :=
  h.head?_bind (fun t ht => by simp [kindOf?, ht, Token.wordText?])
    fun t ht => by simp [kindOf?, ht, Token.wordText?]

/-! ## Loops -/

/-- A round that starts from a list of so many tokens, and one that starts from a
list that is like it: both go on, or the first one ends and `ends` says what the
second one comes to. -/
inductive RoundAlike {σ β : Type} (closed : Bool) (size : Nat)
    (ends : β → List Placed → Round σ β → Prop) : Round σ β → Round σ β → Prop where
  | more {x : σ} {ts us : List Placed} (h : Alike closed ts us) (hlt : ts.length < size) :
      RoundAlike closed size ends (.more x ts) (.more x us)
  | last {y : β} {ts : List Placed} {r : Round σ β} (hle : ts.length ≤ size) (h : ends y ts r) :
      RoundAlike closed size ends (.last (.ok (y, ts))) r
  | failed {e : Error} {r : Round σ β} : RoundAlike closed size ends (.last (.error e)) r

/-- The same as was read of another list is read, and what is left is like what
is left there. -/
def Same {β : Type} (closed : Bool) (y : β) (ts : List Placed) (c : Checked (β × List Placed)) :
    Prop :=
  ∃ us, c = .ok (y, us) ∧ Alike closed ts us

section

variable {σ β : Type} {round round' : σ → List Placed → Round σ β}
  {loop loop' : Nat → σ → List Placed → Checked (β × List Placed)}
  {ends : β → List Placed → Checked (β × List Placed) → Prop}

/-- Loops go on alike as long as their rounds do. -/
theorem Unrolls.alike (hloop : Unrolls round loop) (hloop' : Unrolls round' loop')
    (hround : ∀ (x : σ) {ts us : List Placed} (rounds : Nat), Alike closed ts us →
      RoundAlike closed ts.length (fun y ts' r => ends y ts' (r.go (loop' rounds))) (round x ts)
        (round' x us))
    {rounds rounds' : Nat} {x : σ} {y : β} {ts' : List Placed} (h : Alike closed ts us)
    (hts : ts.length ≤ rounds) (hus : us.length ≤ rounds')
    (hread : loop rounds x ts = .ok (y, ts')) :
    ts'.length ≤ ts.length ∧ ends y ts' (loop' rounds' x us) := by
  induction hn : ts.length using Nat.strongRecOn generalizing ts us x rounds rounds' with
  | _ n ih =>
    subst hn
    have hboth := hround x (rounds' - 1) h
    rw [hloop.eq_go x hts] at hread
    rw [hloop'.eq_go x hus]
    generalize round x ts = r at hboth hread
    generalize round' x us = r' at hboth
    cases hboth with
    | more h₁ hlt =>
      have hlength := h.length_eq
      have hlength₁ := h₁.length_eq
      obtain ⟨hle, hends⟩ :=
        ih _ hlt h₁ (by omega : _ ≤ rounds - 1) (by omega : _ ≤ rounds' - 1) hread rfl
      exact ⟨by omega, hends⟩
    | last hle hends =>
      cases hread
      exact ⟨hle, hends⟩
    | failed => cases hread

end

/-! ## Units -/

theorem takeUnit?_alike (h : Alike closed ts us) :
    Both closed ts.length (takeUnit? ts) (takeUnit? us) := by
  cases h with
  | nil => exact .none
  | ends _ hlast hparen =>
    simp only [takeUnit?, hlast, hparen, Token.unitName?]
    exact .none
  | @cons t ts us _ h =>
    unfold takeUnit?
    dsimp only
    cases t.token.unitName? with
    | none => exact .none
    | some name =>
      dsimp only
      rcases eat?_alike h (m := .leftParen) (by decide) with ⟨h₁, h₂⟩ | ⟨ts', us', h₁, h₂, -, -⟩
      · simp only [h₁, h₂, Option.isSome_none, Bool.and_false, Bool.false_eq_true, if_false]
        exact .some h (Nat.lt_succ_self _)
      · simp only [h₁, h₂, Option.isSome_some, Bool.and_true]
        split
        · exact .none
        · exact .some h (Nat.lt_succ_self _)

theorem Both.mono {α : Type} {small large : Nat} {x? y? : Option (α × List Placed)}
    (h : Both closed small x? y?) (hle : small ≤ large) : Both closed large x? y? := by
  cases h with
  | none => exact .none
  | some h hsize => exact .some h (Nat.lt_of_lt_of_le hsize hle)

/-- The whole number of a power. -/
def powerNumber? (negative : Bool) : List Placed → Option (Int × List Placed)
  | ⟨.number text, _⟩ :: rest =>
    match Text.word? text.toList with
    | some power => some (if negative then -power else power, rest)
    | none => none
  | _ => none

theorem takePower?_eq (ts : List Placed) :
    takePower? ts = (eat? .caret ts).bind fun rest =>
      match eat? .minus rest with
      | some rest => powerNumber? true rest
      | none => powerNumber? false rest := by
  unfold takePower?
  cases eat? .caret ts with
  | none => rfl
  | some rest =>
    dsimp only [Option.bind]
    cases eat? .minus rest <;> rfl

theorem powerNumber?_alike (h : Alike closed ts us) (negative : Bool) :
    Both closed ts.length (powerNumber? negative ts) (powerNumber? negative us) := by
  cases h with
  | nil => exact .none
  | @ends last paren final _ hlast hparen =>
    obtain ⟨_, _⟩ := last
    obtain ⟨_, _⟩ := paren
    cases hlast
    cases hparen
    exact .none
  | @cons t ts us _ h =>
    obtain ⟨token, offset⟩ := t
    cases token with
    | number text =>
      unfold powerNumber?
      dsimp only
      cases Text.word? text.toList with
      | none => exact .none
      | some power => exact .some h (Nat.lt_succ_self _)
    | _ => exact .none

theorem takePower?_alike (h : Alike closed ts us) :
    Both closed ts.length (takePower? ts) (takePower? us) := by
  rw [takePower?_eq, takePower?_eq]
  rcases eat?_alike h (m := .caret) (by decide) with ⟨h₁, h₂⟩ | ⟨ts', us', h₁, h₂, h', hlt⟩
  · rw [h₁, h₂]
    exact .none
  · rw [h₁, h₂]
    dsimp only [Option.bind]
    rcases eat?_alike h' (m := .minus) (by decide) with ⟨h₁, h₂⟩ | ⟨vs, ws, h₁, h₂, h'', hlt'⟩
    · rw [h₁, h₂]
      exact (powerNumber?_alike h' false).mono (Nat.le_of_lt hlt)
    · rw [h₁, h₂]
      exact (powerNumber?_alike h'' true).mono (Nat.le_of_lt (Nat.lt_trans hlt' hlt))

theorem takeTerm?_alike (sign : Int) (h : Alike closed ts us) :
    Both closed ts.length (takeTerm? sign ts) (takeTerm? sign us) := by
  have hunit := takeUnit?_alike h
  unfold takeTerm?
  generalize takeUnit? ts = x? at hunit
  generalize takeUnit? us = y? at hunit
  cases hunit with
  | none => exact .none
  | @some name ts' us' h' hlt =>
    have hpower := takePower?_alike h'
    dsimp only
    generalize takePower? ts' = x? at hpower
    generalize takePower? us' = y? at hpower
    cases hpower with
    | none => exact .some h' hlt
    | some h'' hlt' => exact .some h'' (Nat.lt_trans hlt' hlt)

theorem termRound_alike (terms : List UnitTerm) (h : Alike closed ts us)
    (loop : List UnitTerm → List Placed → Checked (List UnitTerm × List Placed)) :
    RoundAlike closed ts.length (fun all ts' r => Same closed all ts' (r.go loop))
      (termRound terms ts) (termRound terms us) := by
  cases h with
  | nil hclosed => exact .last (Nat.le_refl _) ⟨_, rfl, .nil hclosed⟩
  | @ends last paren final hclosed hlast hparen hfinal =>
    simp only [termRound, hlast, hparen, unitSign?, Option.bind_none]
    exact .last (Nat.le_refl _) ⟨_, rfl, .ends hclosed hlast hparen hfinal⟩
  | @cons t ts us ht h =>
    dsimp only [termRound]
    cases unitSign? t.token with
    | none => exact .last (Nat.le_refl _) ⟨_, rfl, .cons ht h⟩
    | some sign =>
      have hterm := takeTerm?_alike sign h
      dsimp only [Option.bind]
      generalize takeTerm? sign ts = x? at hterm
      generalize takeTerm? sign us = y? at hterm
      cases hterm with
      | none => exact .last (Nat.le_refl _) ⟨_, rfl, .cons ht h⟩
      | some h' hlt => exact .more h' (Nat.lt_succ_of_lt hlt)

theorem moreTerms_alike (h : Alike closed ts us) :
    ∃ terms ts' us', moreTerms ts.length ts = (terms, ts') ∧
      moreTerms us.length us = (terms, us') ∧ Alike closed ts' us' ∧ ts'.length ≤ ts.length := by
  cases hts : moreTerms ts.length ts with
  | mk terms ts' =>
    obtain ⟨hle, us', hus, h'⟩ := unrolls_moreTerms.alike unrolls_moreTerms
      (fun terms _ _ _ h => termRound_alike terms h _) h (Nat.le_refl _) (Nat.le_refl _)
      (by rw [hts, prepended_nil])
    rw [prepended_nil] at hus
    exact ⟨terms, ts', us', rfl, Except.ok.inj hus, h', hle⟩

theorem takeUnits?_alike (h : Alike closed ts us) :
    Both closed ts.length (takeUnits? ts) (takeUnits? us) := by
  have hterm := takeTerm?_alike 1 h
  unfold takeUnits?
  generalize takeTerm? 1 ts = x? at hterm
  generalize takeTerm? 1 us = y? at hterm
  cases hterm with
  | none => exact .none
  | @some term ts' us' h' hlt =>
    obtain ⟨terms, ts'', us'', hts, hus, h'', hle⟩ :=
      moreTerms_alike h'
    dsimp only
    rw [hts, hus]
    exact .some h'' (Nat.lt_of_le_of_lt hle hlt)

/-- A conversion right behind a number with units.  Lists that are alike differ
in it only if it ends the source. -/
theorem conversionAhead?_alike (h : Alike closed ts us) :
    Both closed ts.length (conversionAhead? ts) (conversionAhead? us) ∨
      ∃ units us', closed = true ∧ lastConversion? ts = some units ∧ conversionAhead? ts = none ∧
        conversionAhead? us = some (units, us') ∧ ∃ last, Alike closed [last] us' := by
  cases h with
  | nil => exact .inl .none
  | ends _ hlast hparen =>
    simp only [conversionAhead?, hlast, hparen, isConversion, Bool.false_and, Bool.false_eq_true,
      if_false]
    exact .inl .none
  | @cons t ts us ht h =>
    have hunits := takeUnits?_alike h
    simp only [conversionAhead?, lastConversion?, kindOf?_head_alike h]
    cases isConversion t.token && (ts.head?.bind kindOf?).isNone with
    | false => exact .inl .none
    | true =>
      simp only [if_true]
      generalize takeUnits? ts = x? at hunits
      generalize takeUnits? us = y? at hunits
      cases hunits with
      | none => exact .inl .none
      | @some units ts' us' h' hlt =>
        cases h' with
        | nil => exact .inl .none
        | @ends last paren final hclosed hlast hparen hfinal =>
          refine .inr ⟨units, [paren, final], hclosed, ?_, ?_, ?_, last, ?_⟩
          · simp only [hlast, if_true]
          · simp only [hlast, if_true]
          · simp [hparen]
          · exact .ends hclosed hlast hparen hfinal
        | @cons t' ts' us' ht' h' =>
          refine .inl ?_
          by_cases hfinish : t'.token = .finish
          · simp only [hfinish, if_true]
            exact .none
          · simp only [hfinish, if_false]
            exact .some (.cons ht' h') (Nat.lt_succ_of_lt hlt)

theorem aggregateTarget?_alike (h : Alike closed ts us) :
    Both closed ts.length (aggregateTarget? ts) (aggregateTarget? us) := by
  cases h with
  | nil => exact .none
  | @ends last paren final _ hlast hparen =>
    obtain ⟨_, _⟩ := last
    obtain ⟨_, _⟩ := paren
    cases hlast
    cases hparen
    exact .none
  | @cons t ts us _ h =>
    have hunits := (takeUnits?_alike h).mono (Nat.le_succ _)
    obtain ⟨token, offset⟩ := t
    cases token with
    | keyword k => cases k with
      | in_ | to_ => exact hunits
      | _ => exact .none
    | _ => exact .none

/-! ## Readers -/

/-- What `read` takes from a list, `read'` takes from any that is like it. -/
def Imitates {α : Type} (read read' : Reader α) : Prop :=
  ∀ ⦃closed : Bool⦄ ⦃ts us ts' : List Placed⦄ ⦃x : α⦄, Alike closed ts us →
    read ts = .ok (x, ts') →
    ∃ us', read' us = .ok (x, us') ∧ Alike closed ts' us' ∧ ts'.length < ts.length

theorem expect_alike {m : Mark} {wanted : String} {ts' : List Placed} (h : Alike closed ts us)
    (hread : expect m wanted ts = .ok ts') :
    ∃ us', expect m wanted us = .ok us' ∧ Alike closed ts' us' ∧ ts'.length < ts.length := by
  cases h with
  | nil => cases hread
  | ends _ hlast =>
    simp only [expect, hlast] at hread
    cases hread
  | @cons t ts us _ h =>
    unfold expect at hread ⊢
    dsimp only at hread ⊢
    split at hread
    · rename_i ht
      cases hread
      exact ⟨us, if_pos ht, h, Nat.lt_succ_self _⟩
    · cases hread

theorem eat?_of_alike {m : Mark} {ts' : List Placed} (h : Alike closed ts us)
    (heat : eat? m ts = some ts') :
    ∃ us', eat? m us = some us' ∧ Alike closed ts' us' ∧ ts'.length < ts.length := by
  obtain ⟨offset, rfl⟩ := eat?_eq_some heat
  cases h with
  | ends _ hlast => cases hlast
  | cons _ h => exact ⟨_, if_pos rfl, h, Nat.lt_succ_self _⟩

/-- The second list does not end early: where the first one ends, nothing can be
taken that leaves lists that are alike. -/
theorem eat?_eq_none_of_alike {m : Mark} {ts' us' : List Placed} (h : Alike closed ts us)
    (heat : eat? m ts = none) (h' : Alike closed ts' us') (hlt : ts'.length < ts.length) :
    eat? m us = none := by
  cases h with
  | nil => rfl
  | ends hclosed =>
    obtain rfl := List.length_eq_zero_iff.1 (Nat.lt_one_iff.1 hlt)
    cases h' with
    | nil hopen => exact absurd (hclosed.symm.trans hopen) (by decide)
  | @cons t ts us _ _ =>
    by_cases ht : t.token = .mark m
    · exact absurd (heat.symm.trans (if_pos ht)) (by simp)
    · exact if_neg ht

theorem itemRound_alike {α : Type} {item item' : Reader α} (hitem : Imitates item item')
    {closing : Mark} (h : Alike closed ts us) (xs : List α)
    (loop : List α → List Placed → Checked (List α × List Placed)) :
    RoundAlike closed ts.length
      (fun all ts' r => ts'.length < ts.length ∧ Same closed all ts' (r.go loop))
      (itemRound item closing xs ts) (itemRound item' closing xs us) := by
  unfold itemRound
  cases heat : eat? closing ts with
  | some rest =>
    obtain ⟨us', heat', h', hlt⟩ := eat?_of_alike h heat
    rw [heat']
    exact .last (Nat.le_of_lt hlt) ⟨hlt, us', rfl, h'⟩
  | none =>
    dsimp only
    cases hfirst : item ts with
    | error e => exact .failed
    | ok p =>
      obtain ⟨x, rest⟩ := p
      obtain ⟨us', hfirst', h', hlt⟩ := hitem h hfirst
      rw [eat?_eq_none_of_alike h heat h' hlt, hfirst']
      dsimp only [Round.after]
      cases h' with
      | nil => exact .failed
      | ends _ hlast =>
        simp only [hlast, reduceCtorEq, if_true, if_false]
        exact .failed
      | cons _ h' =>
        simp only [List.length_cons] at hlt
        dsimp only
        split
        · exact .more h' (by omega)
        · split
          · exact .last (by omega) ⟨by omega, _, rfl, h'⟩
          · split
            · exact .failed
            · exact .failed

/-- Items with commas between them. -/
theorem itemsUntil_alike {α : Type} {item item' : Reader α} (hitem : Imitates item item')
    {closing : Mark} {rounds rounds' : Nat} {xs all : List α} {ts' : List Placed}
    (h : Alike closed ts us) (hrounds : rounds ≤ rounds')
    (hread : prepended xs (itemsUntil item closing rounds ts) = .ok (all, ts')) :
    ts'.length < ts.length ∧
      Same closed all ts' (prepended xs (itemsUntil item' closing rounds' us)) := by
  induction rounds generalizing rounds' ts us xs with
  | zero => cases hread
  | succ rounds ih =>
    obtain ⟨n, rfl⟩ : ∃ n, rounds' = n + 1 := ⟨rounds' - 1, by omega⟩
    have hboth : RoundAlike closed ts.length _ (itemRound item closing xs ts) _ :=
      itemRound_alike hitem h xs fun xs ts => prepended xs (itemsUntil item' closing n ts)
    rw [itemsUntil_succ] at hread ⊢
    generalize itemRound item closing xs ts = r at hboth hread
    generalize itemRound item' closing xs us = r' at hboth
    cases hboth with
    | more h₁ hlt =>
      obtain ⟨hlt₁, hsame⟩ := ih h₁ (Nat.le_of_succ_le_succ hrounds) hread
      exact ⟨Nat.lt_trans hlt₁ hlt, hsame⟩
    | last _ hends =>
      cases hread
      exact hends
    | failed => cases hread

theorem Imitates.items {α : Type} {item item' : Reader α} (hitem : Imitates item item')
    (closing : Mark) : Imitates (items item closing) (items item' closing) := by
  intro closed ts us ts' xs h hread
  have hlength := h.length_eq
  obtain ⟨hlt, us', hread', h'⟩ :=
    itemsUntil_alike hitem h (by omega : ts.length + 1 ≤ us.length + 1)
      ((prepended_nil _).trans hread)
  exact ⟨us', (prepended_nil _).symm.trans hread', h', hlt⟩

/-! ## Functions and definitions -/

theorem imitates_parameter : Imitates parameter parameter := by
  intro closed ts us ts' x h hread
  cases h with
  | nil => cases hread
  | ends _ hlast =>
    simp only [parameter, hlast, Token.bindingName?] at hread
    cases hread
  | @cons t ts us _ h =>
    unfold parameter at hread ⊢
    dsimp only at hread ⊢
    cases hname : t.token.bindingName? with
    | none =>
      rw [hname] at hread
      cases hread
    | some name =>
      rw [hname] at hread
      cases hread
      exact ⟨us, rfl, h, Nat.lt_succ_self _⟩

/-- A round of parameters in the first of two lists, and what one in the second
comes to: the same, or its parameters end at the closing parenthesis, behind which
nothing is left but the final token, or it fails. -/
inductive ParameterRounds (closed : Bool) (size : Nat) (r : Round (List String) (List String)) :
    Round (List String) (List String) → Prop where
  | more {params : List String} {ts us : List Placed} (hr : r = .more params ts)
      (h : Alike closed ts us) (hlt : ts.length < size) :
      ParameterRounds closed size r (.more params us)
  | last {params : List String} {ts us : List Placed} (hr : r = .last (.ok (params, ts))) :
      ParameterRounds closed size r (.last (.ok (params, us)))
  | ends {params : List String} {final : Placed} (hfinal : final.token = .finish) :
      ParameterRounds closed size r (.last (.ok (params, [final])))
  | failed {e : Error} : ParameterRounds closed size r (.last (.error e))

theorem parameterRound_alike (h : Alike closed ts us) (params : List String) :
    ParameterRounds closed ts.length (itemRound parameter .rightParen params ts)
      (itemRound parameter .rightParen params us) := by
  cases h with
  | nil => exact .failed
  | @ends last paren final _ _ hparen hfinal =>
    simp only [itemRound, eat?, hparen, if_true]
    exact .ends hfinal
  | @cons t ts us _ h =>
    unfold itemRound
    by_cases hclose : t.token = .mark .rightParen
    · simp only [eat?, hclose, if_true]
      exact .last rfl
    · simp only [eat?, hclose, if_false, parameter]
      cases t.token.bindingName? with
      | none => exact .failed
      | some name =>
        dsimp only [Round.after]
        cases h with
        | nil => exact .failed
        | @ends last paren final _ _ hparen hfinal =>
          simp only [hparen, reduceCtorEq, if_true, if_false, Token.mark.injEq]
          exact .ends hfinal
        | @cons u ts us _ h =>
          dsimp only
          split
          · exact .more rfl h (by simp only [List.length_cons]; omega)
          · split
            · exact .last rfl
            · split
              · exact .failed
              · exact .failed

theorem parametersUntil_alike {rounds rounds' : Nat} {xs params : List String} {us' : List Placed}
    (h : Alike closed ts us) (hts : ts.length < rounds)
    (hread : prepended xs (itemsUntil parameter .rightParen rounds' us) = .ok (params, us')) :
    (∃ ts', prepended xs (itemsUntil parameter .rightParen rounds ts) = .ok (params, ts')) ∨
      ∃ final, us' = [final] ∧ final.token = .finish := by
  induction rounds' generalizing rounds ts us xs with
  | zero => cases hread
  | succ rounds' ih =>
    obtain ⟨n, rfl⟩ : ∃ n, rounds = n + 1 := ⟨rounds - 1, by omega⟩
    have hboth := parameterRound_alike h xs
    rw [itemsUntil_succ] at hread ⊢
    generalize itemRound parameter .rightParen xs us = r' at hboth hread
    cases hboth with
    | more hr h₁ hlt =>
      rw [hr]
      exact ih h₁ (by omega) hread
    | last hr =>
      cases hread
      rw [hr]
      exact .inl ⟨_, rfl⟩
    | ends hfinal =>
      cases hread
      exact .inr ⟨_, rfl, hfinal⟩
    | failed => cases hread

/-- Parameters of the second list are parameters of the first one, or end at the parenthesis that
only the second one has. -/
theorem parameters_alike {params : List String} {us' : List Placed} (h : Alike closed ts us)
    (hread : parameters us = .ok (params, us')) :
    (∃ ts', parameters ts = .ok (params, ts')) ∨ ∃ final, us' = [final] ∧ final.token = .finish := by
  have hread' := parametersUntil_alike h (Nat.lt_succ_self _) ((prepended_nil _).trans hread)
  rwa [prepended_nil] at hread'

/-- Parameters and the mark behind them. -/
theorem parameters_eat?_alike {m : Mark} (hm : m ≠ .rightParen) (h : Alike closed ts us) :
    (∃ params ts' us' ts'' us'', parameters ts = .ok (params, ts') ∧ eat? m ts' = some ts'' ∧
      parameters us = .ok (params, us') ∧ eat? m us' = some us'' ∧ Alike closed ts'' us'' ∧
      ts''.length < ts.length) ∨
    (∀ params ts', parameters ts = .ok (params, ts') → eat? m ts' = none) ∧
      ∀ params us', parameters us = .ok (params, us') → eat? m us' = none := by
  cases hts : parameters ts with
  | ok p =>
    obtain ⟨params, ts'⟩ := p
    obtain ⟨us', hus, h', hlt⟩ := imitates_parameter.items .rightParen h hts
    rcases eat?_alike h' hm with ⟨h₁, h₂⟩ | ⟨ts'', us'', h₁, h₂, h'', hlt'⟩
    · refine .inr ⟨?_, ?_⟩
      · intro params ts' h
        cases h
        exact h₁
      · intro params us' h
        cases hus.symm.trans h
        exact h₂
    · exact .inl ⟨params, ts', us', ts'', us'', rfl, h₁, hus, h₂, h'', by omega⟩
  | error e =>
    refine .inr ⟨fun params ts' h => (by cases h), fun params us' hus => ?_⟩
    rcases parameters_alike h hus with ⟨ts', hts'⟩ | ⟨final, rfl, hfinal⟩
    · cases hts.symm.trans hts'
    · exact if_neg (by rw [hfinal]; exact Token.noConfusion)

/-- A function starts in either of two lists that are alike or in none. -/
theorem lambdaAhead_alike (h : Alike closed ts us) : lambdaAhead us = lambdaAhead ts := by
  cases h with
  | nil => rfl
  | ends _ hlast hparen => simp [lambdaAhead, hlast, hparen, Token.bindingName?]
  | @cons t ts us _ h =>
    unfold lambdaAhead
    dsimp only
    split
    · rcases eat?_alike h (m := .arrow) (by decide) with ⟨h₁, h₂⟩ | ⟨_, _, h₁, h₂, -, -⟩
      · rw [h₁, h₂]
      · rw [h₁, h₂]
        rfl
    · split
      · rcases parameters_eat?_alike (m := .arrow) (by decide) h with
          ⟨params, ts', us', ts'', us'', h₁, h₂, h₃, h₄, -, -⟩ | ⟨h₁, h₂⟩
        · simp only [h₁, h₂, h₃, h₄, Option.isSome_some]
        · cases hts : parameters ts with
          | ok p =>
            cases hus : parameters us with
            | ok q => simp only [h₁ _ _ hts, h₂ _ _ hus]
            | error _ => simp only [h₁ _ _ hts, Option.isSome_none]
          | error _ =>
            cases hus : parameters us with
            | ok q => simp only [h₂ _ _ hus, Option.isSome_none]
            | error _ => rfl
      · rfl

/-- A definition starts in either of two lists that are alike or in none. -/
theorem definitionHead?_alike (h : Alike closed ts us) :
    (definitionHead? ts = none ∧ definitionHead? us = none) ∨
      ∃ name params ts' us', definitionHead? ts = some (name, params, ts') ∧
        definitionHead? us = some (name, params, us') ∧ Alike closed ts' us' ∧
        ts'.length < ts.length := by
  cases h with
  | nil => exact .inl ⟨rfl, rfl⟩
  | ends _ hlast hparen =>
    simp [definitionHead?, hlast, hparen, Token.bindingName?]
  | @cons t ts us _ h =>
    unfold definitionHead?
    dsimp only
    cases t.token.bindingName? with
    | none => exact .inl ⟨rfl, rfl⟩
    | some name =>
      rcases eat?_alike h (m := .leftParen) (by decide) with ⟨h₁, h₂⟩ | ⟨vs, ws, h₁, h₂, h', hlt⟩
      · simp only [h₁, h₂, true_and, true_or]
      · simp only [h₁, h₂]
        rcases parameters_eat?_alike (m := .equals) (by decide) h' with
          ⟨params, ts', us', ts'', us'', h₁, h₂, h₃, h₄, h'', hlt'⟩ | ⟨h₁, h₂⟩
        · refine .inr ⟨name, params, ts'', us'', ?_, ?_, h'', ?_⟩
          · simp only [h₁, h₂, Option.map_some]
          · simp only [h₃, h₄, Option.map_some]
          · simp only [List.length_cons]
            omega
        · refine .inl ⟨?_, ?_⟩
          · split
            · rename_i hts
              rw [h₁ _ _ hts, Option.map_none]
            · rfl
          · split
            · rename_i hus
              rw [h₂ _ _ hus, Option.map_none]
            · rfl

end

end Grammar

end Reckoner
