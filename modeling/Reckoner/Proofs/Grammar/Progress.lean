import Reckoner.Proofs.Grammar.Depth
import Reckoner.Proofs.Grammar.Grounded

/-!
# Readers go forward and name what they stop at

A reader that succeeds takes tokens from the front of its list, and never the final one.
So tokens never run out in a list that has a final one, and where a reader fails, it fails
at a token that it was given, or at one in a string among them.

* `Grammar.Takes`: some tokens are taken, at least a given number, and none of them is the
  final one.
* `Grammar.Blames`: an error is at a token; if it says that the source ends early, at a
  final one.
* `Expr.Sited`: every node of an expression is at a token.
* `Grammar.Traces`: what a reader makes of a list of tokens.  Only errors need the final
  token, and a depth that is enough.
* `Grammar.Traced`: a reader that takes a token at least.  One lemma for each reader, up to
  `traced_expression`.
* `Grammar.RoundTraces`: what a round of a loop makes of a list of tokens, and
  `Grammar.Unrolls.traces`: a loop does what its rounds do.
-/

namespace Reckoner

/-! ## Tokens at which something stands -/

section

variable (M : Placed → Prop)

/-- A token with `M` starts here. -/
def Placed.At (offset : Nat) : Prop := ∃ t, M t ∧ t.offset = offset

/-- Every node of an expression stands at a token with `M`. -/
abbrev Expr.Sited (e : Expr) : Prop := e.Every fun n => Placed.At M n.offset

/-- The code in a token with `M` is read as tokens with `M`. -/
def Placed.Closed : Prop :=
  ∀ t, M t → ∀ quote segments, t.token = .string quote segments → ∀ source offset,
    .code source offset ∈ segments → ∀ u ∈ Grammar.tokensAt source offset, M u

end

namespace Grammar

section

variable (M : Placed → Prop)

/-- An error is at a token with `M`; that a source ends early, at the end. -/
def Blames (e : Error) : Prop :=
  ∃ t, M t ∧ t.offset = e.offset ∧ (e.cause = .unexpectedEnd → t.token = .finish)

end

/-- A list of tokens with a final one. -/
def Ended (ts : List Placed) : Prop := ∃ t ∈ ts, t.token = .finish

/-- At least `k` tokens are taken from the front, none of them the final one. -/
def Takes (k : Nat) (ts rest : List Placed) : Prop :=
  ∃ front, ts = front ++ rest ∧ k ≤ front.length ∧ ∀ t ∈ front, t.token ≠ .finish

section

variable {k l : Nat} {ts us rest : List Placed} {t : Placed}

theorem takes_refl (ts : List Placed) : Takes 0 ts ts := ⟨[], rfl, Nat.zero_le _, by simp⟩

theorem Takes.cons (ht : t.token ≠ .finish) (h : Takes k ts rest) : Takes (k + 1) (t :: ts) rest := by
  obtain ⟨front, rfl, hlength, hfront⟩ := h
  exact ⟨t :: front, rfl, Nat.succ_le_succ hlength, List.forall_mem_cons.2 ⟨ht, hfront⟩⟩

theorem takes_one (ht : t.token ≠ .finish) : Takes 1 (t :: ts) ts := (takes_refl ts).cons ht

theorem Takes.mono (h : Takes k ts rest) (hle : l ≤ k) : Takes l ts rest := by
  obtain ⟨front, heq, hlength, hfront⟩ := h
  exact ⟨front, heq, hle.trans hlength, hfront⟩

theorem Takes.trans (h : Takes k ts us) (h' : Takes l us rest) : Takes (k + l) ts rest := by
  obtain ⟨front, rfl, hlength, hfront⟩ := h
  obtain ⟨front', rfl, hlength', hfront'⟩ := h'
  refine ⟨front ++ front', (List.append_assoc _ _ _).symm, ?_, ?_⟩
  · rw [List.length_append]
    exact Nat.add_le_add hlength hlength'
  · exact List.forall_mem_append.2 ⟨hfront, hfront'⟩

theorem Takes.suffix (h : Takes k ts rest) : rest <:+ ts := by
  obtain ⟨front, rfl, -, -⟩ := h
  exact List.suffix_append _ _

theorem Takes.length_le (h : Takes k ts rest) : rest.length + k ≤ ts.length := by
  obtain ⟨front, rfl, hlength, -⟩ := h
  rw [List.length_append]
  omega

theorem Takes.depthBound_le (h : Takes k ts rest) : depthBound rest + k ≤ depthBound ts := by
  obtain ⟨front, rfl, hlength, -⟩ := h
  have hfront := length_lt_depthBound front
  rw [depthBound_eq] at hfront ⊢
  rw [depthBound_eq, depthOf_append]
  omega

/-- The final token is still to come. -/
theorem Takes.ended (h : Takes k ts rest) (hts : Ended ts) : Ended rest := by
  obtain ⟨front, rfl, -, hfront⟩ := h
  obtain ⟨t, ht, hfinish⟩ := hts
  rcases List.mem_append.1 ht with ht | ht
  · exact absurd hfinish (hfront t ht)
  · exact ⟨t, ht, hfinish⟩

theorem not_ended_nil : ¬ Ended [] := by simp [Ended]

theorem takes_of_eat? {m : Mark} (h : eat? m ts = some rest) : Takes 1 ts rest := by
  obtain ⟨offset, rfl⟩ := eat?_eq_some h
  exact takes_one (by simp)

end

/-! ## Results -/

/-- Something with `P`, or an error with `Q`. -/
inductive Settles {α : Type} (P : α → Prop) (Q : Error → Prop) : Checked α → Prop where
  | ok {x : α} (h : P x) : Settles P Q (.ok x)
  | error {e : Error} (h : Q e) : Settles P Q (.error e)

section

variable {α β : Type} {P : α → Prop} {P' : β → Prop} {Q : Error → Prop}

theorem Settles.bind {c : Checked α} {f : α → Checked β} (hc : Settles P Q c)
    (hf : ∀ x, P x → Settles P' Q (f x)) : Settles P' Q (c >>= f) := by
  cases hc with
  | ok h => exact hf _ h
  | error h => exact .error h

theorem Settles.imp {R : α → Prop} {Q' : Error → Prop} {c : Checked α} (hc : Settles P Q c)
    (hok : ∀ x, P x → R x) (herror : ∀ e, Q e → Q' e) : Settles R Q' c := by
  cases hc with
  | ok h => exact .ok (hok _ h)
  | error h => exact .error (herror _ h)

theorem settles_mapM {f : α → Checked β} {xs : List α} (hf : ∀ x ∈ xs, Settles P' Q (f x)) :
    Settles (fun ys => ∀ y ∈ ys, P' y) Q (xs.mapM f) := by
  induction xs with
  | nil => exact .ok (by simp)
  | cons x xs ih =>
    rw [List.mapM_cons]
    refine (hf x List.mem_cons_self).bind fun y hy => ?_
    refine (ih fun x' hx' => hf x' (List.mem_cons_of_mem _ hx')).bind fun ys hys => .ok ?_
    exact List.forall_mem_cons.2 ⟨hy, hys⟩

end

/-- What is read from tokens with `M`: something with `P`, and at least `k` tokens are
taken; or an error that is at a token with `M`, if there is a final token and a depth of `n`
is enough. -/
def Traces {α : Type} (M : Placed → Prop) (n k : Nat) (P : α → Prop) (ts : List Placed)
    (c : Checked (α × List Placed)) : Prop :=
  (∀ t ∈ ts, M t) →
    Settles (fun p => P p.1 ∧ Takes k ts p.2) (fun e => Ended ts → depthBound ts ≤ n → Blames M e) c

/-- A reader that takes a token at least. -/
def Traced {α : Type} (M : Placed → Prop) (n : Nat) (P : α → Prop) (reader : Reader α) : Prop :=
  ∀ ts, Traces M n 1 P ts (reader ts)

section

variable {α β : Type} {M : Placed → Prop} {n m j k l : Nat} {P : α → Prop} {P' : β → Prop}
  {ts us rest : List Placed} {t : Placed}

/-! ## How results are put together -/

theorem traces_ok {x : α} (h : P x) (hrest : Takes k ts rest) :
    Traces M n k P ts (.ok (x, rest)) := fun _ => .ok ⟨h, hrest⟩

/-- What is read of tokens and takes none of them. -/
theorem traces_here {x : α} (h : P x) : Traces M n 0 P ts (.ok (x, ts)) :=
  traces_ok h (takes_refl ts)

theorem traces_error {e : Error} (h : Blames M e) : Traces M n k P ts (.error e) :=
  fun _ => .error fun _ _ => h

/-- An error at a token at hand. -/
theorem traces_failAt {cause : Cause} (ht : t ∈ ts)
    (hcause : cause = .unexpectedEnd → t.token = .finish) :
    Traces M n k P ts (failAt t.offset cause) :=
  fun hts => .error fun _ _ => ⟨t, hts t ht, rfl, hcause⟩

/-- No list with a final token is empty. -/
theorem traces_nil {e : Error} : Traces M n k P [] (.error e) :=
  fun _ => .error fun hended => absurd hended not_ended_nil

theorem Traces.imp {R : α → Prop} {c : Checked (α × List Placed)} (hc : Traces M n k P ts c)
    (h : ∀ x, P x → R x) : Traces M n k R ts c :=
  fun hts => (hc hts).imp (fun p hp => ⟨h p.1 hp.1, hp.2⟩) fun _ he => he

/-- A result that is read behind tokens taken before. -/
theorem Traces.after {c : Checked (α × List Placed)} (hc : Traces M m k P us c)
    (hus : Takes l ts us) (hn : n ≤ m + l) (hj : j ≤ l + k) :
    Traces M n j P ts c := by
  intro hts
  refine (hc fun t ht => hts t (hus.suffix.subset ht)).imp
    (fun p hp => ⟨hp.1, (hus.trans hp.2).mono hj⟩) fun e he hended hdepth => ?_
  have hle := hus.depthBound_le
  exact he (hus.ended hended) (by omega)

/-- A result that is read behind one token. -/
theorem Traces.behind {c : Checked (α × List Placed)} (hc : Traces M m k P ts c)
    (ht : t.token ≠ .finish) (hn : n ≤ m + 1) (hj : j ≤ 1 + k) : Traces M n j P (t :: ts) c :=
  hc.after (takes_one ht) hn hj

/-- What follows something that has been read. -/
theorem Traces.bind {c : Checked (α × List Placed)} {f : α × List Placed → Checked (β × List Placed)}
    (hc : Traces M n k P ts c) (hn : n ≤ m + k) (hj : j ≤ k + l)
    (hf : ∀ x rest, P x → Traces M m l P' rest (f (x, rest))) : Traces M n j P' ts (c >>= f) := by
  intro hts
  cases hc hts with
  | ok h => exact (hf _ _ h.1).after h.2 hn hj hts
  | error h => exact .error h

theorem traces_expect_bind {mark : Mark} {wanted : String}
    {f : List Placed → Checked (β × List Placed)}
    (hn : n ≤ m + 1) (hj : j ≤ 1 + l) (hf : ∀ rest, Traces M m l P' rest (f rest)) :
    Traces M n j P' ts (expect mark wanted ts >>= f) := by
  cases ts with
  | nil => exact traces_nil
  | cons t ts =>
    unfold expect
    dsimp only
    split
    · rename_i htoken
      exact (hf ts).behind (by rw [htoken]; simp) hn hj
    · exact traces_failAt List.mem_cons_self (by simp)

theorem Traced.nil {reader : Reader α} (h : Traced M n P reader) : ∃ e, reader [] = .error e := by
  have hread := h [] fun t ht => by cases ht
  cases heq : reader [] with
  | error e => exact ⟨e, rfl⟩
  | ok p =>
    rw [heq] at hread
    cases hread with
    | ok hp => exact absurd hp.2.length_le (by simp)

theorem Traced.before {reader : Reader α} (h : Traced M n P reader) (m : Mark) (wanted : String) :
    Traced M n P (before reader m wanted) :=
  fun ts => (h ts).bind (m := n) (l := 0) (by omega) (by omega) fun _ _ hx =>
    traces_expect_bind (m := n) (l := 0) (by omega) (by omega) fun _ => traces_here hx

/-! ## Rounds -/

/-- What a round of a loop makes of tokens with `M`: it takes a token at least and goes on
with something with `P`; or it ends the loop, with what `Traces` says. -/
def RoundTraces {σ β : Type} (M : Placed → Prop) (n k : Nat) (P : σ → Prop) (P' : β → Prop)
    (ts : List Placed) (r : Round σ β) : Prop :=
  (∀ t ∈ ts, M t) →
    match r with
    | .more x rest => P x ∧ Takes 1 ts rest
    | .last c => Traces M n k P' ts c

section

variable {σ : Type} {R : σ → Prop}

theorem Traces.last {c : Checked (β × List Placed)} (h : Traces M n k P' ts c) :
    RoundTraces M n k R P' ts (.last c) := fun _ => h

theorem roundTraces_more {x : σ} (hx : R x) (h : Takes 1 ts rest) :
    RoundTraces M n k R P' ts (.more x rest) := fun _ => ⟨hx, h⟩

theorem roundTraces_of_forall {r : Round σ β}
    (h : (∀ t ∈ ts, M t) → RoundTraces M n k R P' ts r) : RoundTraces M n k R P' ts r :=
  fun hts => h hts hts

/-- A round that starts with something to be read behind tokens taken before. -/
theorem RoundTraces.after {c : Checked (α × List Placed)} {f : α → List Placed → Round σ β}
    (hc : Traces M m j P us c) (hus : Takes l ts us) (hn : n ≤ m + l)
    (hf : ∀ x rest, P x → Takes (l + j) ts rest → RoundTraces M n k R P' ts (f x rest)) :
    RoundTraces M n k R P' ts (.after c f) := by
  intro hts
  have hread := hc.after hus hn (Nat.le_refl (l + j)) hts
  cases hread with
  | ok h => exact hf _ _ h.1 h.2 hts
  | error h => exact fun _ => .error h

/-- A loop does what its rounds do, one after the other. -/
theorem Unrolls.traces {round : σ → List Placed → Round σ β}
    {loop : Nat → σ → List Placed → Checked (β × List Placed)} (hloop : Unrolls round loop)
    (hround : ∀ x ts, R x → RoundTraces M n k R P' ts (round x ts)) {rounds : Nat} {x : σ}
    (hx : R x) (hrounds : ts.length ≤ rounds) : Traces M n k P' ts (loop rounds x ts) := by
  induction hlength : ts.length using Nat.strongRecOn generalizing rounds x ts with
  | _ length ih =>
    intro hts
    have hfirst := hround x ts hx hts
    rw [hloop.eq_go x hrounds]
    generalize round x ts = r at hfirst
    cases r with
    | last c => exact hfirst hts
    | more y rest =>
      obtain ⟨hy, hrest⟩ := hfirst
      have hle := hrest.length_le
      have hmore := ih rest.length (by omega) hy (by omega : rest.length ≤ rounds - 1) rfl
      exact hmore.after hrest (Nat.le_succ n) (Nat.le_add_left k 1) hts

end

/-! ## Lists -/

/-- A round takes an item and the mark behind it. -/
theorem roundTraces_item {item : Reader α} (hitem : Traced M n P item) (closing : Mark)
    {xs : List α} (hxs : ∀ x ∈ xs, P x) :
    RoundTraces M n 1 (fun xs => ∀ x ∈ xs, P x) (fun xs => ∀ x ∈ xs, P x) ts
      (itemRound item closing xs ts) := by
  unfold itemRound
  split
  · rename_i hclosing
    exact (traces_ok hxs (takes_of_eat? hclosing)).last
  · refine RoundTraces.after (hitem ts) (takes_refl ts) (Nat.le_refl n) fun x rest hx hrest => ?_
    have hall : ∀ y ∈ xs ++ [x], P y :=
      List.forall_mem_append.2 ⟨hxs, List.forall_mem_singleton.2 hx⟩
    cases rest with
    | nil => exact fun _ _ => .error fun hended => absurd (hrest.ended hended) not_ended_nil
    | cons t rest =>
      have ht : t ∈ ts := hrest.suffix.subset List.mem_cons_self
      -- The mark behind the item is taken with it.
      have hmark {m : Mark} (hm : t.token = .mark m) : Takes 1 ts rest :=
        (hrest.trans (takes_one (by simp [hm]))).mono (Nat.le_add_left 1 1)
      dsimp only
      split
      · rename_i hcomma
        exact roundTraces_more hall (hmark hcomma)
      · split
        · rename_i hclosing
          exact (traces_ok hall (hmark hclosing)).last
        · split
          · rename_i hfinish
            exact (traces_failAt ht fun _ => hfinish).last
          · exact (traces_failAt ht (by simp)).last

theorem traced_items {item : Reader α} (hitem : Traced M n P item) (closing : Mark) :
    Traced M n (fun xs => ∀ x ∈ xs, P x) (items item closing) := by
  intro ts
  have hunrolls : Unrolls (itemRound item closing) _ := unrolls_items hitem.nil
  have hloop := hunrolls.traces (fun _ _ hxs => roundTraces_item hitem closing hxs)
    (List.forall_mem_nil P) (Nat.le_refl ts.length)
  rwa [prepended_nil] at hloop

theorem traced_parameter : Traced M n (fun _ => True) parameter := by
  intro ts
  unfold parameter
  split
  · split
    · rename_i hname
      exact traces_ok trivial (takes_one fun h => by rw [h] at hname; cases hname)
    · exact traces_failAt List.mem_cons_self (by simp)
  · exact traces_nil

theorem traced_parameters : Traced M n (fun _ => True) parameters :=
  fun ts => (traced_items traced_parameter .rightParen ts).imp fun _ _ => trivial

end

/-! ## Units behind numbers -/

section

variable {ts rest : List Placed}

theorem takes_of_takeUnit? {name : String} (h : takeUnit? ts = some (name, rest)) :
    Takes 1 ts rest := by
  unfold takeUnit? at h
  split at h
  · split at h
    · rename_i hname
      split at h
      · cases h
      · cases h
        exact takes_one fun hfinish => by rw [hfinish] at hname; cases hname
    · cases h
  · cases h

theorem takes_of_takePower? {power : Int} (h : takePower? ts = some (power, rest)) :
    Takes 1 ts rest := by
  unfold takePower? at h
  cases hcaret : eat? .caret ts with
  | none => simp [hcaret] at h
  | some us =>
    have hus := takes_of_eat? hcaret
    -- The number, behind what was taken before.
    have hnumber {k : Nat} {ws : List Placed} {text : String} {offset : Nat} (hws : Takes k us ws)
        (heq : ws = ⟨.number text, offset⟩ :: rest) : Takes 1 ts rest := by
      subst heq
      exact ((hus.trans hws).trans (takes_one (by simp))).mono (by omega)
    rw [hcaret] at h
    cases hminus : eat? .minus us with
    | none =>
      simp only [hminus] at h
      split at h
      · split at h
        · cases h
          exact hnumber (takes_refl _) rfl
        · cases h
      · cases h
    | some ws =>
      simp only [hminus] at h
      split at h
      · split at h
        · cases h
          exact hnumber (takes_of_eat? hminus) rfl
        · cases h
      · cases h

theorem takes_of_takeTerm? {sign : Int} {term : UnitTerm}
    (h : takeTerm? sign ts = some (term, rest)) : Takes 1 ts rest := by
  unfold takeTerm? at h
  split at h
  · rename_i hunit
    split at h
    · rename_i hpower
      cases h
      exact ((takes_of_takeUnit? hunit).trans (takes_of_takePower? hpower)).mono (Nat.le_succ 1)
    · cases h
      exact takes_of_takeUnit? hunit
  · cases h

theorem roundTraces_term (terms : List UnitTerm) :
    RoundTraces (fun _ => True) 0 0 (fun _ => True) (fun _ => True) ts (termRound terms ts) := by
  fun_cases termRound terms ts with
  | case2 t rest term rest' hterm =>
    obtain ⟨sign, hsign, hterm⟩ := Option.bind_eq_some_iff.1 hterm
    have ht : t.token ≠ .finish := fun hfinish => by
      rw [hfinish] at hsign
      cases hsign
    exact roundTraces_more trivial (((takes_of_takeTerm? hterm).cons ht).mono (Nat.le_succ 1))
  | _ => exact (traces_here trivial).last

theorem takes_moreTerms {rounds : Nat} (h : ts.length ≤ rounds) :
    Takes 0 ts (moreTerms rounds ts).2 := by
  have hloop := unrolls_moreTerms.traces (fun terms _ _ => roundTraces_term terms) (x := []) trivial
    h fun _ _ => trivial
  rw [prepended_nil] at hloop
  cases hloop with
  | ok h => exact h.2

theorem takes_of_takeUnits? {units : List UnitTerm} (h : takeUnits? ts = some (units, rest)) :
    Takes 1 ts rest := by
  unfold takeUnits? at h
  split at h
  · rename_i term rest' hterm
    cases h
    exact (takes_of_takeTerm? hterm).trans (takes_moreTerms (Nat.le_refl _))
  · cases h

end

end Grammar

end Reckoner
