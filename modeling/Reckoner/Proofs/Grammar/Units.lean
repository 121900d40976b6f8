import Reckoner.Proofs.Discipline.Basic
import Reckoner.Proofs.Grammar.Rounds
import Reckoner.Proofs.Token.Zones

/-!
# What sources name

Every unit and every zone that the tree of a source names stands for something:
it is written by a token, and the tokens of a source are classified by what
they stand for.

* `Placed.Known`: a token whose unit or zone exists, or whose digits can be a
  day or a time; `known_of_mem_tokenize`: the tokens of a source are known.
* `Expr.Sound`: what a node may be like.  `Expr.Grounded`: every node is so.
* `Grammar.Reads`: what a reader makes of known tokens, namely a grounded tree
  and known tokens behind it.  One lemma for each reader, from single tokens to
  `finds_expression`, and one for each round of a loop (`Grammar.RoundFinds`).
* `Expr.parse_grounded`: the tree of a source.
-/

namespace Reckoner

/-- The zone of a token exists, and its digits can be a day or a time. -/
def Token.Genuine : Token → Prop
  | .zone text => (Zone.parse? text).isSome
  | .day text => isDay text.toList = true
  | .time text => isTime text.toList = true
  | .dayTime text => ∃ front back, Text.splitOnce 'T' text.toList = (front, some back) ∧
      isDay front = true ∧ isTime back = true
  | _ => True

/-- What a token names exists. -/
structure Placed.Known (t : Placed) : Prop where
  unit : ∀ name, t.token.unitName? = some name → ∃ d, Denomination.ofName? name = some d
  genuine : t.token.Genuine

/-- What a node may be like: its units and its zone exist, a shift of a date is
a sum or a difference of a date literal and a number without units, and an
assignment adds or subtracts if it does anything else. -/
def Expr.Sound : Expr → Prop
  | .number _ units _ | .convertUnits _ units _ | .aggregate _ (some units) _ =>
    ∀ t ∈ units, t.Resolves
  | .day _ zone _ | .time _ _ zone _ | .moment _ zone _ => ∀ name ∈ zone, (Zone.parse? name).isSome
  | .dateShift date op amount _ _ => (op = .add ∨ op = .sub) ∧ date.isDateLiteral = true ∧
      ∃ value offset, amount = .number value [] offset
  | .assign _ _ compound _ => ∀ op ∈ compound, op = .add ∨ op = .sub
  | _ => True

/-- Every node of an expression is sound. -/
abbrev Expr.Grounded (e : Expr) : Prop := e.Every Expr.Sound

theorem Expr.Sound.resolves {e : Expr} (h : e.Sound) : ∀ t ∈ e.units, t.Resolves := by
  unfold Expr.units
  split
  · exact h
  · exact h
  · exact h
  · simp

/-! ## Tokens -/

namespace Token

theorem ofName?_of_find? {name : String} (h : (MeasureUnit.find? name).isSome) :
    ∃ d, Denomination.ofName? name = some d := by
  obtain ⟨u, hu⟩ := Option.isSome_iff_exists.1 h
  exact ⟨.unit u, by rw [Denomination.ofName?, hu]⟩

theorem ofName?_of_isCode {name : String} (h : Currency.isCode name = true) :
    ∃ d, Denomination.ofName? name = some d := by
  unfold Denomination.ofName?
  cases MeasureUnit.find? name with
  | some u => exact ⟨.unit u, rfl⟩
  | none => exact ⟨.currency name, by simp [h]⟩

/-- A token that names no unit. -/
theorem known_of_genuine {t : Placed} (h : t.token.unitName? = none) (hgenuine : t.token.Genuine) :
    t.Known := by
  refine ⟨fun name hname => ?_, hgenuine⟩
  rw [h] at hname
  cases hname

theorem known_ofWord (text : String) (offset : Nat) : Placed.Known ⟨ofWord text, offset⟩ := by
  unfold ofWord
  split
  · rename_i hzone
    exact known_of_genuine rfl hzone
  split
  · exact known_of_genuine rfl trivial
  split
  · -- a built-in function that is also a unit
    refine ⟨fun name hname => ?_, trivial⟩
    simp only [unitName?] at hname
    split at hname
    · cases hname
      exact ofName?_of_find? (by assumption)
    · cases hname
  split
  · exact known_of_genuine rfl trivial
  split
  · refine ⟨fun name hname => ?_, trivial⟩
    cases hname
    exact ofName?_of_find? (by assumption)
  split
  · refine ⟨fun name hname => ?_, trivial⟩
    cases hname
    exact ofName?_of_isCode (by assumption)
  split
  all_goals exact known_of_genuine rfl trivial

theorem known_ofSign {sign code : String} (h : Currency.ofSign? sign = some code) (offset : Nat) :
    Placed.Known ⟨.currency code, offset⟩ := by
  refine ⟨fun name hname => ?_, trivial⟩
  cases hname
  refine ofName?_of_isCode ?_
  unfold Currency.ofSign? at h
  split at h
  · cases h
    decide
  · cases h
    decide
  · cases h
    decide
  · cases h
    decide
  · cases h

theorem known_nil : ∀ t ∈ ([] : List Placed), t.Known := List.forall_mem_nil _

theorem known_cons {t : Token} {offset : Nat} {ts : List Placed} (h : t.unitName? = none)
    (hgenuine : t.Genuine) (hts : ∀ u ∈ ts, u.Known) :
    ∀ u ∈ (⟨t, offset⟩ : Placed) :: ts, u.Known :=
  List.forall_mem_cons.2 ⟨known_of_genuine h hgenuine, hts⟩

theorem known_fragments (offset skip : Nat) (cs : List Char) :
    ∀ t ∈ fragments offset skip cs, t.Known := by
  fun_induction fragments offset skip cs with
  | case1 => exact known_nil
  | case2 offset skip c rest ih => exact ih
  | case3 offset c rest hdigit whole n ih => exact known_cons rfl trivial ih
  | case4 offset c rest hdigit m hm ih => exact known_cons rfl trivial ih
  | case5 offset c rest hdigit hm ih => exact ih

theorem known_ofDay (cs : List Char) (offset : Nat) : ∀ t ∈ ofDay cs offset, t.Known := by
  unfold ofDay
  split
  · rename_i hday
    exact known_cons rfl (by rwa [Genuine, String.toList_ofList]) known_nil
  · exact known_fragments offset 0 cs

theorem known_ofTime (cs : List Char) (offset : Nat) : ∀ t ∈ ofTime cs offset, t.Known := by
  unfold ofTime
  split
  · rename_i htime
    exact known_cons rfl (by rwa [Genuine, String.toList_ofList]) known_nil
  · exact known_fragments offset 0 cs

theorem known_ofPiece (p : Piece) : ∀ t ∈ ofPiece p, t.Known := by
  unfold ofPiece
  split
  · exact known_ofDay _ _
  · exact known_ofTime _ _
  · exact known_cons rfl trivial known_nil
  · rename_i quote _
    unfold ofQuoted
    cases quote with
    | _ => exact known_cons rfl trivial known_nil
  · exact List.forall_mem_singleton.2 (known_ofWord _ _)
  · split
    · rename_i code hcode
      exact List.forall_mem_singleton.2 (known_ofSign hcode _)
    · exact known_nil
  · exact known_cons rfl trivial known_nil
  · exact known_nil

theorem known_append {xs ys : List Placed} (hx : ∀ t ∈ xs, t.Known) (hy : ∀ t ∈ ys, t.Known) :
    ∀ t ∈ xs ++ ys, t.Known := List.forall_mem_append.2 ⟨hx, hy⟩

theorem known_ofPieces {broken : Piece → List Placed} (hbroken : ∀ p, ∀ t ∈ broken p, t.Known)
    (skip : Nat) {ps : List Piece} (hps : ∀ p ∈ ps, p.Scanned) :
    ∀ t ∈ ofPieces broken skip ps, t.Known := by
  induction ps generalizing skip with
  | nil =>
    unfold ofPieces
    exact known_nil
  | cons p rest ih =>
    obtain ⟨hp, hrest⟩ := List.forall_mem_cons.1 hps
    cases skip with
    | succ skip => exact ih skip hrest
    | zero =>
      unfold ofPieces
      split
      · split
        · rename_i hword _ found taken hglue
          exact known_cons rfl (isSome_parse?_of_glueZone? hp hword hrest hglue) (ih _ hrest)
        · exact known_append (known_ofPiece p) (ih 0 hrest)
      · split
        · split
          · rename_i front back hsplit hstamp
            have hgenuine : Genuine (.dayTime (String.ofList p.text)) := by
              rw [Genuine, String.toList_ofList]
              exact ⟨front, back, hsplit, Bool.and_eq_true_iff.1 hstamp⟩
            exact known_cons rfl hgenuine (ih 0 hrest)
          · exact known_append (hbroken p) (ih 0 hrest)
        · exact ih 0 hrest
      · exact known_append (known_ofPiece p) (ih 0 hrest)

/-- What a source names exists. -/
theorem known_of_mem_tokenize (source : String) : ∀ t ∈ tokenize source, t.Known := by
  have hbroken (p : Piece) : ∀ t ∈ ofBroken p, t.Known :=
    known_append (known_ofDay _ _)
      (known_ofPieces (fun _ => known_nil) 0 fun _ => Piece.scanned_of_mem)
  exact known_append (known_ofPieces hbroken 0 fun _ => Piece.scanned_of_mem)
    (known_cons rfl trivial known_nil)

end Token

/-! ## Trees -/

theorem Expr.grounded_of_children {e : Expr} (here : e.Sound)
    (hchildren : ∀ c ∈ e.children, c.Grounded) : e.Grounded := .node here hchildren

/-- A node without children. -/
theorem Expr.grounded_leaf {e : Expr} (here : e.Sound) (hchildren : e.children = []) :
    e.Grounded :=
  grounded_of_children here (by simp [hchildren])

/-- A node with one child. -/
theorem Expr.grounded_one {e c : Expr} (here : e.Sound) (hchildren : e.children = [c])
    (hc : c.Grounded) : e.Grounded :=
  grounded_of_children here (by simpa [hchildren] using hc)

/-- A node with two children. -/
theorem Expr.grounded_two {e l r : Expr} (here : e.Sound) (hchildren : e.children = [l, r])
    (hl : l.Grounded) (hr : r.Grounded) : e.Grounded :=
  grounded_of_children here (by simpa [hchildren] using ⟨hl, hr⟩)

namespace Grammar

/-! ## Readers -/

/-- A result with `P`, or an error that is not about a unit. -/
inductive Gives {α : Type} (P : α → Prop) : Checked α → Prop where
  | ok {x : α} (h : P x) : Gives P (.ok x)
  | error {e : Error} (h : e.cause.isUnknownUnit = false) : Gives P (.error e)

/-- Something with `P` and known tokens behind it, or an error that is not
about a unit. -/
abbrev Reads {α : Type} (P : α → Prop) : Checked (α × List Placed) → Prop :=
  Gives fun p => P p.1 ∧ ∀ t ∈ p.2, t.Known

/-- A reader that finds something with `P` in known tokens. -/
def Finds {α : Type} (P : α → Prop) (reader : Reader α) : Prop :=
  ∀ ts, (∀ t ∈ ts, t.Known) → Reads P (reader ts)

section

variable {α β : Type} {P : α → Prop} {Q : β → Prop}

theorem gives_failAt {offset : Nat} {cause : Cause} (h : cause.isUnknownUnit = false) :
    Gives P (failAt offset cause) := .error h

theorem Gives.bind {c : Checked α} {f : α → Checked β} (hc : Gives P c)
    (hf : ∀ x, P x → Gives Q (f x)) : Gives Q (c >>= f) := by
  cases hc with
  | ok h => exact hf _ h
  | error h => exact .error h

theorem Gives.imp {P' : α → Prop} {c : Checked α} (hc : Gives P c) (h : ∀ x, P x → P' x) :
    Gives P' c := by
  cases hc with
  | ok hx => exact .ok (h _ hx)
  | error he => exact .error he

theorem gives_mapM {f : α → Checked β} {xs : List α} (hf : ∀ x ∈ xs, Gives Q (f x)) :
    Gives (fun ys => ∀ y ∈ ys, Q y) (xs.mapM f) := by
  induction xs with
  | nil => exact .ok (by simp)
  | cons x xs ih =>
    rw [List.mapM_cons]
    refine (hf x List.mem_cons_self).bind fun y hy => ?_
    refine (ih fun x' hx' => hf x' (List.mem_cons_of_mem _ hx')).bind fun ys hys => .ok ?_
    exact List.forall_mem_cons.2 ⟨hy, hys⟩

theorem reads_ok {x : α} {rest : List Placed} (h : P x) (hrest : ∀ t ∈ rest, t.Known) :
    Reads P (.ok (x, rest)) := .ok ⟨h, hrest⟩

/-- What follows something that has been read. -/
theorem Reads.bind {c : Checked (α × List Placed)} {f : α × List Placed → Checked β}
    (hc : Reads P c) (hf : ∀ x rest, P x → (∀ t ∈ rest, t.Known) → Gives Q (f (x, rest))) :
    Gives Q (c >>= f) :=
  Gives.bind hc fun p hp => hf p.1 p.2 hp.1 hp.2

theorem known_of_cons {t : Placed} {ts : List Placed} (h : ∀ u ∈ t :: ts, u.Known) :
    ∀ u ∈ ts, u.Known :=
  fun u hu => h u (List.mem_cons_of_mem _ hu)

theorem known_of_eat? {m : Mark} {ts rest : List Placed} (hts : ∀ t ∈ ts, t.Known)
    (h : eat? m ts = some rest) : ∀ t ∈ rest, t.Known := by
  unfold eat? at h
  split at h
  · split at h
    · cases h
      exact known_of_cons hts
    · cases h
  · cases h

theorem gives_expect_bind {m : Mark} {wanted : String} {ts : List Placed}
    {f : List Placed → Checked β} (hts : ∀ t ∈ ts, t.Known)
    (hf : ∀ rest, (∀ t ∈ rest, t.Known) → Gives Q (f rest)) :
    Gives Q (expect m wanted ts >>= f) := by
  unfold expect
  split
  · split
    · exact hf _ (known_of_cons hts)
    · exact .error rfl
  · exact .error rfl

theorem Finds.before {reader : Reader α} (h : Finds P reader) (m : Mark) (wanted : String) :
    Finds P (before reader m wanted) :=
  fun ts hts => (h ts hts).bind fun _ _ hx hrest => gives_expect_bind hrest fun _ hrest =>
    reads_ok hx hrest

/-- What a round of a loop finds in known tokens: something with `P` to go on with, or how
the loop ends. -/
inductive RoundFinds (P : α → Prop) (Q : β → Prop) : Round α β → Prop where
  | more {x : α} {rest : List Placed} (h : P x) (hrest : ∀ t ∈ rest, t.Known) :
      RoundFinds P Q (.more x rest)
  | last {c : Checked (β × List Placed)} (h : Reads Q c) : RoundFinds P Q (.last c)

theorem RoundFinds.after {σ : Type} {R : σ → Prop} {c : Checked (α × List Placed)}
    {f : α → List Placed → Round σ β} (hc : Reads P c)
    (hf : ∀ x rest, P x → (∀ t ∈ rest, t.Known) → RoundFinds R Q (f x rest)) :
    RoundFinds R Q (.after c f) := by
  cases hc with
  | ok h => exact hf _ _ h.1 h.2
  | error h => exact .last (.error h)

/-- A loop finds what its rounds find. -/
theorem finds_loop {round : α → List Placed → Round α β}
    (loop : Nat → α → List Placed → Checked (β × List Placed))
    (hzero : ∀ x, P x → Finds Q (loop 0 x))
    (hsucc : ∀ rounds x ts, loop (rounds + 1) x ts = (round x ts).go (loop rounds))
    (hround : ∀ x ts, P x → (∀ t ∈ ts, t.Known) → RoundFinds P Q (round x ts)) (rounds : Nat)
    {x : α} (hx : P x) : Finds Q (loop rounds x) := by
  induction rounds generalizing x with
  | zero => exact hzero x hx
  | succ rounds ih =>
    intro ts hts
    have hfirst := hround x ts hx hts
    rw [hsucc]
    generalize round x ts = r at hfirst
    cases hfirst with
    | more hy hrest => exact ih hy _ hrest
    | last h => exact h

theorem roundFinds_item {item : Reader α} (hitem : Finds P item) (closing : Mark) {xs : List α}
    (hxs : ∀ x ∈ xs, P x) {ts : List Placed} (hts : ∀ t ∈ ts, t.Known) :
    RoundFinds (fun xs => ∀ x ∈ xs, P x) (fun xs => ∀ x ∈ xs, P x)
      (itemRound item closing xs ts) := by
  unfold itemRound
  split
  · rename_i hclosing
    exact .last (reads_ok hxs (known_of_eat? hts hclosing))
  · refine .after (hitem ts hts) fun x rest hx hrest => ?_
    have hall : ∀ y ∈ xs ++ [x], P y :=
      List.forall_mem_append.2 ⟨hxs, List.forall_mem_singleton.2 hx⟩
    split
    · exact .last (gives_failAt rfl)
    · split
      · exact .more hall (known_of_cons hrest)
      · split
        · exact .last (reads_ok hall (known_of_cons hrest))
        · split
          · exact .last (gives_failAt rfl)
          · exact .last (gives_failAt rfl)

theorem finds_items {item : Reader α} (hitem : Finds P item) (closing : Mark) :
    Finds (fun xs => ∀ x ∈ xs, P x) (items item closing) := by
  intro ts hts
  have hloop := finds_loop (fun rounds xs ts => prepended xs (itemsUntil item closing rounds ts))
    (fun _ _ _ _ => gives_failAt rfl) itemsUntil_succ
    (fun _ _ hxs hts => roundFinds_item hitem closing hxs hts) (ts.length + 1)
    (List.forall_mem_nil P) ts hts
  simp only [prepended_nil] at hloop
  exact hloop

theorem finds_parameters : Finds (fun _ => True) parameters := by
  have hparameter : Finds (fun _ => True) parameter := by
    intro ts hts
    unfold parameter
    split
    · split
      · exact reads_ok trivial (known_of_cons hts)
      · exact gives_failAt rfl
    · exact gives_failAt rfl
  intro ts hts
  exact (finds_items hparameter .rightParen ts hts).imp fun _ h => ⟨trivial, h.2⟩

end

/-! ## Units behind numbers -/

theorem takeUnit?_known {ts rest : List Placed} {name : String} (hts : ∀ t ∈ ts, t.Known)
    (h : takeUnit? ts = some (name, rest)) :
    (∃ d, Denomination.ofName? name = some d) ∧ ∀ t ∈ rest, t.Known := by
  unfold takeUnit? at h
  split at h
  · split at h
    · rename_i hname
      split at h
      · cases h
      · cases h
        exact ⟨(hts _ List.mem_cons_self).unit _ hname, known_of_cons hts⟩
    · cases h
  · cases h

theorem takePower?_known {ts rest : List Placed} {power : Int} (hts : ∀ t ∈ ts, t.Known)
    (h : takePower? ts = some (power, rest)) : ∀ t ∈ rest, t.Known := by
  unfold takePower? at h
  cases hcaret : eat? .caret ts with
  | none => simp [hcaret] at h
  | some us =>
    have hus := known_of_eat? hts hcaret
    rw [hcaret] at h
    cases hminus : eat? .minus us with
    | none =>
      simp only [hminus] at h
      split at h
      · split at h
        · cases h
          exact known_of_cons hus
        · cases h
      · cases h
    | some ws =>
      have hws := known_of_eat? hus hminus
      simp only [hminus] at h
      split at h
      · split at h
        · cases h
          exact known_of_cons hws
        · cases h
      · cases h

theorem takeTerm?_known {sign : Int} {ts rest : List Placed} {term : UnitTerm}
    (hts : ∀ t ∈ ts, t.Known) (h : takeTerm? sign ts = some (term, rest)) :
    term.Resolves ∧ ∀ t ∈ rest, t.Known := by
  unfold takeTerm? at h
  split at h
  · rename_i unit rest' hunit
    obtain ⟨hname, hrest'⟩ := takeUnit?_known hts hunit
    split at h
    · rename_i hpower
      cases h
      exact ⟨hname, takePower?_known hrest' hpower⟩
    · cases h
      exact ⟨hname, hrest'⟩
  · cases h

theorem roundFinds_term {terms : List UnitTerm} (hterms : ∀ t ∈ terms, t.Resolves)
    {ts : List Placed} (hts : ∀ t ∈ ts, t.Known) :
    RoundFinds (fun terms => ∀ t ∈ terms, t.Resolves) (fun terms => ∀ t ∈ terms, t.Resolves)
      (termRound terms ts) := by
  fun_cases termRound terms ts with
  | case2 t rest term rest' hterm =>
    obtain ⟨sign, _, hterm⟩ := Option.bind_eq_some_iff.1 hterm
    obtain ⟨hresolves, hrest'⟩ := takeTerm?_known (known_of_cons hts) hterm
    exact .more (List.forall_mem_append.2 ⟨hterms, List.forall_mem_singleton.2 hresolves⟩) hrest'
  | _ => exact .last (reads_ok hterms hts)

theorem moreTerms_known (rounds : Nat) {ts : List Placed} (hts : ∀ t ∈ ts, t.Known) :
    (∀ term ∈ (moreTerms rounds ts).1, term.Resolves) ∧
      ∀ t ∈ (moreTerms rounds ts).2, t.Known := by
  have hloop := finds_loop (fun rounds terms ts => prepended terms (.ok (moreTerms rounds ts)))
    (fun _ hterms _ hts => reads_ok (by simpa [moreTerms] using hterms) hts) prepended_moreTerms
    (fun _ _ hterms hts => roundFinds_term hterms hts) rounds
    (List.forall_mem_nil UnitTerm.Resolves) ts hts
  simp only [prepended_nil] at hloop
  cases hloop with
  | ok h => exact h

/-- The units behind a number stand for something. -/
theorem takeUnits?_known {ts rest : List Placed} {units : List UnitTerm}
    (hts : ∀ t ∈ ts, t.Known) (h : takeUnits? ts = some (units, rest)) :
    (∀ t ∈ units, t.Resolves) ∧ ∀ t ∈ rest, t.Known := by
  unfold takeUnits? at h
  split at h
  · rename_i term rest' hterm
    obtain ⟨hresolves, hrest'⟩ := takeTerm?_known hts hterm
    obtain ⟨hterms, hrest⟩ := moreTerms_known rest'.length hrest'
    cases h
    refine ⟨?_, hrest⟩
    intro u hu
    rcases List.mem_cons.1 hu with rfl | hu
    · exact hresolves
    · exact hterms u hu
  · cases h

end Grammar

end Reckoner
