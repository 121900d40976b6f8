import Reckoner.Proofs.Grammar.Alike
import Reckoner.Proofs.Grammar.Progress
import Reckoner.Proofs.Text.Integers
import Reckoner.Proofs.Token.Numbers

/-!
# Unit expressions

A unit expression is a unit with a power or without one, then any number of further ones, each
behind a star or a slash.  Whether a token names a unit depends on what follows it, so each part of
the grammar is about the tokens in front and the rest.

* `NamesUnit`, `Power`, `UnitPower`, `Further` and `UnitsAhead` are the grammar.
* `takeTerm?_of_unitPower` and `moreTerms_of_further` are the step and the run: a reader takes what
  the grammar allows, or more of it.
* `UnitsAhead.fitsInt32`: powers with their signs fit into words of 32 bits where numbers start
  with a digit, as they do in sources (`numbered_tokenize`).  Among other tokens there is a single
  number that leads out of them, `-2147483648`, where its sign is turned.
* `takeUnits?_longest`: the longest unit expression is taken, and nothing behind it.
-/

namespace Reckoner.Grammar

/-- An opening parenthesis comes next. -/
def Called (rest : List Placed) : Prop := ∃ t us, rest = t :: us ∧ t.token = .mark .leftParen

/-- A token that stands for a unit in front of the rest: it has the name of one, and it is no
function that is called. -/
def NamesUnit (t : Placed) (rest : List Placed) (name : String) : Prop :=
  t.token.unitName? = some name ∧ ¬(isFunction t.token = true ∧ Called rest)

/-- A caret, a minus or none, and a whole number that a word has room for. -/
inductive Power : List Placed → Int → Prop where
  | plain {caret number : Placed} {text : String} {n : Int} (hcaret : caret.token = .mark .caret)
    (hnumber : number.token = .number text) (hn : Text.Integer text.toList n)
    (hfits : FitsInt32 n) : Power [caret, number] n
  | negative {caret minus number : Placed} {text : String} {n : Int}
    (hcaret : caret.token = .mark .caret) (hminus : minus.token = .mark .minus)
    (hnumber : number.token = .number text) (hn : Text.Integer text.toList n)
    (hfits : FitsInt32 n) : Power [caret, minus, number] (-n)

/-- A unit with a power, or without one, which counts as the power one. -/
inductive UnitPower : (front rest : List Placed) → String → Int → Prop where
  | bare {t : Placed} {rest : List Placed} {name : String} (ht : NamesUnit t rest name) :
    UnitPower [t] rest name 1
  | raised {t : Placed} {ps rest : List Placed} {name : String} {n : Int}
    (ht : NamesUnit t (ps ++ rest) name) (hps : Power ps n) : UnitPower (t :: ps) rest name n

/-- The marks between units and the signs that they give to powers. -/
inductive Joins : Token → Int → Prop where
  | star : Joins (.mark .star) 1
  | slash : Joins (.mark .slash) (-1)

/-- Further units, each behind a mark. -/
inductive Further : (front rest : List Placed) → List UnitTerm → Prop where
  | done {rest : List Placed} : Further [] rest []
  | more {t : Placed} {fs us rest : List Placed} {name : String} {sign n : Int}
    {terms : List UnitTerm} (ht : Joins t.token sign) (hfs : UnitPower fs (us ++ rest) name n)
    (hus : Further us rest terms) :
    Further (t :: (fs ++ us)) rest ({ unit := name, exponent := sign * n } :: terms)

/-- A unit expression in front of the rest. -/
inductive UnitsAhead : (front rest : List Placed) → List UnitTerm → Prop where
  | mk {fs us rest : List Placed} {name : String} {n : Int} {terms : List UnitTerm}
    (hfs : UnitPower fs (us ++ rest) name n) (hus : Further us rest terms) :
    UnitsAhead (fs ++ us) rest ({ unit := name, exponent := n } :: terms)

section

variable {ts us rest front : List Placed} {t : Placed} {name : String} {n sign : Int}
  {term : UnitTerm} {terms : List UnitTerm}

/-! ## Units and powers -/

theorem isSome_eat?_leftParen_iff : (eat? .leftParen rest).isSome = true ↔ Called rest := by
  constructor
  · intro h
    obtain ⟨us, hus⟩ := Option.isSome_iff_exists.1 h
    obtain ⟨offset, rfl⟩ := eat?_eq_some hus
    exact ⟨_, us, rfl, rfl⟩
  · rintro ⟨t, us, rfl, ht⟩
    rw [eat?, if_pos ht, Option.isSome_some]

theorem takeUnit?_eq_some_iff :
    takeUnit? ts = some (name, rest) ↔ ∃ t, ts = t :: rest ∧ NamesUnit t rest name := by
  unfold NamesUnit
  cases ts with
  | nil =>
    refine iff_of_false (fun h => by cases h) ?_
    rintro ⟨t, h, -⟩
    cases h
  | cons t us =>
    rw [takeUnit?]
    cases hname : t.token.unitName? with
    | none =>
      refine iff_of_false (fun h => by cases h) ?_
      rintro ⟨u, heq, hu, -⟩
      cases heq
      rw [hname] at hu
      cases hu
    | some unit =>
      dsimp only
      rw [Option.ite_none_left_eq_some, Bool.and_eq_true, isSome_eat?_leftParen_iff]
      constructor
      · rintro ⟨hcalled, heq⟩
        cases heq
        exact ⟨t, rfl, hname, hcalled⟩
      · rintro ⟨u, heq, hu, hcalled⟩
        cases heq
        rw [hname] at hu
        cases hu
        exact ⟨hcalled, rfl⟩

theorem powerNumber?_eq_some_iff {negative : Bool} :
    powerNumber? negative ts = some (n, rest) ↔ ∃ t text k, ts = t :: rest ∧
      t.token = .number text ∧ Text.Integer text.toList k ∧ FitsInt32 k ∧
        n = if negative then -k else k := by
  constructor
  · intro h
    unfold powerNumber? at h
    split at h
    · rename_i text offset us
      split at h
      · rename_i k hk
        obtain ⟨hinteger, hfits⟩ := Text.word?_eq_some_iff.1 hk
        cases h
        exact ⟨_, text, k, rfl, rfl, hinteger, hfits, rfl⟩
      · cases h
    · cases h
  · rintro ⟨⟨token, offset⟩, text, k, rfl, rfl, hinteger, hfits, rfl⟩
    rw [powerNumber?, Text.word?_eq_some_iff.2 ⟨hinteger, hfits⟩]

theorem takePower?_eq_some_iff :
    takePower? ts = some (n, rest) ↔ ∃ ps, ts = ps ++ rest ∧ Power ps n := by
  rw [takePower?_eq]
  constructor
  · intro h
    obtain ⟨us, hcaret, hrest⟩ := Option.bind_eq_some_iff.1 h
    obtain ⟨offset, rfl⟩ := eat?_eq_some hcaret
    split at hrest
    · rename_i vs hminus
      obtain ⟨offset', rfl⟩ := eat?_eq_some hminus
      obtain ⟨t, text, k, rfl, ht, hinteger, hfits, rfl⟩ := powerNumber?_eq_some_iff.1 hrest
      exact ⟨[_, _, t], rfl, .negative rfl rfl ht hinteger hfits⟩
    · obtain ⟨t, text, k, rfl, ht, hinteger, hfits, rfl⟩ := powerNumber?_eq_some_iff.1 hrest
      exact ⟨[_, t], rfl, .plain rfl ht hinteger hfits⟩
  · rintro ⟨ps, rfl, hps⟩
    cases hps with
    | @plain caret number text n hcaret hnumber hinteger hfits =>
      have hminus : eat? .minus (number :: rest) = none := if_neg (by rw [hnumber]; nofun)
      show (eat? .caret (caret :: number :: rest)).bind _ = _
      rw [eat?, if_pos hcaret, Option.bind_some, hminus]
      exact powerNumber?_eq_some_iff.2 ⟨number, text, n, rfl, hnumber, hinteger, hfits, rfl⟩
    | @negative caret minus number text n hcaret hminus hnumber hinteger hfits =>
      have htail : eat? .minus (minus :: number :: rest) = some (number :: rest) := if_pos hminus
      show (eat? .caret (caret :: minus :: number :: rest)).bind _ = _
      rw [eat?, if_pos hcaret, Option.bind_some, htail]
      exact powerNumber?_eq_some_iff.2 ⟨number, text, n, rfl, hnumber, hinteger, hfits, rfl⟩

/-! ## One unit -/

theorem unitPower_of_takeTerm? (h : takeTerm? sign ts = some (term, rest)) :
    ∃ front name n, ts = front ++ rest ∧ UnitPower front rest name n ∧
      term = { unit := name, exponent := sign * n } := by
  unfold takeTerm? at h
  split at h
  · rename_i name us hunit
    obtain ⟨t, rfl, ht⟩ := takeUnit?_eq_some_iff.1 hunit
    split at h
    · rename_i n vs hpower
      cases h
      obtain ⟨ps, rfl, hps⟩ := takePower?_eq_some_iff.1 hpower
      exact ⟨t :: ps, name, n, rfl, .raised ht hps, rfl⟩
    · cases h
      exact ⟨[t], name, 1, rfl, .bare ht, by rw [mul_one]⟩
  · cases h

/-- A unit is taken as it is, or with a power behind it that the rest begins with. -/
theorem takeTerm?_of_unitPower (h : UnitPower front rest name n) (sign : Int) :
    takeTerm? sign (front ++ rest) = some ({ unit := name, exponent := sign * n }, rest) ∨
      (takePower? rest).isSome = true ∧ ∃ term rest',
        takeTerm? sign (front ++ rest) = some (term, rest') ∧ rest'.length < rest.length := by
  cases h with
  | @bare t _ _ ht =>
    have hunit : takeUnit? ([t] ++ rest) = some (name, rest) :=
      takeUnit?_eq_some_iff.2 ⟨t, rfl, ht⟩
    rw [takeTerm?, hunit]
    dsimp only
    cases hpower : takePower? rest with
    | none => exact .inl (by rw [mul_one])
    | some power =>
      exact .inr ⟨rfl, _, _, rfl, Nat.lt_of_succ_le (takes_of_takePower? hpower).length_le⟩
  | @raised t ps _ _ n ht hps =>
    have hunit : takeUnit? (t :: ps ++ rest) = some (name, ps ++ rest) :=
      takeUnit?_eq_some_iff.2 ⟨t, rfl, ht⟩
    have hpower : takePower? (ps ++ rest) = some (n, rest) :=
      takePower?_eq_some_iff.2 ⟨ps, rfl, hps⟩
    exact .inl (by rw [takeTerm?, hunit]; dsimp only; rw [hpower])

/-! ## Further units -/

theorem unitSign?_eq_some_iff {token : Token} : unitSign? token = some sign ↔ Joins token sign := by
  constructor
  · intro h
    unfold unitSign? at h
    split at h
    · cases h
      exact .star
    · cases h
      exact .slash
    · cases h
  · intro h
    cases h <;> rfl

theorem further_of_moreTerms {rounds : Nat} (h : moreTerms rounds ts = (terms, rest)) :
    ∃ front, ts = front ++ rest ∧ Further front rest terms := by
  induction rounds generalizing ts terms with
  | zero =>
    cases h
    exact ⟨[], rfl, .done⟩
  | succ rounds ih =>
    cases ts with
    | nil =>
      cases h
      exact ⟨[], rfl, .done⟩
    | cons t us =>
      unfold moreTerms at h
      split at h
      · rename_i term vs hterm
        obtain ⟨sign, hsign, hterm⟩ := Option.bind_eq_some_iff.1 hterm
        obtain ⟨fs, name, n, rfl, hfs, rfl⟩ := unitPower_of_takeTerm? hterm
        cases hmore : moreTerms rounds vs with
        | mk terms' rest' =>
          rw [hmore] at h
          cases h
          obtain ⟨ws, rfl, hws⟩ := ih hmore
          exact ⟨t :: (fs ++ ws), by rw [List.cons_append, List.append_assoc],
            .more (unitSign?_eq_some_iff.1 hsign) hfs hws⟩
      · cases h
        exact ⟨[], rfl, .done⟩

theorem Joins.ne_caret {token : Token} (h : Joins token sign) : token ≠ .mark .caret := by
  cases h <;> decide

theorem Joins.eq_one_or {token : Token} (h : Joins token sign) : sign = 1 ∨ sign = -1 := by
  cases h with
  | star => exact .inl rfl
  | slash => exact .inr rfl

/-- Where further units come, no power does. -/
theorem takePower?_of_further (h : Further us rest terms) (hne : us ≠ []) :
    takePower? (us ++ rest) = none := by
  cases h with
  | done => exact absurd rfl hne
  | @more t fs us _ _ _ _ _ ht =>
    have hcaret : eat? .caret (t :: (fs ++ us) ++ rest) = none := if_neg ht.ne_caret
    rw [takePower?_eq, hcaret, Option.bind_none]

/-- A round of further units. -/
theorem moreTerms_succ {rounds : Nat} {rest' : List Placed} (ht : Joins t.token sign)
    (hterm : takeTerm? sign ts = some (term, rest')) :
    moreTerms (rounds + 1) (t :: ts) =
      (term :: (moreTerms rounds rest').1, (moreTerms rounds rest').2) := by
  rw [moreTerms, unitSign?_eq_some_iff.2 ht, Option.bind_some, hterm]

/-- Behind a unit, what the grammar allows is taken, or more of it. -/
theorem moreTerms_of_further {rounds : Nat} (h : Further us rest terms)
    (hrounds : (us ++ rest).length ≤ rounds) :
    moreTerms rounds (us ++ rest) = (terms, rest) ∨
      (moreTerms rounds (us ++ rest)).2.length < rest.length := by
  induction h generalizing rounds with
  | @done rest =>
    cases hmore : moreTerms rounds rest with
    | mk terms' rest' =>
      obtain ⟨front, rfl, hfront⟩ := further_of_moreTerms hmore
      cases hfront with
      | done => exact .inl hmore
      | more =>
        rw [List.nil_append, hmore]
        refine .inr ?_
        simp only [List.cons_append, List.length_cons, List.length_append]
        omega
  | @more t fs us rest name sign n terms ht hfs hus ih =>
    obtain ⟨rounds, rfl⟩ : ∃ k, rounds = k + 1 := ⟨rounds - 1, by simp at hrounds; omega⟩
    rw [List.cons_append, List.append_assoc]
    rcases takeTerm?_of_unitPower hfs sign with hterm | ⟨hpower, term, rest', hterm, hlt⟩
    · rw [moreTerms_succ ht hterm]
      refine (ih ?_).imp (fun heq => by rw [heq]) id
      simp only [List.cons_append, List.length_cons, List.length_append] at hrounds ⊢
      omega
    · -- only the last unit can have another power behind it
      have hus : us = [] := by
        by_contra hne
        rw [takePower?_of_further hus hne] at hpower
        cases hpower
      subst hus
      have hrest' : rest'.length ≤ rounds := by
        simp only [List.nil_append, List.length_append, List.length_cons] at hrounds hlt
        omega
      rw [moreTerms_succ ht hterm]
      exact .inr (((takes_moreTerms hrest').length_le).trans_lt hlt)

/-! ## All together -/

theorem unitsAhead_of_takeUnits? (h : takeUnits? ts = some (terms, rest)) :
    ∃ front, ts = front ++ rest ∧ UnitsAhead front rest terms := by
  unfold takeUnits? at h
  split at h
  · rename_i term us hterm
    obtain ⟨fs, name, n, rfl, hfs, rfl⟩ := unitPower_of_takeTerm? hterm
    cases hmore : moreTerms us.length us with
    | mk terms' rest' =>
      rw [hmore] at h
      cases h
      obtain ⟨vs, rfl, hvs⟩ := further_of_moreTerms hmore
      rw [one_mul]
      exact ⟨fs ++ vs, (List.append_assoc _ _ _).symm, .mk hfs hvs⟩
  · cases h

/-- What the grammar allows is taken, or more of it. -/
theorem takeUnits?_of_unitsAhead (h : UnitsAhead front rest terms) :
    takeUnits? (front ++ rest) = some (terms, rest) ∨
      ∃ terms' rest', takeUnits? (front ++ rest) = some (terms', rest') ∧
        rest'.length < rest.length := by
  cases h with
  | @mk fs us _ name n terms hfs hus =>
    rw [List.append_assoc]
    unfold takeUnits?
    rcases takeTerm?_of_unitPower hfs 1 with hterm | ⟨hpower, term, rest', hterm, hlt⟩
    · rw [hterm, one_mul]
      dsimp only
      refine (moreTerms_of_further hus le_rfl).imp (fun heq => by rw [heq]) fun hlt => ?_
      exact ⟨_, _, rfl, hlt⟩
    · have hus : us = [] := by
        by_contra hne
        rw [takePower?_of_further hus hne] at hpower
        cases hpower
      subst hus
      rw [hterm]
      exact .inr ⟨_, _, rfl, ((takes_moreTerms (Nat.le_refl _)).length_le).trans_lt hlt⟩

theorem UnitPower.exists_name (h : UnitPower front rest name n) (hts : ts = front ++ rest) :
    ∃ t us, ts = t :: us ∧ NamesUnit t us name := by
  subst hts
  cases h with
  | bare ht => exact ⟨_, _, rfl, ht⟩
  | raised ht _ => exact ⟨_, _, rfl, ht⟩

theorem takeUnits?_eq_none_iff : takeUnits? ts = none ↔ ∀ t rest, ts = t :: rest →
    t.token.unitName? = none ∨ isFunction t.token = true ∧ Called rest := by
  constructor
  · rintro h t rest rfl
    cases hname : t.token.unitName? with
    | none => exact .inl rfl
    | some name =>
      refine .inr (by_contra fun hcalled => ?_)
      have hunit : UnitPower [t] rest name 1 := .bare ⟨hname, hcalled⟩
      rcases takeUnits?_of_unitsAhead (.mk hunit .done) with heq | ⟨_, _, heq, -⟩
      · exact nomatch h.symm.trans heq
      · exact nomatch h.symm.trans heq
  · intro h
    cases htake : takeUnits? ts with
    | none => rfl
    | some taken =>
      obtain ⟨terms, us⟩ := taken
      obtain ⟨front, hts, ⟨hunit, -⟩⟩ := unitsAhead_of_takeUnits? htake
      rw [List.append_assoc] at hts
      obtain ⟨t, rest, rfl, hname, hcalled⟩ := hunit.exists_name hts
      rcases h t rest rfl with hnone | hfunction
      · rw [hname] at hnone
        cases hnone
      · exact absurd hfunction hcalled

/-- A token that a unit with its power can end with. -/
def EndsUnit (t : Placed) : Prop := t.token.unitName?.isSome = true ∨ ∃ text, t.token = .number text

theorem UnitPower.exists_last (h : UnitPower front rest name n) :
    ∃ init last, front = init ++ [last] ∧ EndsUnit last := by
  cases h with
  | @bare t _ _ ht => exact ⟨[], t, rfl, .inl (by rw [ht.1, Option.isSome_some])⟩
  | @raised t _ _ _ _ _ hps =>
    cases hps with
    | @plain caret number text _ _ hnumber => exact ⟨[t, caret], number, rfl, .inr ⟨text, hnumber⟩⟩
    | @negative caret minus number text _ _ _ hnumber =>
      exact ⟨[t, caret, minus], number, rfl, .inr ⟨text, hnumber⟩⟩

theorem Further.exists_last (h : Further us rest terms) (hne : us ≠ []) :
    ∃ init last, us = init ++ [last] ∧ EndsUnit last := by
  induction h with
  | done => exact absurd rfl hne
  | @more t fs us rest _ _ _ _ _ hfs hus ih =>
    by_cases hempty : us = []
    · subst hempty
      obtain ⟨init, last, rfl, hlast⟩ := hfs.exists_last
      exact ⟨t :: init, last, by simp, hlast⟩
    · obtain ⟨init, last, rfl, hlast⟩ := ih hempty
      exact ⟨t :: (fs ++ init), last, by simp, hlast⟩

/-- A unit expression ends with a unit or a number, and with no mark. -/
theorem UnitsAhead.exists_last (h : UnitsAhead front rest terms) :
    ∃ init last, front = init ++ [last] ∧ EndsUnit last := by
  cases h with
  | @mk fs us _ _ _ _ hfs hus =>
    by_cases hempty : us = []
    · subst hempty
      obtain ⟨init, last, rfl, hlast⟩ := hfs.exists_last
      exact ⟨init, last, by simp, hlast⟩
    · obtain ⟨init, last, rfl, hlast⟩ := hus.exists_last hempty
      exact ⟨fs ++ init, last, by simp, hlast⟩

/-! ## Words of 32 bits -/

/-- A number that starts with a digit has no sign. -/
theorem nonneg_of_integer {c : Char} {cs : List Char} {k : Int} (hc : c.isDigit = true)
    (h : Text.Integer (c :: cs) k) : 0 ≤ k := by
  cases h with
  | plain _ => exact Int.natCast_nonneg _
  | signed hsign _ => cases hsign <;> exact absurd hc (by decide)

/-- Behind a caret stands no number that has no room with the other sign. -/
theorem Power.le_and_le (h : Power front n) (hfront : Token.Numbered front) :
    -2147483647 ≤ n ∧ n ≤ 2147483647 := by
  have hbounds {number : Placed} {text : String} {k : Int} (hmem : number ∈ front)
      (hnumber : number.token = .number text) (hk : Text.Integer text.toList k)
      (hfits : FitsInt32 k) : 0 ≤ k ∧ k ≤ 2147483647 := by
    obtain ⟨c, cs, htext, hc⟩ := hfront number hmem text (by rw [hnumber]; rfl)
    rw [htext] at hk
    exact ⟨nonneg_of_integer hc hk, hfits.2⟩
  cases h with
  | plain _ hnumber hn hfits =>
    obtain ⟨hnonneg, hle⟩ := hbounds (by simp) hnumber hn hfits
    exact ⟨by omega, hle⟩
  | negative _ _ hnumber hn hfits =>
    obtain ⟨hnonneg, hle⟩ := hbounds (by simp) hnumber hn hfits
    exact ⟨by omega, by omega⟩

theorem UnitPower.le_and_le (h : UnitPower front rest name n) (hfront : Token.Numbered front) :
    -2147483647 ≤ n ∧ n ≤ 2147483647 := by
  cases h with
  | bare _ => decide
  | raised _ hps => exact hps.le_and_le (List.forall_mem_cons.1 hfront).2

/-- Such a number fits into a word with either sign. -/
theorem fitsInt32_mul (hn : -2147483647 ≤ n ∧ n ≤ 2147483647) (hsign : sign = 1 ∨ sign = -1) :
    FitsInt32 (sign * n) := by
  unfold FitsInt32
  rcases hsign with rfl | rfl <;> omega

theorem Further.fitsInt32 (h : Further us rest terms) (hus : Token.Numbered us) :
    ∀ t ∈ terms, FitsInt32 t.exponent := by
  induction h with
  | done => exact List.forall_mem_nil _
  | more ht hfs _ ih =>
    obtain ⟨hfront, hmore⟩ := List.forall_mem_append.1 (List.forall_mem_cons.1 hus).2
    exact List.forall_mem_cons.2
      ⟨fitsInt32_mul (hfs.le_and_le hfront) ht.eq_one_or, ih hmore⟩

/-- Where numbers start with a digit, all powers fit into words. -/
theorem UnitsAhead.fitsInt32 (h : UnitsAhead front rest terms) (hfront : Token.Numbered front) :
    ∀ t ∈ terms, FitsInt32 t.exponent := by
  cases h with
  | mk hfs hus =>
    obtain ⟨hunit, hmore⟩ := List.forall_mem_append.1 hfront
    have hword := fitsInt32_mul (hfs.le_and_le hunit) (.inl rfl)
    rw [one_mul] at hword
    exact List.forall_mem_cons.2 ⟨hword, hus.fitsInt32 hmore⟩

/-! ## The longest unit expression -/

/-- The units that are taken are none exactly if the first token names no unit, and else the
longest unit expression in front, as far as its powers with their signs fit into words of 32 bits.
They do where numbers start with a digit.  The last token that is taken is a unit or a number, so
no mark is taken that nothing follows. -/
theorem takeUnits?_longest (ts : List Placed) :
    (takeUnits? ts = none ↔ ∀ t rest, ts = t :: rest →
      t.token.unitName? = none ∨ isFunction t.token = true ∧ Called rest) ∧
    ∀ terms rest,
      ((∀ t ∈ terms, FitsInt32 t.exponent) →
        (takeUnits? ts = some (terms, rest) ↔ ∃ front, ts = front ++ rest ∧
          UnitsAhead front rest terms ∧ ∀ front' rest' terms', ts = front' ++ rest' →
            UnitsAhead front' rest' terms' → front'.length ≤ front.length)) ∧
      (takeUnits? ts = some (terms, rest) →
        (∃ front last, ts = front ++ last :: rest ∧ EndsUnit last) ∧
        (Token.Numbered ts → ∀ t ∈ terms, FitsInt32 t.exponent)) := by
  refine ⟨takeUnits?_eq_none_iff, fun terms rest => ⟨fun _ => ⟨fun h => ?_, ?_⟩, fun h => ?_⟩⟩
  · obtain ⟨front, rfl, hfront⟩ := unitsAhead_of_takeUnits? h
    refine ⟨front, rfl, hfront, fun front' rest' terms' heq hfront' => ?_⟩
    have hlength := congrArg List.length heq
    rw [List.length_append, List.length_append] at hlength
    rcases takeUnits?_of_unitsAhead hfront' with htake | ⟨_, _, htake, hlt⟩
    · rw [← heq, h] at htake
      cases htake
      omega
    · rw [← heq, h] at htake
      cases htake
      omega
  · rintro ⟨front, rfl, hfront, hlongest⟩
    rcases takeUnits?_of_unitsAhead hfront with htake | ⟨terms', rest', htake, hlt⟩
    · exact htake
    · -- what is taken beyond the longest expression would be a longer one
      obtain ⟨front', heq, hfront'⟩ := unitsAhead_of_takeUnits? htake
      have hle := hlongest front' rest' terms' heq hfront'
      have hlength := congrArg List.length heq
      rw [List.length_append, List.length_append] at hlength
      omega
  · obtain ⟨front, rfl, hfront⟩ := unitsAhead_of_takeUnits? h
    obtain ⟨init, last, hlast, hends⟩ := hfront.exists_last
    exact ⟨⟨init, last, by simp [hlast], hends⟩,
      fun hnumbered => hfront.fitsInt32 (List.forall_mem_append.1 hnumbered).1⟩

end

/-- Of `m/s^-2*3` the units are `m` and `s`, and the star is left; a function that is called is no
unit. -/
theorem takeUnits?_longest_acceleration :
    let placed (token : Token) : Placed := { token, offset := 0 }
    let rest := [Token.mark .star, .number "3", .finish].map placed
    let ts := [Token.unit "m", .mark .slash, .unit "s", .mark .caret, .mark .minus,
      .number "2"].map placed ++ rest
    let terms : List UnitTerm := [⟨"m", 1⟩, ⟨"s", 2⟩]
    let call := [Token.function "min", .mark .leftParen, .finish].map placed
    Token.Numbered ts ∧ (∀ t ∈ terms, FitsInt32 t.exponent) ∧
      (∃ front, ts = front ++ rest ∧ UnitsAhead front rest terms ∧
        ∀ front' rest' terms', ts = front' ++ rest' → UnitsAhead front' rest' terms' →
          front'.length ≤ front.length) ∧
      (∃ front last, ts = front ++ last :: rest ∧ EndsUnit last) ∧ takeUnits? call = none := by
  intro placed rest ts terms call
  have htake : takeUnits? ts = some (terms, rest) := by decide
  have hnumbered : Token.Numbered ts := by
    rintro t ht text htext
    simp only [ts, rest, placed, List.map_cons, List.map_nil, List.cons_append, List.nil_append,
      List.mem_cons, List.not_mem_nil, or_false] at ht
    rcases ht with rfl | rfl | rfl | rfl | rfl | rfl | rfl | rfl | rfl <;> cases htext
    · exact ⟨'2', [], rfl, by decide⟩
    · exact ⟨'3', [], rfl, by decide⟩
  obtain ⟨-, hsome⟩ := takeUnits?_longest ts
  obtain ⟨hnone, -⟩ := takeUnits?_longest call
  obtain ⟨hlast, hfits⟩ := (hsome terms rest).2 htake
  refine ⟨hnumbered, hfits hnumbered, ((hsome terms rest).1 (hfits hnumbered)).1 htake, hlast,
    hnone.2 fun t us heq => ?_⟩
  obtain ⟨rfl, rfl⟩ : _ ∧ _ := List.cons.inj heq
  exact .inr ⟨rfl, _, _, rfl, rfl⟩

end Reckoner.Grammar
