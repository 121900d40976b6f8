import Reckoner.Proofs.Grammar.Alike
import Reckoner.Proofs.Outcome

/-!
# Readers on lists that are alike

Level by level from operands to whole expressions: what is read of a list, with
brackets that nest at most so deep, is read of any list that is like it, with
brackets that nest deeper (`imitates_expression`).

* Up to conversions the levels are `Tight`: where a number with units starts the
  list and its conversion ends it, the first reading leaves the conversion to
  the level of conversions and the second does not.  Behind an operator this
  cannot be (`Tight.behind`), and the level of conversions makes up for it
  (`convertUnits_of_lastConversion?`).
* From there on the same is read of both (`Imitates`).
-/

namespace Reckoner

namespace Grammar

/-- What `read` takes from a list or leaves as it is, `read'` takes from any that
is like it. -/
def Continues {α : Type} (read read' : Reader α) : Prop :=
  ∀ ⦃closed : Bool⦄ ⦃ts us ts' : List Placed⦄ ⦃x : α⦄, Alike closed ts us →
    read ts = .ok (x, ts') →
    ∃ us', read' us = .ok (x, us') ∧ Alike closed ts' us' ∧ ts'.length ≤ ts.length

/-- Rounds that start with readers that take the same. -/
theorem Imitates.after {α σ β : Type} {read read' : Reader α} (hread : Imitates read read')
    {closed : Bool} {size : Nat} {ends : β → List Placed → Round σ β → Prop} {ts us : List Placed}
    {f f' : α → List Placed → Round σ β} (h : Alike closed ts us)
    (hf : ∀ x {ts₁ us₁}, Alike closed ts₁ us₁ → ts₁.length < ts.length →
      RoundAlike closed size ends (f x ts₁) (f' x us₁)) :
    RoundAlike closed size ends (.after (read ts) f) (.after (read' us) f') := by
  cases hfirst : read ts with
  | error e => exact .failed
  | ok p =>
    obtain ⟨x, ts₁⟩ := p
    obtain ⟨us₁, hfirst', h₁, hlt⟩ := hread h hfirst
    rw [hfirst']
    exact hf x h₁ hlt

theorem Imitates.before {α : Type} {read read' : Reader α} (hread : Imitates read read') (m : Mark)
    (wanted : String) : Imitates (before read m wanted) (Grammar.before read' m wanted) := by
  intro closed ts us ts' x h hmark
  obtain ⟨p, hfirst, hmark⟩ := ok_bind_eq_ok hmark
  obtain ⟨ts₂, hexpect, hmark⟩ := ok_bind_eq_ok hmark
  cases hmark
  obtain ⟨us₁, hfirst', h₁, hlt₁⟩ := hread h hfirst
  obtain ⟨us₂, hexpect', h₂, hlt₂⟩ := expect_alike h₁ hexpect
  refine ⟨us₂, ?_, h₂, Nat.lt_trans hlt₂ hlt₁⟩
  unfold Grammar.before
  rw [hfirst']
  dsimp only [bind, Except.bind]
  rw [hexpect']

variable {expr expr' : Reader Expr}

/-! ## Operands -/

theorem imitates_lambda (hexpr : Imitates expr expr') : Imitates (lambda expr) (lambda expr') := by
  intro closed ts us ts' e h hread
  have hbody {params : List String} {offset : Nat} {vs ws : List Placed}
      (h : Alike closed vs ws)
      (hread : (expect .arrow "'=>'" vs >>= fun rest => expr rest >>= fun p =>
        .ok (.lambda none params p.1 offset, p.2)) = .ok (e, ts')) :
      ∃ us', (expect .arrow "'=>'" ws >>= fun rest => expr' rest >>= fun p =>
        .ok (Expr.lambda none params p.1 offset, p.2)) = .ok (e, us') ∧
        Alike closed ts' us' ∧ ts'.length < vs.length := by
    obtain ⟨vs', harrow, hread⟩ := ok_bind_eq_ok hread
    obtain ⟨p, hbody, hread⟩ := ok_bind_eq_ok hread
    obtain ⟨body, rest⟩ := p
    cases hread
    obtain ⟨ws', harrow', h', hlt⟩ := expect_alike h harrow
    obtain ⟨us', hbody', h'', hlt'⟩ := hexpr h' hbody
    refine ⟨us', ?_, h'', Nat.lt_trans hlt' hlt⟩
    rw [harrow']
    dsimp only [bind, Except.bind]
    rw [hbody']
  cases h with
  | nil => cases hread
  | ends _ hlast =>
    simp only [lambda, hlast, Token.bindingName?] at hread
    cases hread
  | @cons t ts us _ h =>
    unfold lambda at hread ⊢
    dsimp only at hread ⊢
    by_cases hparen : t.token = .mark .leftParen
    · simp only [if_pos hparen] at hread ⊢
      obtain ⟨p, hparams, hread⟩ := ok_bind_eq_ok hread
      obtain ⟨params, rest⟩ := p
      obtain ⟨ws, hparams', h', hlt⟩ := imitates_parameter.items .rightParen h hparams
      obtain ⟨us', hread', h'', hlt'⟩ := hbody h' hread
      refine ⟨us', ?_, h'', by simp only [List.length_cons]; omega⟩
      rw [parameters, hparams']
      exact hread'
    · simp only [if_neg hparen] at hread ⊢
      cases hname : t.token.bindingName? with
      | none =>
        rw [hname] at hread
        cases hread
      | some name =>
        rw [hname] at hread
        obtain ⟨us', hread', h'', hlt⟩ := hbody h hread
        exact ⟨us', hread', h'', Nat.lt_succ_of_lt hlt⟩

theorem Imitates.arguments (hexpr : Imitates expr expr') :
    Imitates (arguments expr) (Grammar.arguments expr') :=
  hexpr.items .rightParen

/-- A call, behind its opening parenthesis. -/
theorem continues_call (hexpr : Imitates expr expr') {closed : Bool} {ts us ts' : List Placed}
    {e : Expr} (h : Alike closed ts us) {name : String} {offset : Nat}
    (hread : (arguments expr ts >>= fun p => .ok (.call name p.1 offset, p.2)) = .ok (e, ts')) :
    ∃ us', (arguments expr' us >>= fun p => .ok (Expr.call name p.1 offset, p.2)) = .ok (e, us') ∧
      Alike closed ts' us' ∧ ts'.length < ts.length := by
  obtain ⟨p, hargs, hread⟩ := ok_bind_eq_ok hread
  obtain ⟨args, rest⟩ := p
  cases hread
  obtain ⟨us', hargs', h', hlt⟩ := hexpr.arguments h hargs
  exact ⟨us', by rw [hargs']; rfl, h', hlt⟩

theorem continues_nameOrCall (hexpr : Imitates expr expr') (name : String) (offset : Nat) :
    Continues (nameOrCall expr name offset) (nameOrCall expr' name offset) := by
  intro closed ts us ts' e h hread
  unfold nameOrCall at hread ⊢
  rcases eat?_alike h (m := .leftParen) (by decide) with ⟨h₁, h₂⟩ | ⟨vs, ws, h₁, h₂, h', hlt⟩
  · rw [h₁] at hread
    rw [h₂]
    cases hread
    exact ⟨us, rfl, h, Nat.le_refl _⟩
  · rw [h₁] at hread
    rw [h₂]
    obtain ⟨us', hread', h'', hlt'⟩ := continues_call hexpr h' hread
    exact ⟨us', hread', h'', by omega⟩

theorem continues_aggregate (hexpr : Imitates expr expr') (kind : Aggregate) (function : String)
    (offset : Nat) :
    Continues (aggregate expr kind function offset) (aggregate expr' kind function offset) := by
  intro closed ts us ts' e h hread
  unfold aggregate at hread ⊢
  rcases eat?_alike h (m := .leftParen) (by decide) with ⟨h₁, h₂⟩ | ⟨vs, ws, h₁, h₂, h', hlt⟩
  · simp only [h₁] at hread
    simp only [h₂]
    have htarget := aggregateTarget?_alike h
    generalize aggregateTarget? ts = x? at htarget hread
    generalize aggregateTarget? us = y? at htarget
    cases htarget with
    | none =>
      cases hread
      exact ⟨us, rfl, h, Nat.le_refl _⟩
    | some h' hlt =>
      cases hread
      exact ⟨_, rfl, h', Nat.le_of_lt hlt⟩
  · rw [h₁] at hread
    rw [h₂]
    obtain ⟨us', hread', h'', hlt'⟩ := continues_call hexpr h' hread
    exact ⟨us', hread', h'', by omega⟩

theorem continues_keyword (hexpr : Imitates expr expr') (k : Keyword) (offset : Nat) :
    Continues (keyword expr k offset) (keyword expr' k offset) := by
  intro closed ts us ts' e h hread
  cases k with
  | true_ | false_ | null | today | tomorrow | yesterday | now =>
    cases hread
    exact ⟨us, rfl, h, Nat.le_refl _⟩
  | total | sum | average | avg => exact continues_aggregate hexpr _ _ offset h hread
  | to_ | in_ | as_ | of_ | is_ => cases hread

theorem continues_currency (code : String) (offset : Nat) :
    Continues (currency code offset) (currency code offset) := by
  intro closed ts us ts' e h hread
  cases h with
  | nil hclosed =>
    cases hread
    exact ⟨[], rfl, .nil hclosed, Nat.le_refl _⟩
  | @ends last paren final hclosed hlast hparen hfinal =>
    obtain ⟨_, _⟩ := last
    obtain ⟨_, _⟩ := paren
    cases hlast
    cases hparen
    cases hread
    exact ⟨_, rfl, .ends hclosed rfl rfl hfinal, Nat.le_refl _⟩
  | @cons t ts us ht h =>
    obtain ⟨token, o⟩ := t
    cases token with
    | number text =>
      unfold currency at hread ⊢
      dsimp only at hread ⊢
      obtain ⟨n, hliteral, hread⟩ := ok_bind_eq_ok hread
      cases hread
      exact ⟨us, by rw [hliteral]; rfl, h, Nat.le_succ _⟩
    | _ =>
      cases hread
      exact ⟨_, rfl, .cons ht h, Nat.le_refl _⟩

theorem complete_imitated (hexpr : Imitates expr expr') {ts : List Placed} {e : Expr}
    (h : complete expr ts = .ok e) : complete expr' ts = .ok e := by
  unfold complete at h ⊢
  cases hread : expr ts with
  | error _ =>
    rw [hread] at h
    cases h
  | ok p =>
    obtain ⟨e', rest⟩ := p
    obtain ⟨us', hread', halike, -⟩ := hexpr (alike_refl ts) hread
    obtain rfl := halike.eq_of_open
    rw [hread] at h
    rw [hread']
    exact h

/-- The pieces of a string are read from sources of their own. -/
theorem parts_imitated (hexpr : Imitates expr expr') {segments : List Segment}
    {parts : List (Part Expr)} (h : segments.mapM (part expr) = .ok parts) :
    segments.mapM (part expr') = .ok parts := by
  induction segments generalizing parts with
  | nil => exact h
  | cons segment segments ih =>
    rw [List.mapM_cons] at h ⊢
    obtain ⟨p, hpart, h⟩ := ok_bind_eq_ok h
    obtain ⟨ps, hparts, h⟩ := ok_bind_eq_ok h
    have hpart' : part expr' segment = .ok p := by
      cases segment with
      | text content => exact hpart
      | code source offset =>
        obtain ⟨e, hcode, hpart⟩ := ok_bind_eq_ok hpart
        cases hpart
        simp only [part, complete_imitated hexpr hcode]
        rfl
    rw [hpart', ih hparts]
    exact h

theorem imitates_entryKey : Imitates entryKey entryKey := by
  intro closed ts us ts' key h hread
  cases h with
  | nil => cases hread
  | @ends last paren final _ hlast hparen =>
    obtain ⟨_, _⟩ := last
    cases hlast
    cases hread
  | @cons t ts us _ h =>
    unfold entryKey at hread ⊢
    dsimp only at hread ⊢
    split at hread
    · cases hread
      exact ⟨us, rfl, h, Nat.lt_succ_self _⟩
    · cases hread
      exact ⟨us, rfl, h, Nat.lt_succ_self _⟩
    · split at hread
      · rename_i hname
        cases hread
        exact ⟨us, rfl, h, Nat.lt_succ_self _⟩
      · cases hread

theorem imitates_entry (hexpr : Imitates expr expr') : Imitates (entry expr) (entry expr') := by
  intro closed ts us ts' x h hread
  obtain ⟨p, hkey, hread⟩ := ok_bind_eq_ok hread
  obtain ⟨key, rest⟩ := p
  obtain ⟨rest', hcolon, hread⟩ := ok_bind_eq_ok hread
  obtain ⟨q, hvalue, hread⟩ := ok_bind_eq_ok hread
  obtain ⟨value, rest''⟩ := q
  cases hread
  obtain ⟨vs, hkey', h', hlt⟩ := imitates_entryKey h hkey
  obtain ⟨ws, hcolon', h'', hlt'⟩ := expect_alike h' hcolon
  obtain ⟨us', hvalue', h''', hlt''⟩ := hexpr h'' hvalue
  refine ⟨us', ?_, h''', Nat.lt_trans hlt'' (Nat.lt_trans hlt' hlt)⟩
  unfold entry
  rw [hkey']
  dsimp only [bind, Except.bind]
  rw [hcolon']
  dsimp only
  rw [hvalue']

theorem continues_operandAt (hexpr : Imitates expr expr') (t : Placed) :
    Continues (operandAt expr t) (operandAt expr' t) := by
  intro closed ts us ts' e h hread
  obtain ⟨token, offset⟩ := t
  -- A literal takes nothing further.
  have hliteral {c : Checked Expr} (hread : (do return (← c, ts)) = .ok (e, ts')) :
      ∃ us', (do return (← c, us)) = .ok (e, us') ∧ Alike closed ts' us' ∧
        ts'.length ≤ ts.length := by
    obtain ⟨e', hc, hread⟩ := ok_bind_eq_ok hread
    cases hread
    exact ⟨us, by rw [hc]; rfl, h, Nat.le_refl _⟩
  cases token with
  | number text | day text | time text | dayTime text => exact hliteral hread
  | currency code => exact continues_currency code offset h hread
  | string quote segments =>
    obtain ⟨parts, hparts, hread⟩ := ok_bind_eq_ok hread
    cases hread
    refine ⟨us, ?_, h, Nat.le_refl _⟩
    simp only [operandAt, parts_imitated hexpr hparts]
    rfl
  | keyword k => exact continues_keyword hexpr k offset h hread
  | constant text =>
    unfold operandAt at hread ⊢
    dsimp only at hread ⊢
    split at hread
    · cases hread
      exact ⟨us, rfl, h, Nat.le_refl _⟩
    · cases hread
      exact ⟨us, rfl, h, Nat.le_refl _⟩
  | function text | name text | unit text | zone text =>
    exact continues_nameOrCall hexpr text offset h hread
  | mark m =>
    cases m with
    | leftParen =>
      obtain ⟨p, hinner, hread⟩ := ok_bind_eq_ok hread
      obtain ⟨inner, rest⟩ := p
      obtain ⟨rest', hparen, hread⟩ := ok_bind_eq_ok hread
      cases hread
      obtain ⟨vs, hinner', h', hlt⟩ := hexpr h hinner
      obtain ⟨us', hparen', h'', hlt'⟩ := expect_alike h' hparen
      refine ⟨us', ?_, h'', Nat.le_of_lt (Nat.lt_trans hlt' hlt)⟩
      unfold operandAt
      dsimp only
      rw [hinner']
      dsimp only [bind, Except.bind]
      rw [hparen']
    | leftBracket =>
      obtain ⟨p, helements, hread⟩ := ok_bind_eq_ok hread
      obtain ⟨elements, rest⟩ := p
      cases hread
      obtain ⟨us', helements', h', hlt⟩ := hexpr.items .rightBracket h helements
      refine ⟨us', ?_, h', Nat.le_of_lt hlt⟩
      unfold operandAt
      dsimp only
      rw [helements']
      rfl
    | leftBrace =>
      obtain ⟨p, hentries, hread⟩ := ok_bind_eq_ok hread
      obtain ⟨entries, rest⟩ := p
      cases hread
      obtain ⟨us', hentries', h', hlt⟩ := Imitates.items (imitates_entry hexpr) .rightBrace h hentries
      refine ⟨us', ?_, h', Nat.le_of_lt hlt⟩
      unfold operandAt
      dsimp only
      rw [hentries']
      rfl
    | _ => cases hread
  | finish => cases hread

theorem imitates_operand (hexpr : Imitates expr expr') : Imitates (operand expr) (operand expr') := by
  intro closed ts us ts' e h hread
  unfold operand at hread ⊢
  rw [lambdaAhead_alike h]
  split at hread
  · rename_i hahead
    rw [if_pos hahead]
    exact imitates_lambda hexpr h hread
  · rename_i hahead
    rw [if_neg hahead]
    cases h with
    | nil => cases hread
    | @ends last paren final hclosed hlast =>
      simp only [operandAt, hlast] at hread
      cases hread
    | @cons t ts us _ h =>
      obtain ⟨us', hread', h', hle⟩ := continues_operandAt hexpr t h hread
      exact ⟨us', hread', h', Nat.lt_succ_of_le hle⟩

/-! ## What follows an operand -/

/-- What a tight reader gives for lists that are alike: the same from both, or,
where the first one leaves a conversion that ends the source to a looser level,
a number with units from the first and its conversion from the second.  The
latter only if `may`. -/
inductive Outcome (closed : Bool) (may : Prop) (e : Expr) (ts : List Placed) :
    Checked (Expr × List Placed) → Prop where
  | alike {us : List Placed} (h : Alike closed ts us) : Outcome closed may e ts (.ok (e, us))
  | deferred {t last : Placed} {rest us : List Placed} {units : List UnitTerm}
      (hclosed : closed = true) (hmay : may) (he : e.isMeasured = true) (hts : ts = t :: rest)
      (hunits : lastConversion? (t :: rest) = some units) (h : Alike closed [last] us) :
      Outcome closed may e ts (.ok (.convertUnits e units t.offset, us))

theorem percentAhead_alike {closed : Bool} {ts us : List Placed} (h : Alike closed ts us) :
    percentAhead us = percentAhead ts := by
  cases h with
  | nil => rfl
  | ends _ hlast hparen => simp [percentAhead, hlast, hparen]
  | cons => rfl

theorem follows_of_last {last : Placed} {us : List Placed} (h : Alike true [last] us) :
    Follows .whole us := by
  cases h with
  | ends _ _ hparen => exact ⟨.whole, hparen ▸ rfl, Nat.le_refl _⟩
  | cons _ h =>
    cases h with
    | nil hclosed => cases hclosed

/-- What follows a number: units behind it or a conversion.  Lists that are
alike differ in it only where a conversion ends the source. -/
theorem numberSuffix?_alike {closed : Bool} {ts us : List Placed} (h : Alike closed ts us)
    (e : Expr) :
    Both closed ts.length (numberSuffix? e ts) (numberSuffix? e us) ∨
      ∃ t rest units us', closed = true ∧ e.isMeasured = true ∧ ts = t :: rest ∧
        lastConversion? (t :: rest) = some units ∧ numberSuffix? e ts = none ∧
        numberSuffix? e us = some (.convertUnits e units t.offset, us') ∧
        ∃ last, Alike closed [last] us' := by
  cases e with
  | number value units offset =>
    cases units with
    | nil =>
      have hunits := takeUnits?_alike h
      simp only [numberSuffix?]
      generalize takeUnits? ts = x? at hunits
      generalize takeUnits? us = y? at hunits
      cases hunits with
      | none => exact .inl .none
      | some h' hlt => exact .inl (.some h' hlt)
    | cons unit units =>
      cases h with
      | nil => exact .inl .none
      | ends _ hlast hparen =>
        simp only [numberSuffix?, conversionAhead?, hlast, hparen, isConversion, Bool.false_and,
          Bool.false_eq_true, if_false, Option.map_none]
        exact .inl .none
      | @cons t ts us ht h =>
        simp only [numberSuffix?]
        rcases conversionAhead?_alike (.cons ht h) with
          hboth | ⟨target, us', hclosed, hlast, hts, hus, hend⟩
        · generalize conversionAhead? (t :: ts) = x? at hboth
          generalize conversionAhead? (t :: us) = y? at hboth
          cases hboth with
          | none => exact .inl .none
          | some h' hlt => exact .inl (.some h' hlt)
        · rw [hts, hus]
          exact .inr ⟨t, ts, target, us', hclosed, rfl, rfl, hlast, rfl, rfl, hend⟩
  | _ => exact .inl .none

theorem imitates_property : Imitates property property := by
  intro closed ts us ts' e h hread
  cases h with
  | nil => cases hread
  | ends _ hlast =>
    simp only [property, hlast, Token.wordText?] at hread
    cases hread
  | @cons t ts us _ h =>
    unfold property at hread ⊢
    dsimp only at hread ⊢
    split at hread
    · cases hread
      exact ⟨us, rfl, h, Nat.lt_succ_self _⟩
    · cases hread

/-- A round that takes what follows a number. -/
def numberRound (e : Expr) (ts : List Placed) : Round Expr Expr :=
  match numberSuffix? e ts with
  | some (e, rest) => .more e rest
  | none => .last (.ok (e, ts))

/-- Whether a token can follow an operand that is no number. -/
def followsAny : Token → Bool
  | .mark .dot | .mark .leftBracket | .mark .leftParen | .mark .percent | .zone _ => true
  | _ => false

theorem suffixRound_number {t : Placed} (ht : followsAny t.token = false) (e : Expr)
    (ts : List Placed) : suffixRound expr e (t :: ts) = numberRound e (t :: ts) := by
  obtain ⟨token, offset⟩ := t
  cases token with
  | mark m => cases m with
    | dot | leftBracket | leftParen | percent => cases ht
    | _ => rfl
  | zone name => cases ht
  | _ => rfl

/-- Rounds that take the same behind an operand, or of which the first one leaves
a conversion to a looser level. -/
abbrev SuffixAlike (closed : Bool) (size : Nat) (expr : Reader Expr) (rounds : Nat) :
    Round Expr Expr → Round Expr Expr → Prop :=
  RoundAlike closed size fun e ts r => Outcome closed True e ts (r.go (suffixes expr rounds))

theorem numberRound_alike {closed : Bool} {ts us : List Placed} (h : Alike closed ts us) (e : Expr)
    (rounds : Nat) :
    SuffixAlike closed ts.length expr rounds (numberRound e ts) (numberRound e us) := by
  unfold numberRound
  rcases numberSuffix?_alike h e with
    hboth | ⟨t, rest, units, us', hclosed, he, hrest, hunits, hnone, hsome, last, hend⟩
  · generalize numberSuffix? e ts = x? at hboth
    generalize numberSuffix? e us = y? at hboth
    cases hboth with
    | none => exact .last (Nat.le_refl _) (.alike h)
    | some h₁ hlt => exact .more h₁ hlt
  · rw [hnone, hsome]
    refine .last (Nat.le_refl _) ?_
    dsimp only
    rw [Round.go_more, suffixes_stop _ _ us' ((follows_of_last (hclosed ▸ hend)).mono (by decide))]
    exact .deferred hclosed trivial he hrest hunits hend

theorem suffixRound_alike (hexpr : Imitates expr expr') {closed : Bool} {ts us : List Placed}
    (h : Alike closed ts us) (e : Expr) (rounds : Nat) :
    SuffixAlike closed ts.length expr' rounds (suffixRound expr e ts) (suffixRound expr' e us) := by
  have hnumber : SuffixAlike closed ts.length expr' rounds (numberRound e ts) (numberRound e us) :=
    numberRound_alike h e rounds
  have hstop : SuffixAlike closed ts.length expr' rounds (.last (.ok (e, ts)))
      (.last (.ok (e, us))) := .last (Nat.le_refl _) (.alike h)
  cases h with
  | nil hclosed => exact hstop
  | @ends last paren final hclosed hlast hparen hfinal =>
    rwa [suffixRound_number (by rw [hlast]; rfl), suffixRound_number (by rw [hparen]; rfl)]
  | @cons t ts us ht h =>
    have hsize {vs : List Placed} (hlt : vs.length < ts.length) : vs.length < (t :: ts).length :=
      Nat.lt_succ_of_lt hlt
    cases hany : followsAny t.token with
    | false => rwa [suffixRound_number hany, suffixRound_number hany]
    | true =>
      obtain ⟨token, offset⟩ := t
      cases token with
      | mark m => cases m with
        | dot => exact imitates_property.after h fun key _ _ h₁ hlt => .more h₁ (hsize hlt)
        | leftBracket =>
          exact (hexpr.before _ _).after h fun key _ _ h₁ hlt => .more h₁ (hsize hlt)
        | leftParen =>
          unfold suffixRound
          dsimp only
          split
          · exact hexpr.arguments.after h fun args _ _ h₁ hlt => .more h₁ (hsize hlt)
          · exact hstop
        | percent =>
          unfold suffixRound
          dsimp only
          rw [percentAhead_alike h]
          split
          · exact .more h (Nat.lt_succ_self _)
          · exact hstop
        | _ => cases hany
      | zone name =>
        unfold suffixRound
        dsimp only
        split
        · exact .more h (Nat.lt_succ_self _)
        · exact hstop
      | _ => cases hany

/-! ## Operators that bind tighter than a conversion -/

theorem Outcome.free {closed : Bool} {may : Prop} {e : Expr} {ts : List Placed}
    {res : Checked (Expr × List Placed)} (h : Outcome closed may e ts res)
    (hfree : closed = true → ¬ may) : ∃ us, res = .ok (e, us) ∧ Alike closed ts us := by
  cases h with
  | alike h => exact ⟨_, rfl, h⟩
  | deferred hclosed hmay => exact absurd hmay (hfree hclosed)

/-- What the tight reader `read` takes from a list, `read'` takes from any that is
like it, unless a conversion of the operand they start with ends the source. -/
def Tight (read read' : Reader Expr) : Prop :=
  ∀ ⦃closed : Bool⦄ ⦃ts us ts' : List Placed⦄ ⦃e : Expr⦄, Alike closed ts us →
    read ts = .ok (e, ts') →
    ts'.length < ts.length ∧ Outcome closed (Deferring ts) e ts' (read' us)

/-- Behind an operator that binds tighter than a conversion both take the
same. -/
theorem Tight.behind {read read' : Reader Expr} (h : Tight read read') {closed : Bool} {t : Placed}
    {ts us ts' : List Placed} {e : Expr} (ht : bindsTight t.token = true)
    (halike : Alike closed (t :: ts) (t :: us)) (hread : read ts = .ok (e, ts')) :
    ∃ us', read' us = .ok (e, us') ∧ Alike closed ts' us' ∧ ts'.length < ts.length := by
  cases halike with
  | ends _ hlast hparen =>
    rw [hlast] at hparen
    cases hparen
  | cons hfree halike =>
    obtain ⟨hlt, houtcome⟩ := h halike hread
    obtain ⟨us', hread', h'⟩ := houtcome.free fun hclosed => (hfree hclosed).2 ht
    exact ⟨us', hread', h', hlt⟩

theorem isConversion_of_lastConversion? {t : Placed} {rest : List Placed} {units : List UnitTerm}
    (h : lastConversion? (t :: rest) = some units) : isConversion t.token = true := by
  unfold lastConversion? at h
  dsimp only at h
  split at h
  · rename_i hcondition
    exact (Bool.and_eq_true_iff.1 hcondition).1
  · cases h

theorem bindsTight_of_whole {t : Token} (h : level? t = some .whole) : bindsTight t = false := by
  cases t with
  | mark m => cases m with
    | colon | comma | rightParen | rightBracket | rightBrace => rfl
    | _ => cases h
  | finish => rfl
  | _ => cases h

theorem level?_of_follows_whole {t : Placed} {rest : List Placed} (h : Follows .whole (t :: rest)) :
    level? t.token = some .whole := by
  obtain ⟨l, hl, hle⟩ := h
  cases l with
  | whole => exact hl
  | _ => exact absurd hle (by decide)

theorem bindsTight_of_isConversion {t : Token} (h : isConversion t = true) :
    bindsTight t = false := by
  cases t with
  | keyword k => cases k with
    | to_ | in_ | as_ => rfl
    | _ => cases h
  | _ => cases h

section

variable {operand operand' : Reader Expr} {combine? : Placed → Option (Expr → Expr → Expr)}

/-- What the operand of an operator takes from a list, behind the operator, the
other operand takes from any that is like it. -/
def Operates (operand operand' : Reader Expr) (combine? : Placed → Option (Expr → Expr → Expr)) :
    Prop :=
  ∀ ⦃closed : Bool⦄ ⦃t : Placed⦄ ⦃ts us ts' : List Placed⦄ ⦃e : Expr⦄,
    (combine? t).isSome = true → Alike closed (t :: ts) (t :: us) → operand ts = .ok (e, ts') →
    ∃ us', operand' us = .ok (e, us') ∧ Alike closed ts' us' ∧ ts'.length < ts.length

theorem chainRound_alike (hend : ∀ t, level? t.token = some .whole → combine? t = none)
    (hoperand : Operates operand operand' combine?) {closed : Bool} {ts us : List Placed}
    (h : Alike closed ts us) (left : Expr)
    (loop : Expr → List Placed → Checked (Expr × List Placed)) :
    RoundAlike closed ts.length (fun e ts' r => Same closed e ts' (r.go loop))
      (chainRound operand combine? left ts) (chainRound operand' combine? left us) := by
  cases h with
  | nil hclosed => exact .last (Nat.le_refl _) ⟨_, rfl, .nil hclosed⟩
  | @ends last paren final hclosed hlast hparen hfinal =>
    simp only [chainRound, hend last (hlast ▸ rfl), hend paren (hparen ▸ rfl)]
    exact .last (Nat.le_refl _) ⟨_, rfl, .ends hclosed hlast hparen hfinal⟩
  | @cons t ts us ht h =>
    dsimp only [chainRound]
    cases hc : combine? t with
    | none => exact .last (Nat.le_refl _) ⟨_, rfl, .cons ht h⟩
    | some combine =>
      dsimp only
      cases hright : operand ts with
      | error e => exact .failed
      | ok p =>
        obtain ⟨right, rest⟩ := p
        obtain ⟨us₁, hright', h₁, hlt⟩ := hoperand (by rw [hc]; rfl) (.cons ht h) hright
        rw [hright']
        exact .more h₁ (Nat.lt_succ_of_lt hlt)

theorem chain_alike (hend : ∀ t, level? t.token = some .whole → combine? t = none)
    (hoperand : Operates operand operand' combine?) {closed : Bool} {e e' : Expr}
    {ts us ts' : List Placed} (h : Alike closed ts us)
    (hread : chain operand combine? ts.length e ts = .ok (e', ts')) :
    ∃ us', chain operand' combine? us.length e us = .ok (e', us') ∧ Alike closed ts' us' ∧
      ts'.length ≤ ts.length := by
  obtain ⟨hle, us', hread', h'⟩ := unrolls_chain.alike unrolls_chain
    (fun left _ _ _ h => chainRound_alike hend hoperand h left _) h (Nat.le_refl _)
    (Nat.le_refl us.length) hread
  exact ⟨us', hread', h', hle⟩

theorem Tight.leftGrouped (hoperand : Tight operand operand')
    (hcombine : ∀ t, (combine? t).isSome = true → bindsTight t.token = true) :
    Tight (leftGrouped operand combine?) (Grammar.leftGrouped operand' combine?) := by
  intro closed ts us ts' e h hread
  have hnone {t : Placed} (ht : bindsTight t.token = false) : combine? t = none := by
    cases hc : combine? t with
    | none => rfl
    | some c => exact absurd (hcombine t (by rw [hc]; rfl)) (by rw [ht]; exact Bool.false_ne_true)
  have hend (t : Placed) (ht : level? t.token = some .whole) : combine? t = none :=
    hnone (bindsTight_of_whole ht)
  obtain ⟨p, hleft, hread⟩ := ok_bind_eq_ok hread
  obtain ⟨left, rest⟩ := p
  obtain ⟨hlt, houtcome⟩ := hoperand h hleft
  dsimp only at hread
  unfold Grammar.leftGrouped
  generalize operand' us = res at houtcome
  cases houtcome with
  | @alike us₁ h₁ =>
    obtain ⟨us', hread', h', hle⟩ := chain_alike hend
      (fun _ _ _ _ _ _ hc => hoperand.behind (hcombine _ hc)) h₁ hread
    refine ⟨by omega, ?_⟩
    dsimp only [bind, Except.bind]
    rw [hread']
    exact .alike h'
  | @deferred t last rest' us' units hclosed hmay he hts hunits hlast =>
    subst hts
    have hstop := hnone (bindsTight_of_isConversion (isConversion_of_lastConversion? hunits))
    simp only [List.length_cons, chain, hstop] at hread
    cases hread
    have hfollows : Follows .whole us' := follows_of_last (hclosed ▸ hlast)
    have hstop' : chain operand' combine? us'.length (.convertUnits e units t.offset) us' =
        .ok (.convertUnits e units t.offset, us') :=
      chain_stop (fun t _ ht => hend t (level?_of_follows_whole ht)) _ _ _ hfollows
    refine ⟨hlt, ?_⟩
    dsimp only [bind, Except.bind]
    rw [hstop']
    exact .deferred hclosed hmay he rfl hunits hlast

end

variable {depth depth' : Nat}

theorem tight_suffixed (hexpr : Imitates (expression depth) (expression depth')) :
    Tight (suffixed (expression depth)) (suffixed (expression depth')) := by
  intro closed ts us ts' e h hread
  obtain ⟨p, hoperand, hsuffixes⟩ := ok_bind_eq_ok hread
  obtain ⟨e₁, ts₁⟩ := p
  obtain ⟨us₁, hoperand', h₁, hlt⟩ := imitates_operand hexpr h hoperand
  obtain ⟨hle, houtcome⟩ := unrolls_suffixes.alike unrolls_suffixes
    (fun e _ _ rounds h => suffixRound_alike hexpr h e rounds) h₁ (Nat.le_refl _)
    (Nat.le_refl us₁.length) hsuffixes
  refine ⟨by omega, ?_⟩
  unfold suffixed
  rw [hoperand']
  dsimp only [bind, Except.bind]
  generalize suffixes (expression depth') us₁.length e₁ us₁ = res at houtcome
  cases houtcome with
  | alike h' => exact .alike h'
  | deferred hclosed _ he hts hunits hlast =>
    subst hts
    exact .deferred hclosed ⟨depth, e, _, hread, he, by rw [hunits]; rfl⟩ he rfl hunits hlast

theorem tight_unary (hexpr : Imitates (expression depth) (expression depth')) :
    Tight (unary (expression depth)) (unary (expression depth')) := by
  intro closed ts us ts' e h hread
  induction ts generalizing us e with
  | nil =>
    cases h with
    | nil hclosed => exact tight_suffixed hexpr (.nil hclosed) hread
  | cons t ts ih =>
    cases h with
    | @ends last paren final hclosed hlast hparen hfinal =>
      simp only [unary, hlast, hparen, unaryOp?] at hread ⊢
      exact tight_suffixed hexpr (.ends hclosed hlast hparen hfinal) hread
    | @cons t ts us ht h =>
      cases hop : unaryOp? t.token with
      | none =>
        simp only [unary, hop] at hread ⊢
        exact tight_suffixed hexpr (.cons ht h) hread
      | some op =>
        simp only [unary, hop] at hread ⊢
        obtain ⟨p, hoperand, hread⟩ := ok_bind_eq_ok hread
        obtain ⟨e₁, ts₁⟩ := p
        cases hread
        obtain ⟨hlt, houtcome⟩ := ih h hoperand
        have htight : bindsTight t.token = true := by simp [bindsTight, hop]
        obtain ⟨us', hoperand', h'⟩ := houtcome.free fun hclosed => (ht hclosed).2 htight
        refine ⟨Nat.lt_succ_of_lt hlt, ?_⟩
        rw [hoperand']
        exact .alike h'

theorem tight_plain {op? : Token → Option BinaryOp} {t : Placed}
    (hop : ∀ t, (op? t).isSome = true → bindsTight t = true)
    (h : (plain? op? t).isSome = true) : bindsTight t.token = true :=
  hop _ (by simpa [plain?] using h)

theorem tight_bitwise (hexpr : Imitates (expression depth) (expression depth')) :
    Tight (bitwise (expression depth)) (bitwise (expression depth')) :=
  Tight.leftGrouped (tight_unary hexpr) fun _ => tight_plain fun _ h => by simp [bindsTight, h]

theorem head?_ne_of_follows {level : Level} {ts : List Placed} (h : Follows level ts) {m : Mark}
    (hm : (level? (.mark m)).all (·.rank < level.rank) = true) :
    ∀ t ∈ ts.head?, t.token ≠ .mark m := by
  intro t ht htoken
  cases ts with
  | nil => cases ht
  | cons u ts =>
    cases ht
    obtain ⟨l, hl, hle⟩ := h
    rw [htoken] at hl
    rw [hl] at hm
    exact absurd (of_decide_eq_true hm) (Nat.not_lt.2 hle)

/-- What follows the left operand of a power. -/
def morePowers (expr : Reader Expr) (rounds : Nat) (left : Expr) : Reader Expr
  | ⟨.mark .caret, offset⟩ :: rest => do
    let (right, rest) ← powerChain expr rounds rest
    .ok (.binary .pow left right offset, rest)
  | ts => .ok (left, ts)

theorem powerChain_succ (expr : Reader Expr) (rounds : Nat) (ts : List Placed) :
    powerChain expr (rounds + 1) ts =
      bitwise expr ts >>= fun p => morePowers expr rounds p.1 p.2 := by
  rfl

theorem morePowers_stop {ts : List Placed} (h : ∀ t ∈ ts.head?, t.token ≠ .mark .caret)
    (expr : Reader Expr) (rounds : Nat) (left : Expr) :
    morePowers expr rounds left ts = .ok (left, ts) := by
  unfold morePowers
  split
  · exact absurd rfl (h _ rfl)
  · rfl

/-- Behind a left operand the same powers follow, if the same is read behind the
caret. -/
theorem morePowers_alike {rounds rounds' : Nat}
    (hagain : ∀ {closed : Bool} {e : Expr} {ts us ts' : List Placed}, Alike closed ts us →
      ts.length ≤ rounds → us.length ≤ rounds' → powerChain expr rounds ts = .ok (e, ts') →
      ts'.length < ts.length ∧
        Outcome closed (Deferring ts) e ts' (powerChain expr' rounds' us))
    {closed : Bool} {left e : Expr} {ts us ts' : List Placed} (h : Alike closed ts us)
    (hts : ts.length ≤ rounds) (hus : us.length ≤ rounds')
    (hread : morePowers expr rounds left ts = .ok (e, ts')) :
    ∃ us', morePowers expr' rounds' left us = .ok (e, us') ∧ Alike closed ts' us' ∧
      ts'.length ≤ ts.length := by
  cases h with
  | nil hclosed =>
    cases hread
    exact ⟨[], rfl, .nil hclosed, Nat.le_refl _⟩
  | @ends last paren final hclosed hlast hparen hfinal =>
    rw [morePowers_stop (by simp [hlast])] at hread
    cases hread
    exact ⟨_, morePowers_stop (by simp [hparen]) _ _ _, .ends hclosed hlast hparen hfinal,
      Nat.le_refl _⟩
  | @cons t ts us ht h =>
    by_cases hcaret : t.token = .mark .caret
    · obtain ⟨token, offset⟩ := t
      subst hcaret
      obtain ⟨p, hright, hread⟩ := ok_bind_eq_ok hread
      obtain ⟨right, ts₁⟩ := p
      cases hread
      simp only [List.length_cons] at hts hus ⊢
      obtain ⟨hlt, houtcome⟩ := hagain h (by omega) (by omega) hright
      obtain ⟨us', hright', h'⟩ := houtcome.free fun hclosed => (ht hclosed).2 rfl
      exact ⟨us', by simp only [morePowers, hright']; rfl, h', by omega⟩
    · rw [morePowers_stop (by simpa using hcaret)] at hread
      cases hread
      exact ⟨_, morePowers_stop (by simpa using hcaret) _ _ _, .cons ht h, Nat.le_refl _⟩

theorem tight_powerChain (hexpr : Imitates (expression depth) (expression depth')) {closed : Bool}
    {rounds rounds' : Nat} {e : Expr} {ts us ts' : List Placed} (h : Alike closed ts us)
    (hts : ts.length ≤ rounds) (hus : us.length ≤ rounds')
    (hread : powerChain (expression depth) rounds ts = .ok (e, ts')) :
    ts'.length < ts.length ∧
      Outcome closed (Deferring ts) e ts' (powerChain (expression depth') rounds' us) := by
  induction rounds generalizing closed rounds' e ts us ts' with
  | zero =>
    obtain rfl := List.length_eq_zero_iff.1 (Nat.le_zero.1 hts)
    exact absurd (tight_bitwise hexpr h hread).1 (Nat.not_lt_zero _)
  | succ rounds ih =>
    rw [powerChain_succ] at hread
    obtain ⟨p, hleft, hread⟩ := ok_bind_eq_ok hread
    obtain ⟨left, ts₁⟩ := p
    dsimp only at hread
    obtain ⟨hlt, houtcome⟩ := tight_bitwise hexpr h hleft
    have hlength := h.length_eq
    obtain ⟨n, rfl⟩ : ∃ n, rounds' = n + 1 := ⟨rounds' - 1, by omega⟩
    rw [powerChain_succ]
    generalize bitwise (expression depth') us = res at houtcome
    cases houtcome with
    | @alike us₁ h₁ =>
      have hlength₁ := h₁.length_eq
      obtain ⟨us', hread', h', hle⟩ :=
        morePowers_alike (fun h hts hus => ih h hts hus) h₁ (by omega) (by omega : _ ≤ n) hread
      refine ⟨by omega, ?_⟩
      dsimp only [bind, Except.bind]
      rw [hread']
      exact .alike h'
    | @deferred t last rest us' units hclosed hmay he hts hunits hlast =>
      subst hts
      have hcaret : t.token ≠ .mark .caret := by
        intro hcaret
        have := isConversion_of_lastConversion? hunits
        rw [hcaret] at this
        cases this
      rw [morePowers_stop (by simpa using hcaret)] at hread
      cases hread
      have hend := head?_ne_of_follows (follows_of_last (hclosed ▸ hlast)) (m := .caret) (by decide)
      refine ⟨hlt, ?_⟩
      dsimp only [bind, Except.bind]
      rw [morePowers_stop hend]
      exact .deferred hclosed hmay he rfl hunits hlast

theorem tight_power (hexpr : Imitates (expression depth) (expression depth')) :
    Tight (power (expression depth)) (power (expression depth')) :=
  fun _ _ _ _ _ h hread => tight_powerChain hexpr h (Nat.le_refl _) (Nat.le_refl _) hread

theorem tight_product (hexpr : Imitates (expression depth) (expression depth')) :
    Tight (product (expression depth)) (product (expression depth')) :=
  Tight.leftGrouped (tight_power hexpr) fun _ => tight_plain fun _ h => by simp [bindsTight, h]

theorem tight_sum (hexpr : Imitates (expression depth) (expression depth')) :
    Tight (sum (expression depth)) (sum (expression depth')) :=
  Tight.leftGrouped (tight_product hexpr) fun t h => by
    have hop : (sumOp? t.token).isSome = true := by simpa using h
    simp [bindsTight, hop]

theorem tight_share (hexpr : Imitates (expression depth) (expression depth')) :
    Tight (share (expression depth)) (share (expression depth')) :=
  Tight.leftGrouped (tight_sum hexpr) fun _ => tight_plain fun _ h => by simp [bindsTight, h]

/-! ## Conversions and comparisons -/

theorem wordText?_of_level {t : Token} {l : Level} (h : level? t = some l) :
    t.wordText? = none := by
  cases t with
  | mark _ | finish => rfl
  | _ => cases h

theorem convert?_of_level {target : Placed} {l : Level} (h : level? target.token = some l)
    (e : Expr) (offset : Nat) (rest : List Placed) : convert? e offset target rest = none := by
  have hkind : kindOf? target = none := by rw [kindOf?, wordText?_of_level h]; rfl
  unfold convert?
  rw [hkind, takeUnits?_of_level h, wordText?_of_level h]
  dsimp only
  split
  · rename_i hzone _
    rw [hzone] at h
    cases h
  · cases e.isDateLiteral <;> cases e.mayBeDate <;> rfl

theorem convert?_alike {closed : Bool} {target : Placed} {ts us : List Placed}
    (h : Alike closed (target :: ts) (target :: us)) (h' : Alike closed ts us) (e : Expr)
    (offset : Nat) :
    Both closed (ts.length + 1) (convert? e offset target ts) (convert? e offset target us) := by
  unfold convert?
  cases kindOf? target with
  | some kind => exact .some h' (Nat.lt_succ_self _)
  | none =>
    have hunits : Both closed (ts.length + 1)
        (if e.isDateLiteral then none else takeUnits? (target :: ts))
        (if e.isDateLiteral then none else takeUnits? (target :: us)) := by
      cases e.isDateLiteral with
      | true => exact .none
      | false => exact takeUnits?_alike h
    dsimp only
    generalize (if e.isDateLiteral then none else takeUnits? (target :: ts)) = x? at hunits
    generalize (if e.isDateLiteral then none else takeUnits? (target :: us)) = y? at hunits
    generalize (if e.mayBeDate then target.token.wordText? else none) = word?
    split
    · exact .some h' (Nat.lt_succ_self _)
    · cases hunits with
      | none =>
        cases word? with
        | none => exact .none
        | some name => exact .some h' (Nat.lt_succ_self _)
      | some h'' hlt => exact .some h'' hlt

theorem conversionRound_alike {closed : Bool} {ts us : List Placed} (h : Alike closed ts us)
    (e : Expr) (loop : Expr → List Placed → Checked (Expr × List Placed)) :
    RoundAlike closed ts.length (fun e ts' r => Same closed e ts' (r.go loop))
      (conversionRound e ts) (conversionRound e us) := by
  cases h with
  | nil hclosed => exact .last (Nat.le_refl _) ⟨_, rfl, .nil hclosed⟩
  | @ends last paren final hclosed hlast hparen hfinal =>
    simp only [conversionRound, hlast, hparen, isConversion, Bool.false_eq_true, if_false]
    exact .last (Nat.le_refl _) ⟨_, rfl, .ends hclosed hlast hparen hfinal⟩
  | @cons t ts us ht h =>
    dsimp only [conversionRound]
    split
    · cases h with
      | nil hclosed => exact .last (Nat.zero_le _) ⟨_, rfl, .nil hclosed⟩
      | @ends last paren final hclosed hlast hparen hfinal =>
        have hlevel : level? last.token = some .whole := hlast ▸ rfl
        have hlevel' : level? paren.token = some .whole := hparen ▸ rfl
        simp only [convert?_of_level hlevel, convert?_of_level hlevel']
        exact .more (.ends hclosed hlast hparen hfinal) (Nat.lt_succ_self _)
      | @cons target ts us htarget h =>
        have hboth := convert?_alike (.cons htarget h) h e t.offset
        dsimp only
        generalize convert? e t.offset target ts = x? at hboth
        generalize convert? e t.offset target us = y? at hboth
        cases hboth with
        | none => exact .more (.cons htarget h) (Nat.lt_succ_self _)
        | some h₁ hlt => exact .more h₁ (Nat.lt_succ_of_lt hlt)
    · exact .last (Nat.le_refl _) ⟨_, rfl, .cons ht h⟩

theorem conversions_alike {closed : Bool} {ts us : List Placed} (e : Expr)
    (h : Alike closed ts us) :
    ∃ e' ts' us', conversions ts.length e ts = (e', ts') ∧
      conversions us.length e us = (e', us') ∧ Alike closed ts' us' ∧ ts'.length ≤ ts.length := by
  cases hts : conversions ts.length e ts with
  | mk e' ts' =>
    obtain ⟨hle, us', hus, h'⟩ := unrolls_conversions.alike unrolls_conversions
      (fun e _ _ _ h => conversionRound_alike h e _) h (Nat.le_refl _) (Nat.le_refl us.length)
      (congrArg Except.ok hts)
    exact ⟨e', ts', us', rfl, Except.ok.inj hus, h', hle⟩

theorem convertUnits_of_lastConversion? {t : Placed} {rest : List Placed} {units : List UnitTerm}
    {e : Expr} (he : e.isMeasured = true) (h : lastConversion? (t :: rest) = some units) :
    ∃ last, last.token = .finish ∧
      conversions (t :: rest).length e (t :: rest) = (.convertUnits e units t.offset, [last]) := by
  unfold lastConversion? at h
  dsimp only at h
  split at h
  · rename_i hcondition
    obtain ⟨hconversion, hkind⟩ := Bool.and_eq_true_iff.1 hcondition
    cases rest with
    | nil => cases h
    | cons target rest =>
      replace hkind : kindOf? target = none := by simpa using hkind
      split at h
      · rename_i last hunits
        split at h
        · rename_i hlast
          cases h
          refine ⟨last, hlast, ?_⟩
          have hconvert : convert? e t.offset target rest =
              some (.convertUnits e units t.offset, [last]) := by
            cases e with
            | number value us o =>
              simp only [convert?, hkind, Expr.isDateLiteral, Expr.mayBeDate, hunits,
                Bool.false_eq_true, if_false]
              cases target.token <;> rfl
            | _ => cases he
          simp only [List.length_cons, conversions, hconversion, if_true, hconvert]
          rw [isConversion_of_level (hlast ▸ rfl : level? last.token = some .whole)]
          rfl
        · cases h
      · cases h
  · cases h

theorem alike_of_last {last last' : Placed} {us : List Placed} (h : Alike true [last] us)
    (hlast : last'.token = .finish) : Alike true [last'] us := by
  cases h with
  | ends _ _ hparen hfinal => exact .ends rfl hlast hparen hfinal
  | cons _ h =>
    cases h with
    | nil hclosed => cases hclosed

theorem imitates_conversion (hexpr : Imitates (expression depth) (expression depth')) :
    Imitates (conversion (expression depth)) (conversion (expression depth')) := by
  intro closed ts us ts' e h hread
  obtain ⟨p, hshare, hread⟩ := ok_bind_eq_ok hread
  obtain ⟨e₁, ts₁⟩ := p
  dsimp only at hread
  obtain ⟨hlt, houtcome⟩ := tight_share hexpr h hshare
  unfold conversion
  generalize share (expression depth') us = res at houtcome
  cases houtcome with
  | @alike us₁ h₁ =>
    obtain ⟨e', ts', us', hts', hus', h', hle⟩ := conversions_alike e₁ h₁
    rw [hts'] at hread
    cases hread
    exact ⟨us', congrArg Except.ok hus', h', by omega⟩
  | @deferred t last rest us' units hclosed hmay he hts hunits hlast =>
    subst hts
    obtain ⟨last', hfinish, hconversion⟩ := convertUnits_of_lastConversion? he hunits
    rw [hconversion] at hread
    cases hread
    have hstop := conversions_stop us'.length (.convertUnits e₁ units t.offset)
      (follows_of_last (hclosed ▸ hlast))
    refine ⟨us', congrArg Except.ok hstop, ?_, ?_⟩
    · subst hclosed
      exact alike_of_last hlast hfinish
    · simp only [List.length_cons, List.length_nil] at hlt ⊢
      omega

theorem comparisonRound_alike (hexpr : Imitates (expression depth) (expression depth'))
    {closed : Bool} {ts us : List Placed} (h : Alike closed ts us) (left : Expr)
    (loop : Expr → List Placed → Checked (Expr × List Placed)) :
    RoundAlike closed ts.length (fun e ts' r => Same closed e ts' (r.go loop))
      (comparisonRound (expression depth) left ts)
      (comparisonRound (expression depth') left us) := by
  cases h with
  | nil hclosed => exact .last (Nat.le_refl _) ⟨_, rfl, .nil hclosed⟩
  | @ends last paren final hclosed hlast hparen hfinal =>
    simp only [comparisonRound, hlast, hparen, reduceCtorEq, if_false, compareOp?]
    exact .last (Nat.le_refl _) ⟨_, rfl, .ends hclosed hlast hparen hfinal⟩
  | @cons t ts us ht h =>
    dsimp only [comparisonRound]
    split
    · cases h with
      | nil => exact .failed
      | ends _ hlast =>
        simp only [kindOf?, hlast, Token.wordText?, Option.bind_none]
        exact .failed
      | @cons target ts us htarget h =>
        dsimp only
        split
        · exact .more h (Nat.lt_succ_of_lt (Nat.lt_succ_self _))
        · exact .failed
    · split
      · exact (imitates_conversion hexpr).after h fun right _ _ h₁ hlt =>
          .more h₁ (Nat.lt_succ_of_lt hlt)
      · exact .last (Nat.le_refl _) ⟨_, rfl, .cons ht h⟩

theorem imitates_comparison (hexpr : Imitates (expression depth) (expression depth')) :
    Imitates (comparison (expression depth)) (comparison (expression depth')) := by
  intro closed ts us ts' e h hread
  obtain ⟨p, hleft, hread⟩ := ok_bind_eq_ok hread
  obtain ⟨left, ts₁⟩ := p
  obtain ⟨us₁, hleft', h₁, hlt⟩ := imitates_conversion hexpr h hleft
  obtain ⟨hle, us', hread', h'⟩ := unrolls_comparisons.alike unrolls_comparisons
    (fun left _ _ _ h => comparisonRound_alike hexpr h left _) h₁ (Nat.le_refl _)
    (Nat.le_refl us₁.length) hread
  refine ⟨us', ?_, h', by omega⟩
  simp only [comparison, hleft']
  exact hread'

/-! ## Logic, conditionals and assignments -/

theorem Imitates.leftGrouped {operand operand' : Reader Expr}
    {combine? : Placed → Option (Expr → Expr → Expr)} (hoperand : Imitates operand operand')
    (hend : ∀ t, level? t.token = some .whole → combine? t = none) :
    Imitates (leftGrouped operand combine?) (Grammar.leftGrouped operand' combine?) := by
  intro closed ts us ts' e h hread
  obtain ⟨p, hleft, hread⟩ := ok_bind_eq_ok hread
  obtain ⟨left, ts₁⟩ := p
  obtain ⟨us₁, hleft', h₁, hlt⟩ := hoperand h hleft
  have hoperates : Operates operand operand' combine? := by
    intro closed t ts us ts' e _ halike hright
    cases halike with
    | ends _ hlast hparen =>
      rw [hlast] at hparen
      cases hparen
    | cons _ halike => exact hoperand halike hright
  obtain ⟨us', hread', h', hle⟩ := chain_alike hend hoperates h₁ hread
  refine ⟨us', ?_, h', by omega⟩
  unfold Grammar.leftGrouped
  rw [hleft']
  exact hread'

theorem imitates_disjunction (hexpr : Imitates (expression depth) (expression depth')) :
    Imitates (disjunction (expression depth)) (disjunction (expression depth')) := by
  have hend (op : LogicalOp) (m : Mark) (hm : level? (.mark m) ≠ some .whole) (t : Placed)
      (ht : level? t.token = some .whole) : logical? op m t = none := by
    refine if_neg fun htoken => hm ?_
    rw [← htoken]
    exact ht
  have hconjunction : Imitates (conjunction (expression depth)) (conjunction (expression depth')) :=
    Imitates.leftGrouped (imitates_comparison hexpr) (hend .and .and (by decide))
  exact Imitates.leftGrouped hconjunction (hend .or .or (by decide))

/-- What follows the condition of a conditional. -/
def branches (expr : Reader Expr) (rounds : Nat) (condition : Expr) : Reader Expr
  | ⟨.mark .question, offset⟩ :: rest => do
    let (yes, rest) ← conditionals expr rounds rest
    let rest ← expect .colon "':' in conditional expression" rest
    let (no, rest) ← conditionals expr rounds rest
    .ok (.conditional condition yes no offset, rest)
  | ts => .ok (condition, ts)

theorem conditionals_succ (expr : Reader Expr) (rounds : Nat) (ts : List Placed) :
    conditionals expr (rounds + 1) ts =
      disjunction expr ts >>= fun p => branches expr rounds p.1 p.2 := by
  rfl

theorem branches_stop {ts : List Placed} (h : ∀ t ∈ ts.head?, t.token ≠ .mark .question)
    (expr : Reader Expr) (rounds : Nat) (condition : Expr) :
    branches expr rounds condition ts = .ok (condition, ts) := by
  unfold branches
  split
  · exact absurd rfl (h _ rfl)
  · rfl

/-- Behind a condition the same branches follow, if the same is read behind their
marks. -/
theorem branches_alike {rounds rounds' : Nat}
    (hagain : ∀ {closed : Bool} {e : Expr} {ts us ts' : List Placed}, Alike closed ts us →
      ts.length ≤ rounds → us.length ≤ rounds' → conditionals expr rounds ts = .ok (e, ts') →
      ∃ us', conditionals expr' rounds' us = .ok (e, us') ∧ Alike closed ts' us' ∧
        ts'.length < ts.length)
    {closed : Bool} {condition e : Expr} {ts us ts' : List Placed} (h : Alike closed ts us)
    (hts : ts.length ≤ rounds) (hus : us.length ≤ rounds')
    (hread : branches expr rounds condition ts = .ok (e, ts')) :
    ∃ us', branches expr' rounds' condition us = .ok (e, us') ∧ Alike closed ts' us' ∧
      ts'.length ≤ ts.length := by
  cases h with
  | nil hclosed =>
    cases hread
    exact ⟨[], rfl, .nil hclosed, Nat.le_refl _⟩
  | @ends last paren final hclosed hlast hparen hfinal =>
    rw [branches_stop (by simp [hlast])] at hread
    cases hread
    exact ⟨_, branches_stop (by simp [hparen]) _ _ _, .ends hclosed hlast hparen hfinal,
      Nat.le_refl _⟩
  | @cons t ts us ht h =>
    by_cases hquestion : t.token = .mark .question
    · obtain ⟨token, offset⟩ := t
      subst hquestion
      obtain ⟨p, hyes, hread⟩ := ok_bind_eq_ok hread
      obtain ⟨yes, ts₁⟩ := p
      obtain ⟨ts₂, hcolon, hread⟩ := ok_bind_eq_ok hread
      obtain ⟨q, hno, hread⟩ := ok_bind_eq_ok hread
      obtain ⟨no, ts₃⟩ := q
      cases hread
      have hlength := h.length_eq
      simp only [List.length_cons] at hts hus ⊢
      obtain ⟨us₁, hyes', h₁, hlt₁⟩ := hagain h (by omega) (by omega) hyes
      obtain ⟨us₂, hcolon', h₂, hlt₂⟩ := expect_alike h₁ hcolon
      have hlength₂ := h₂.length_eq
      obtain ⟨us₃, hno', h₃, hlt₃⟩ := hagain h₂ (by omega) (by omega) hno
      refine ⟨us₃, ?_, h₃, by omega⟩
      simp only [branches, hyes']
      dsimp only [bind, Except.bind]
      rw [hcolon']
      dsimp only
      rw [hno']
    · rw [branches_stop (by simpa using hquestion)] at hread
      cases hread
      exact ⟨_, branches_stop (by simpa using hquestion) _ _ _, .cons ht h, Nat.le_refl _⟩

theorem imitates_conditionals (hexpr : Imitates (expression depth) (expression depth'))
    {closed : Bool} {rounds rounds' : Nat} {e : Expr} {ts us ts' : List Placed}
    (h : Alike closed ts us) (hts : ts.length ≤ rounds) (hus : us.length ≤ rounds')
    (hread : conditionals (expression depth) rounds ts = .ok (e, ts')) :
    ∃ us', conditionals (expression depth') rounds' us = .ok (e, us') ∧ Alike closed ts' us' ∧
      ts'.length < ts.length := by
  induction rounds generalizing closed rounds' e ts us ts' with
  | zero =>
    obtain rfl := List.length_eq_zero_iff.1 (Nat.le_zero.1 hts)
    obtain ⟨us', -, -, hlt⟩ := imitates_disjunction hexpr h hread
    exact absurd hlt (Nat.not_lt_zero _)
  | succ rounds ih =>
    rw [conditionals_succ] at hread
    obtain ⟨p, hcondition, hread⟩ := ok_bind_eq_ok hread
    obtain ⟨condition, ts₁⟩ := p
    obtain ⟨us₁, hcondition', h₁, hlt⟩ := imitates_disjunction hexpr h hcondition
    have hlength := h.length_eq
    have hlength₁ := h₁.length_eq
    obtain ⟨n, rfl⟩ : ∃ n, rounds' = n + 1 := ⟨rounds' - 1, by omega⟩
    obtain ⟨us', hread', h', hle⟩ :=
      branches_alike (fun h hts hus => ih h hts hus) h₁ (by omega) (by omega : _ ≤ n) hread
    refine ⟨us', ?_, h', by omega⟩
    rw [conditionals_succ, hcondition']
    exact hread'

theorem imitates_assignment (hexpr : Imitates (expression depth) (expression depth')) :
    Imitates (assignment (expression depth)) (assignment (expression depth')) := by
  intro closed ts us ts' e h hread
  obtain ⟨p, htarget, hread⟩ := ok_bind_eq_ok hread
  obtain ⟨target, ts₁⟩ := p
  obtain ⟨us₁, htarget', h₁, hlt⟩ :=
    imitates_conditionals hexpr h (Nat.le_refl _) (Nat.le_refl us.length) htarget
  unfold assignment Grammar.conditional
  rw [htarget']
  dsimp only [bind, Except.bind]
  dsimp only at hread
  cases h₁ with
  | nil hclosed =>
    cases hread
    exact ⟨[], rfl, .nil hclosed, hlt⟩
  | @ends last paren final hclosed hlast hparen hfinal =>
    simp only [hlast, assignOp?] at hread
    cases hread
    exact ⟨[paren, final], by simp only [hparen, assignOp?], .ends hclosed hlast hparen hfinal, hlt⟩
  | @cons t ts₁ us₁ ht h₁ =>
    dsimp only at hread ⊢
    cases hop : assignOp? t.token with
    | none =>
      simp only [hop] at hread
      cases hread
      exact ⟨t :: us₁, rfl, .cons ht h₁, hlt⟩
    | some compound =>
      simp only [hop] at hread
      dsimp only
      cases hname : targetName? target with
      | none =>
        simp only [hname] at hread
        cases hread
      | some name =>
        simp only [hname] at hread
        obtain ⟨q, hvalue, hread⟩ := ok_bind_eq_ok hread
        obtain ⟨value, ts₂⟩ := q
        cases hread
        obtain ⟨us', hvalue', h', hlt'⟩ := hexpr h₁ hvalue
        refine ⟨us', ?_, h', ?_⟩
        · simp only [hvalue']
        · exact Nat.lt_trans hlt' (Nat.lt_of_succ_lt hlt)

theorem imitates_statement (hexpr : Imitates (expression depth) (expression depth')) :
    Imitates (statement (expression depth)) (statement (expression depth')) := by
  intro closed ts us ts' e h hread
  unfold statement at hread ⊢
  rcases definitionHead?_alike h with ⟨h₁, h₂⟩ | ⟨name, params, vs, ws, h₁, h₂, h', hlt⟩
  · rw [h₁] at hread
    rw [h₂]
    exact imitates_assignment hexpr h hread
  · rw [h₁] at hread
    rw [h₂]
    dsimp only at hread ⊢
    obtain ⟨p, hbody, hread⟩ := ok_bind_eq_ok hread
    obtain ⟨body, ts₁⟩ := p
    obtain ⟨us', hbody', h'', hlt'⟩ := hexpr h' hbody
    have hoffset : (us.head?.map (·.offset)).getD 0 = (ts.head?.map (·.offset)).getD 0 := by
      cases h with
      | nil => rfl
      | ends _ hlast => simp [definitionHead?, hlast, Token.bindingName?] at h₁
      | cons => rfl
    cases hread
    refine ⟨us', ?_, h'', Nat.lt_trans hlt' hlt⟩
    rw [hbody', hoffset]
    rfl

/-- What is read with brackets that nest at most so deep is read with any that
nest deeper, and of all lists that are alike. -/
theorem imitates_expression {depth depth' : Nat} (hdepth : depth ≤ depth') :
    Imitates (expression depth) (expression depth') := by
  induction depth generalizing depth' with
  | zero =>
    intro closed ts us ts' e h hread
    cases hread
  | succ depth ih =>
    obtain ⟨n, rfl⟩ : ∃ n, depth' = n + 1 := ⟨depth' - 1, by omega⟩
    exact imitates_statement (ih (by omega))

end Grammar

end Reckoner
