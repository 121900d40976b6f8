import Reckoner.Proofs.Grammar.Progress

/-!
# Every reader of expressions goes forward

Level by level, from operands to whole expressions: a reader takes a token at least and
never the final one, the nodes of its tree stand at tokens, and its errors are at tokens.
Each lemma is about any reader of what is inside brackets that does so (`hexpr`).  Where a
reader is built on it, at least one token has been taken before it is called, so the depth
that is enough grows by one.  What is filled in into a string is read from tokens of its own,
with the depth that the string counts for (`settles_part`).

* `Grammar.traced_expression`: an expression, by induction on the depth.
* `Expr.settles_ofTokens`: a whole list of tokens.
-/

namespace Reckoner

namespace Expr

variable {P : Expr → Prop}

theorem every_leaf {e : Expr} (here : P e) (hchildren : e.children = []) : e.Every P :=
  .node here (by simp [hchildren])

theorem every_one {e c : Expr} (here : P e) (hchildren : e.children = [c]) (hc : c.Every P) :
    e.Every P :=
  .node here (by simpa [hchildren] using hc)

theorem every_two {e l r : Expr} (here : P e) (hchildren : e.children = [l, r]) (hl : l.Every P)
    (hr : r.Every P) : e.Every P :=
  .node here (by simpa [hchildren] using ⟨hl, hr⟩)

end Expr

namespace Grammar

variable {M : Placed → Prop} {n m : Nat} {expr : Reader Expr} {t : Placed}
  {ts rest : List Placed} {offset : Nat}

/-! ## Operands -/

theorem traced_lambda (hexpr : Traced M n (Expr.Sited M) expr) :
    Traced M (n + 1) (Expr.Sited M) (lambda expr) := by
  intro ts hts
  cases ts with
  | nil => exact traces_nil hts
  | cons t ts =>
    have hbody (params : List String) (us : List Placed) :
        Traces M (n + 1) 1 (Expr.Sited M) us (expect .arrow "'=>'" us >>= fun rest => expr rest >>=
          fun p => .ok (.lambda none params p.1 t.offset, p.2)) :=
      traces_expect_bind (m := n) (l := 1) (by omega) (by omega) fun rest =>
        (hexpr rest).bind (m := n) (by omega) (by omega)
        fun body rest hb => traces_here (Expr.every_one ⟨t, hts t List.mem_cons_self, rfl⟩ rfl hb)
    unfold lambda
    dsimp only
    split
    · rename_i hparen
      refine Traces.behind (m := n + 1) (k := 1) ?_ (by rw [hparen]; simp) (by omega) (by omega) hts
      exact (traced_parameters ts).bind (m := n + 1) (by omega) (by omega) fun params rest _ =>
        hbody params rest
    · split
      · rename_i hname
        exact (hbody _ ts).behind (fun h => by rw [h] at hname; cases hname) (by omega) (by omega) hts
      · exact traces_failAt List.mem_cons_self (by simp) hts

theorem traced_arguments (hexpr : Traced M n (Expr.Sited M) expr) :
    Traced M n (fun es => ∀ e ∈ es, Expr.Sited M e) (arguments expr) :=
  traced_items hexpr .rightParen

theorem traces_call (hexpr : Traced M n (Expr.Sited M) expr) (ho : Placed.At M offset)
    (name : String) : Traces M n 1 (Expr.Sited M) ts
      (arguments expr ts >>= fun p => .ok (.call name p.1 offset, p.2)) :=
  (traced_arguments hexpr ts).bind (m := n) (by omega) (by omega) fun _ _ hargs =>
    traces_here (.node ho hargs)

theorem takes_of_aggregateTarget? {units : List UnitTerm}
    (h : aggregateTarget? ts = some (units, rest)) : Takes 1 ts rest := by
  unfold aggregateTarget? at h
  split at h
  · exact ((takes_of_takeUnits? h).cons (by simp)).mono (Nat.le_succ 1)
  · exact ((takes_of_takeUnits? h).cons (by simp)).mono (Nat.le_succ 1)
  · cases h

theorem traces_aggregate (hexpr : Traced M n (Expr.Sited M) expr) (ho : Placed.At M offset)
    (kind : Aggregate) (function : String) :
    Traces M n 0 (Expr.Sited M) ts (aggregate expr kind function offset ts) := by
  unfold aggregate
  split
  · rename_i rest hrest
    exact (traces_call hexpr ho function).after (takes_of_eat? hrest) (by omega) (by omega)
  · split
    · rename_i htarget
      exact traces_ok (Expr.every_leaf ho rfl) ((takes_of_aggregateTarget? htarget).mono (by omega))
    · exact traces_here (Expr.every_leaf ho rfl)

/-- What starts with a keyword, behind it. -/
theorem traces_keyword (hexpr : Traced M n (Expr.Sited M) expr) (k : Keyword) {t : Placed}
    (ht : M t) : Traces M n 0 (Expr.Sited M) ts (keyword expr k t.offset ts) := by
  have ho : Placed.At M t.offset := ⟨t, ht, rfl⟩
  cases k with
  | true_ | false_ | null | today | tomorrow | yesterday | now =>
    exact traces_here (Expr.every_leaf ho rfl)
  | total | sum | average | avg => exact traces_aggregate hexpr ho _ _
  | to_ | in_ | as_ | of_ | is_ => exact traces_error ⟨t, ht, rfl, by simp⟩

theorem traces_nameOrCall (hexpr : Traced M n (Expr.Sited M) expr) (ho : Placed.At M offset)
    (name : String) : Traces M n 0 (Expr.Sited M) ts (nameOrCall expr name offset ts) := by
  unfold nameOrCall
  split
  · rename_i hrest
    exact (traces_call hexpr ho name).after (takes_of_eat? hrest) (by omega) (by omega)
  · exact traces_here (Expr.every_leaf ho rfl)

/-! ## Literals -/

/-- A literal at a token, with the tokens behind it. -/
theorem traces_literal {c : Checked Expr} (hc : Settles (Expr.Sited M) (Blames M) c) :
    Traces M n 0 (Expr.Sited M) ts (do return (← c, ts)) := by
  intro _
  cases hc with
  | ok he => exact .ok ⟨he, takes_refl ts⟩
  | error he => exact .error fun _ _ => he

theorem settles_invalidLiteral {α : Type} {P : α → Prop} {t : Placed} (ht : M t) (text : String) :
    Settles P (Blames M) (failAt t.offset (.invalidLiteral text)) :=
  .error ⟨t, ht, rfl, by simp⟩

theorem settles_numberLiteral {t : Placed} (ht : M t) (text : String) (units : List UnitTerm) :
    Settles (Expr.Sited M) (Blames M) (numberLiteral text units t.offset) := by
  unfold numberLiteral
  split
  · exact .ok (Expr.every_leaf ⟨t, ht, rfl⟩ rfl)
  · exact settles_invalidLiteral ht text

theorem settles_dayOf {t : Placed} (ht : M t) (text : List Char) :
    Settles (fun _ => True) (Blames M) (dayOf text t.offset) := by
  unfold dayOf
  split
  · exact .ok trivial
  · exact settles_invalidLiteral ht _

theorem settles_timeOf {t : Placed} (ht : M t) (text : List Char) :
    Settles (fun _ => True) (Blames M) (timeOf text t.offset) := by
  unfold timeOf
  split
  · split
    · exact .ok trivial
    · exact settles_invalidLiteral ht _
  · exact settles_invalidLiteral ht _

theorem settles_dayLiteral {t : Placed} (ht : M t) (text : String) :
    Settles (Expr.Sited M) (Blames M) (dayLiteral text t.offset) := by
  have hday := settles_dayOf ht text.toList
  unfold dayLiteral
  generalize dayOf text.toList t.offset = res at hday
  cases hday with
  | ok _ => exact .ok (Expr.every_leaf ⟨t, ht, rfl⟩ rfl)
  | error h => exact .error h

theorem settles_timeLiteral {t : Placed} (ht : M t) (text : String) :
    Settles (Expr.Sited M) (Blames M) (timeLiteral text t.offset) := by
  have htime := settles_timeOf ht text.toList
  unfold timeLiteral
  generalize timeOf text.toList t.offset = res at htime
  cases htime with
  | ok _ => exact .ok (Expr.every_leaf ⟨t, ht, rfl⟩ rfl)
  | error h => exact .error h

theorem settles_momentLiteral {t : Placed} (ht : M t) (text : String) :
    Settles (Expr.Sited M) (Blames M) (momentLiteral text t.offset) := by
  unfold momentLiteral
  split
  · exact (settles_dayOf ht _).bind fun day _ => (settles_timeOf ht _).bind fun p _ =>
      .ok (Expr.every_leaf ⟨t, ht, rfl⟩ rfl)
  · exact settles_invalidLiteral ht text

/-! ## Strings and objects -/

/-- A whole list of tokens. -/
theorem settles_complete (hexpr : Traced M n (Expr.Sited M) expr) (hts : ∀ t ∈ ts, M t) :
    Settles (Expr.Sited M) (fun e => Ended ts → depthBound ts ≤ n → Blames M e)
      (complete expr ts) := by
  have hread := hexpr ts hts
  unfold complete
  generalize expr ts = res at hread
  cases hread with
  | error h => exact .error h
  | @ok p h =>
    obtain ⟨e, rest⟩ := p
    cases rest with
    | nil => exact .ok h.1
    | cons t rest =>
      dsimp only
      split
      · exact .ok h.1
      · have ht : M t := hts t (h.2.suffix.subset List.mem_cons_self)
        exact .error fun _ _ => ⟨t, ht, rfl, by simp⟩

theorem ended_tokensAt (text : String) (offset : Nat) : Ended (tokensAt text offset) := by
  refine ⟨_, List.mem_map_of_mem (List.mem_append_right _ List.mem_cons_self), rfl⟩

theorem depthBound_tokensAt (text : String) (offset : Nat) :
    depthBound (tokensAt text offset) ≤ text.length + 2 := by
  have hdepth : depthOf (tokensAt text offset) = depthOf (Token.tokenize text) := by
    rw [depthOf, tokensAt, List.map_map]
    rfl
  rw [depthBound_eq, hdepth, ← depthBound_eq]
  exact Token.depthBound_tokenize text

/-- What is filled in is read from the tokens of a source of its own, which has a final token
and nests no deeper than the string counts for. -/
theorem settles_part (hM : Placed.Closed M) (hexpr : Traced M n (Expr.Sited M) expr) {t : Placed}
    (ht : M t) {quote : Quote} {segments : List Segment} (hstring : t.token = .string quote segments)
    {segment : Segment} (hsegment : segment ∈ segments) :
    Settles (fun p => ∀ e, p.code? = some e → e.Sited M)
      (fun e => tokenDepth t.token ≤ n + 1 → Blames M e) (part expr segment) := by
  cases segment with
  | text content => exact .ok (by simp [Part.code?])
  | code source offset =>
    have hlt := segmentDepth_lt quote hsegment
    rw [segmentDepth, ← hstring] at hlt
    have hread := settles_complete hexpr (hM t ht quote segments hstring source offset hsegment)
    have hbound := depthBound_tokensAt source offset
    refine (hread.imp (fun _ h => h) fun e he hdepth => ?_).bind fun e he =>
      .ok (by simpa [Part.code?] using he)
    exact he (ended_tokensAt source offset) (by omega)

theorem traced_entryKey : Traced M n (fun _ => True) entryKey := by
  intro ts
  cases ts with
  | nil => exact traces_nil
  | cons t ts =>
    by_cases hfinish : t.token = .finish
    · unfold entryKey
      simp only [hfinish, Token.wordText?]
      exact traces_failAt (t := t) List.mem_cons_self (by simp)
    · unfold entryKey
      dsimp only
      split
      · exact traces_ok trivial (takes_one hfinish)
      · exact traces_ok trivial (takes_one hfinish)
      · split
        · exact traces_ok trivial (takes_one hfinish)
        · exact traces_failAt List.mem_cons_self (by simp)

theorem traced_entry (hexpr : Traced M n (Expr.Sited M) expr) :
    Traced M n (fun p => Expr.Sited M p.2) (entry expr) := by
  intro ts
  refine (traced_entryKey ts).bind (m := n) (l := 0) (by omega) (by omega) fun key rest _ =>
    traces_expect_bind (m := n) (l := 0) (by omega) (by omega)
    fun rest => ?_
  exact (hexpr rest).bind (m := n) (by omega) (by omega) fun value rest hvalue => traces_here hvalue

/-! ## Operands -/

theorem traces_currency {t : Placed} (ht : M t) (code : String) :
    Traces M n 0 (Expr.Sited M) ts (currency code t.offset ts) := by
  unfold currency
  split
  · exact (traces_literal (n := n) (settles_numberLiteral ht _ _)).behind (by simp)
      (by omega) (by omega)
  · exact traces_here (Expr.every_leaf ⟨t, ht, rfl⟩ rfl)

/-- What starts with a token, together with this token. -/
theorem traces_operandAt (hM : Placed.Closed M) (hexpr : Traced M n (Expr.Sited M) expr)
    (t : Placed) (ts : List Placed) :
    Traces M (n + 1) 1 (Expr.Sited M) (t :: ts) (operandAt expr t ts) := by
  intro hts
  have ht : M t := hts t List.mem_cons_self
  have ho : Placed.At M t.offset := ⟨t, ht, rfl⟩
  -- What is read behind the token, which is not the final one.
  have hbehind (hfinish : t.token ≠ .finish) {c : Checked (Expr × List Placed)}
      (hc : Traces M n 0 (Expr.Sited M) ts c) :
      Settles (fun p => Expr.Sited M p.1 ∧ Takes 1 (t :: ts) p.2)
        (fun e => Ended (t :: ts) → depthBound (t :: ts) ≤ n + 1 → Blames M e) c :=
    hc.behind hfinish (by omega) (by omega) hts
  rcases t with ⟨token, offset⟩
  unfold operandAt
  cases token with
  | number text => exact hbehind (by simp) (traces_literal (settles_numberLiteral ht _ _))
  | currency code => exact hbehind (by simp) (traces_currency ht code)
  | string quote segments =>
    have hparts := settles_mapM fun segment (hsegment : segment ∈ segments) =>
      settles_part hM hexpr ht rfl hsegment
    refine (hparts.imp (fun _ h => h) fun e he _ hdepth => ?_).bind fun parts hparts =>
      .ok ⟨.node ho fun e he => ?_, takes_one (by simp)⟩
    · rw [depthBound_cons] at hdepth
      exact he (by omega)
    · obtain ⟨p, hp, hcode⟩ := List.mem_filterMap.1 he
      exact hparts p hp e hcode
  | day text => exact hbehind (by simp) (traces_literal (settles_dayLiteral ht text))
  | time text => exact hbehind (by simp) (traces_literal (settles_timeLiteral ht text))
  | dayTime text => exact hbehind (by simp) (traces_literal (settles_momentLiteral ht text))
  | keyword k => exact hbehind (by simp) (traces_keyword hexpr k ht)
  | constant text =>
    refine hbehind (by simp) ?_
    dsimp only
    split
    · exact traces_here (Expr.every_leaf ho rfl)
    · exact traces_here (Expr.every_leaf ho rfl)
  | function text | name text | unit text | zone text =>
    exact hbehind (by simp) (traces_nameOrCall hexpr ho text)
  | finish => exact traces_failAt (t := ⟨.finish, offset⟩) List.mem_cons_self (fun _ => rfl) hts
  | mark m =>
    cases m with
    | leftParen =>
      exact hbehind (by simp) ((hexpr ts).bind (m := n) (l := 0)
        (by omega) (by omega) fun e rest he =>
        traces_expect_bind (m := n) (l := 0) (by omega) (by omega) fun rest => traces_here he)
    | leftBracket =>
      exact hbehind (by simp) ((traced_items hexpr .rightBracket ts).bind (m := n)
          (by omega) (by omega)
        fun es rest hes => traces_here (.node ho hes))
    | leftBrace =>
      refine hbehind (by simp) ((traced_items (traced_entry hexpr) .rightBrace ts).bind (m := n)
          (by omega) (by omega)
        fun es rest hes => traces_here (.node ho fun e he => ?_))
      obtain ⟨p, hp, rfl⟩ := List.mem_map.1 he
      exact hes p hp
    | _ => exact traces_failAt (t := ⟨.mark _, offset⟩) List.mem_cons_self (by simp) hts

theorem traced_operand (hM : Placed.Closed M) (hexpr : Traced M n (Expr.Sited M) expr) :
    Traced M (n + 1) (Expr.Sited M) (operand expr) := by
  intro ts
  unfold operand
  split
  · exact traced_lambda hexpr ts
  · split
    · exact traces_nil
    · exact traces_operandAt hM hexpr _ _

/-! ## What follows an operand -/

theorem traced_property : Traced M n (Expr.Sited M) property := by
  intro ts hts
  unfold property
  split
  · exact traces_nil hts
  · rename_i t ts
    split
    · rename_i hname
      exact traces_ok (.node ⟨t, hts t List.mem_cons_self, rfl⟩ (by simp [Expr.children, Part.code?]))
        (takes_one fun h => by rw [h] at hname; cases hname) hts
    · exact traces_failAt List.mem_cons_self (by simp) hts

theorem takes_of_conversionAhead? {units : List UnitTerm}
    (h : conversionAhead? ts = some (units, rest)) : Takes 1 ts rest := by
  unfold conversionAhead? at h
  split at h
  · split at h
    · rename_i hahead
      split at h
      · cases h
      · rename_i hunits
        split at h
        · cases h
        · cases h
          refine ((takes_of_takeUnits? hunits).cons fun hfinish => ?_).mono (Nat.le_succ 1)
          simp [hfinish, isConversion] at hahead
      · cases h
    · cases h
  · cases h

/-- What a number is made of with the units behind it. -/
theorem numberSuffix?_spec {e e' : Expr} (he : e.Sited M) (hts : ∀ t ∈ ts, M t)
    (h : numberSuffix? e ts = some (e', rest)) : e'.Sited M ∧ Takes 1 ts rest := by
  unfold numberSuffix? at h
  split at h
  · obtain ⟨⟨units, rest'⟩, hunits, heq⟩ := Option.map_eq_some_iff.1 h
    cases heq
    exact ⟨Expr.every_leaf he.here rfl, takes_of_takeUnits? hunits⟩
  · split at h
    · obtain ⟨⟨units, rest'⟩, hunits, heq⟩ := Option.map_eq_some_iff.1 h
      cases heq
      exact ⟨Expr.every_one ⟨_, hts _ List.mem_cons_self, rfl⟩ rfl he,
        takes_of_conversionAhead? hunits⟩
    · cases h
  · cases h

theorem inZone?_sited {e e' : Expr} {zone : String} (he : e.Sited M)
    (h : e.inZone? zone = some e') : e'.Sited M := by
  have ho := he.here
  unfold Expr.inZone? at h
  split at h
  all_goals cases h
  all_goals exact Expr.every_leaf ho rfl

theorem roundTraces_suffix (hexpr : Traced M n (Expr.Sited M) expr) {e : Expr} (he : e.Sited M) :
    RoundTraces M (n + 1) 0 (Expr.Sited M) (Expr.Sited M) ts (suffixRound expr e ts) := by
  refine roundTraces_of_forall fun hts => ?_
  -- The node that a round makes stands at the token that it starts from.
  have ho {t : Placed} {rest : List Placed} (hts : ∀ u ∈ t :: rest, M u) : Placed.At M t.offset :=
    ⟨t, hts t List.mem_cons_self, rfl⟩
  fun_cases suffixRound expr e ts with
  | case2 t rest htoken =>
    refine RoundTraces.after (traced_property (n := n) rest) (takes_one (by simp [htoken]))
      (Nat.le_refl _) fun key us hkey hus => ?_
    exact roundTraces_more (Expr.every_two (ho hts) rfl he hkey) (hus.mono (Nat.le_succ 1))
  | case3 t rest htoken =>
    refine RoundTraces.after (hexpr.before _ _ rest) (takes_one (by simp [htoken]))
      (Nat.le_refl _) fun key us hkey hus => ?_
    exact roundTraces_more (Expr.every_two (ho hts) rfl he hkey) (hus.mono (Nat.le_succ 1))
  | case4 t rest htoken hcallable =>
    refine RoundTraces.after (traced_arguments hexpr rest) (takes_one (by simp [htoken]))
      (Nat.le_refl _) fun args us hargs hus => ?_
    exact roundTraces_more (.node (ho hts) (List.forall_mem_cons.2 ⟨he, hargs⟩))
      (hus.mono (Nat.le_succ 1))
  | case6 t rest htoken hpercent =>
    exact roundTraces_more (Expr.every_one (ho hts) rfl he) (takes_one (by simp [htoken]))
  | case8 t rest name htoken e' hzone =>
    exact roundTraces_more (inZone?_sited he hzone) (takes_one (by simp [htoken]))
  | case10 t rest e' rest' hsuffix =>
    obtain ⟨he', htakes⟩ := numberSuffix?_spec he hts hsuffix
    exact roundTraces_more he' htakes
  | _ => exact (traces_here he).last

theorem traced_suffixed (hM : Placed.Closed M) (hexpr : Traced M n (Expr.Sited M) expr) :
    Traced M (n + 1) (Expr.Sited M) (suffixed expr) :=
  fun ts => (traced_operand hM hexpr ts).bind (m := n + 1) (by omega) (by omega) fun _ _ he =>
    unrolls_suffixes.traces (fun _ _ he => roundTraces_suffix hexpr he) he (Nat.le_refl _)

/-! ## Operators -/

/-- An operator whose node stands at its own token. -/
def Attaches (M : Placed → Prop) (combine? : Placed → Option (Expr → Expr → Expr)) : Prop :=
  ∀ {t combine}, combine? t = some combine →
    t.token ≠ .finish ∧ ∀ {l r}, M t → Expr.Sited M l → Expr.Sited M r → (combine l r).Sited M

theorem roundTraces_chain {operand : Reader Expr} (hoperand : Traced M n (Expr.Sited M) operand)
    {combine? : Placed → Option (Expr → Expr → Expr)} (hcombine : Attaches M combine?)
    {left : Expr} (hleft : left.Sited M) :
    RoundTraces M n 0 (Expr.Sited M) (Expr.Sited M) ts (chainRound operand combine? left ts) := by
  refine roundTraces_of_forall fun hts => ?_
  fun_cases chainRound operand combine? left ts with
  | case2 t rest combine heq =>
    obtain ⟨hfinish, hnode⟩ := hcombine heq
    refine RoundTraces.after (hoperand rest) (takes_one hfinish) (Nat.le_succ n)
      fun right us hright hus => ?_
    exact roundTraces_more (hnode (hts t List.mem_cons_self) hleft hright)
      (hus.mono (Nat.le_succ 1))
  | _ => exact (traces_here hleft).last

theorem traced_leftGrouped {operand : Reader Expr} (hoperand : Traced M n (Expr.Sited M) operand)
    {combine? : Placed → Option (Expr → Expr → Expr)} (hcombine : Attaches M combine?) :
    Traced M n (Expr.Sited M) (leftGrouped operand combine?) :=
  fun ts => (hoperand ts).bind (m := n) (by omega) (by omega) fun _ _ hleft =>
    unrolls_chain.traces (fun _ _ hleft => roundTraces_chain hoperand hcombine hleft) hleft
      (Nat.le_refl _)

theorem traced_unary (hM : Placed.Closed M) (hexpr : Traced M n (Expr.Sited M) expr) :
    Traced M (n + 1) (Expr.Sited M) (unary expr) := by
  intro ts
  induction ts with
  | nil => exact traced_suffixed hM hexpr []
  | cons t rest ih =>
    intro hts
    have ho : Placed.At M t.offset := ⟨t, hts t List.mem_cons_self, rfl⟩
    revert hts
    unfold unary
    split
    · rename_i hop
      refine Traces.behind (m := n + 1) (k := 1) ?_ (fun h => by rw [h] at hop; cases hop)
        (by omega) (by omega)
      exact ih.bind (m := n) (by omega) (by omega) fun e rest he =>
        traces_here (Expr.every_one ho rfl he)
    · exact traced_suffixed hM hexpr _

theorem attaches_plain {op? : Token → Option BinaryOp} (hop? : op? .finish = none) :
    Attaches M (plain? op?) := by
  intro t combine h
  obtain ⟨op, hop, rfl⟩ := Option.map_eq_some_iff.1 h
  refine ⟨fun hfinish => ?_, fun ht hl hr => Expr.every_two ⟨t, ht, rfl⟩ rfl hl hr⟩
  rw [hfinish, hop?] at hop
  cases hop

theorem traced_bitwise (hM : Placed.Closed M) (hexpr : Traced M n (Expr.Sited M) expr) :
    Traced M (n + 1) (Expr.Sited M) (bitwise expr) :=
  traced_leftGrouped (traced_unary hM hexpr) (attaches_plain rfl)

theorem traced_powerChain (hM : Placed.Closed M) (hexpr : Traced M n (Expr.Sited M) expr)
    (rounds : Nat) : Traced M (n + 1) (Expr.Sited M) (powerChain expr rounds) := by
  induction rounds with
  | zero => exact traced_bitwise hM hexpr
  | succ rounds ih =>
    intro ts
    refine (traced_bitwise hM hexpr ts).bind (m := n + 1) (l := 0) (by omega) (by omega)
      fun left rest hleft hrest => ?_
    revert hrest
    dsimp only
    split
    · rename_i offset rest
      intro hrest
      have ho : Placed.At M offset := ⟨_, hrest _ List.mem_cons_self, rfl⟩
      refine Traces.behind (m := n + 1) (k := 1) ?_ (by simp) (by omega) (by omega) hrest
      exact (ih rest).bind (m := n) (by omega) (by omega) fun right rest hright =>
        traces_here (Expr.every_two ho rfl hleft hright)
    · exact traces_here hleft

theorem combineShares_sited {op : BinaryOp} {l r : Expr} (ho : Placed.At M offset)
    (hl : l.Sited M) (hr : r.Sited M) : (combineShares op offset l r).Sited M := by
  unfold combineShares
  split
  · have hx := hl.child _ List.mem_cons_self
    have hy := hr.child _ List.mem_cons_self
    exact Expr.every_one hl.here rfl (Expr.every_two ho rfl hx hy)
  · exact Expr.every_two ho rfl hl (Expr.every_two ho rfl hl hr)
  · exact Expr.every_two ho rfl hl hr

theorem calendarAmount?_sited {e amount : Expr} {unit : CalendarUnit} (he : e.Sited M)
    (h : calendarAmount? e = some (amount, unit)) : amount.Sited M := by
  unfold calendarAmount? at h
  split at h
  · split at h
    · obtain ⟨_, _, heq⟩ := Option.map_eq_some_iff.1 h
      cases heq
      exact Expr.every_leaf he.here rfl
    · cases h
  · cases h

theorem combineSum_sited {op : BinaryOp} {l r : Expr} (ho : Placed.At M offset) (hl : l.Sited M)
    (hr : r.Sited M) : (combineSum op offset l r).Sited M := by
  unfold combineSum
  split
  · split
    · rename_i hamount
      exact Expr.every_two ho rfl hl (calendarAmount?_sited hr hamount)
    · exact combineShares_sited ho hl hr
  · exact combineShares_sited ho hl hr

theorem traced_power (hM : Placed.Closed M) (hexpr : Traced M n (Expr.Sited M) expr) :
    Traced M (n + 1) (Expr.Sited M) (power expr) :=
  fun ts => traced_powerChain hM hexpr ts.length ts

theorem traced_product (hM : Placed.Closed M) (hexpr : Traced M n (Expr.Sited M) expr) :
    Traced M (n + 1) (Expr.Sited M) (product expr) :=
  traced_leftGrouped (traced_power hM hexpr) (attaches_plain rfl)

theorem attaches_sum :
    Attaches M fun t => (sumOp? t.token).map fun op => combineSum op t.offset := by
  intro t combine h
  obtain ⟨op, hop, rfl⟩ := Option.map_eq_some_iff.1 h
  refine ⟨fun hfinish => ?_, fun ht hl hr => combineSum_sited ⟨t, ht, rfl⟩ hl hr⟩
  rw [hfinish] at hop
  cases hop

theorem traced_sum (hM : Placed.Closed M) (hexpr : Traced M n (Expr.Sited M) expr) :
    Traced M (n + 1) (Expr.Sited M) (sum expr) :=
  traced_leftGrouped (traced_product hM hexpr) attaches_sum

theorem traced_share (hM : Placed.Closed M) (hexpr : Traced M n (Expr.Sited M) expr) :
    Traced M (n + 1) (Expr.Sited M) (share expr) :=
  traced_leftGrouped (traced_sum hM hexpr) (attaches_plain rfl)

/-! ## Conversions, comparisons and logic -/

/-- The target of a conversion: it takes a word, so never the final token. -/
theorem convert?_spec {e e' : Expr} {target : Placed} {rest rest' : List Placed}
    (ho : Placed.At M offset) (he : e.Sited M) (h : convert? e offset target rest = some (e', rest')) :
    e'.Sited M ∧ Takes 1 (target :: rest) rest' := by
  unfold convert? at h
  split at h
  · rename_i kind hkind
    cases h
    refine ⟨Expr.every_one ho rfl he, takes_one fun hfinish => ?_⟩
    rw [kindOf?, hfinish] at hkind
    cases hkind
  · dsimp only at h
    split at h
    · rename_i hzone _
      cases h
      exact ⟨Expr.every_one ho rfl he, takes_one (by simp [hzone])⟩
    · split at h
      · rename_i hunits
        cases h
        split at hunits
        · cases hunits
        · exact ⟨Expr.every_one ho rfl he, takes_of_takeUnits? hunits⟩
      · rename_i hword
        cases h
        refine ⟨Expr.every_one ho rfl he, takes_one fun hfinish => ?_⟩
        rw [hfinish] at hword
        split at hword
        · cases hword
        · cases hword
      · cases h

theorem ne_finish_of_isConversion {t : Token} (h : isConversion t = true) : t ≠ .finish := by
  rintro rfl
  cases h

theorem roundTraces_conversion {e : Expr} (he : e.Sited M) :
    RoundTraces M n 0 (Expr.Sited M) (Expr.Sited M) ts (conversionRound e ts) := by
  refine roundTraces_of_forall fun hts => ?_
  fun_cases conversionRound e ts with
  | case2 t hkeyword =>
    have htakes : Takes 1 [t] [] := takes_one (ne_finish_of_isConversion hkeyword)
    exact (traces_ok he (htakes.mono (Nat.zero_le 1))).last
  | case3 t hkeyword target rest e' rest' hconvert =>
    have ho : Placed.At M t.offset := ⟨t, hts t List.mem_cons_self, rfl⟩
    obtain ⟨he', htakes⟩ := convert?_spec ho he hconvert
    exact roundTraces_more he'
      ((htakes.cons (ne_finish_of_isConversion hkeyword)).mono (Nat.le_succ 1))
  | case4 t hkeyword target rest hconvert =>
    exact roundTraces_more he (takes_one (ne_finish_of_isConversion hkeyword))
  | _ => exact (traces_here he).last

theorem traced_conversion (hM : Placed.Closed M) (hexpr : Traced M n (Expr.Sited M) expr) :
    Traced M (n + 1) (Expr.Sited M) (conversion expr) :=
  fun ts => (traced_share hM hexpr ts).bind (m := n) (by omega) (by omega) fun _ _ he =>
    unrolls_conversions.traces (fun _ _ he => roundTraces_conversion he) he (Nat.le_refl _)

theorem roundTraces_comparison (hM : Placed.Closed M) (hexpr : Traced M n (Expr.Sited M) expr)
    {left : Expr} (hleft : left.Sited M) :
    RoundTraces M (n + 1) 0 (Expr.Sited M) (Expr.Sited M) ts (comparisonRound expr left ts) := by
  refine roundTraces_of_forall fun hts => ?_
  have ho {t : Placed} {rest : List Placed} (hts : ∀ u ∈ t :: rest, M u) : Placed.At M t.offset :=
    ⟨t, hts t List.mem_cons_self, rfl⟩
  fun_cases comparisonRound expr left ts with
  | case2 t htoken =>
    have hnil : Traces M n 0 (Expr.Sited M) [] (failAt t.offset .unexpectedEnd) := traces_nil
    exact (hnil.behind (by simp [htoken]) (Nat.le_refl _) (Nat.zero_le _)).last
  | case3 t htoken target rest kind hkind =>
    refine roundTraces_more (Expr.every_one (ho hts) rfl hleft) ?_
    have htarget : target.token ≠ .finish := fun hfinish => by
      rw [kindOf?, hfinish] at hkind
      cases hkind
    exact ((takes_one htarget).cons (by simp [htoken])).mono (Nat.le_succ 1)
  | case4 t htoken target rest hkind =>
    exact (traces_failAt (List.mem_cons_of_mem _ List.mem_cons_self) (by simp)).last
  | case5 t rest htoken op hop =>
    refine RoundTraces.after (traced_conversion hM hexpr rest)
      (takes_one fun hfinish => by rw [hfinish] at hop; cases hop) (Nat.le_succ _)
      fun right us hright hus => ?_
    exact roundTraces_more (Expr.every_two (ho hts) rfl hleft hright) (hus.mono (Nat.le_succ 1))
  | _ => exact (traces_here hleft).last

theorem attaches_logical (op : LogicalOp) (m : Mark) : Attaches M (logical? op m) := by
  intro t combine h
  unfold logical? at h
  split at h
  · rename_i heq
    cases h
    exact ⟨by simp [heq], fun ht hl hr => Expr.every_two ⟨t, ht, rfl⟩ rfl hl hr⟩
  · cases h

theorem traced_comparison (hM : Placed.Closed M) (hexpr : Traced M n (Expr.Sited M) expr) :
    Traced M (n + 1) (Expr.Sited M) (comparison expr) :=
  fun ts => (traced_conversion hM hexpr ts).bind (m := n + 1) (by omega) (by omega)
    fun _ _ hleft => unrolls_comparisons.traces
      (fun _ _ hleft => roundTraces_comparison hM hexpr hleft) hleft (Nat.le_refl _)

theorem traced_conjunction (hM : Placed.Closed M) (hexpr : Traced M n (Expr.Sited M) expr) :
    Traced M (n + 1) (Expr.Sited M) (conjunction expr) :=
  traced_leftGrouped (traced_comparison hM hexpr) (attaches_logical _ _)

theorem traced_disjunction (hM : Placed.Closed M) (hexpr : Traced M n (Expr.Sited M) expr) :
    Traced M (n + 1) (Expr.Sited M) (disjunction expr) :=
  traced_leftGrouped (traced_conjunction hM hexpr) (attaches_logical _ _)

/-! ## Whole expressions -/

theorem traced_conditionals (hM : Placed.Closed M) (hexpr : Traced M n (Expr.Sited M) expr)
    (rounds : Nat) : Traced M (n + 1) (Expr.Sited M) (conditionals expr rounds) := by
  induction rounds with
  | zero => exact traced_disjunction hM hexpr
  | succ rounds ih =>
    intro ts
    refine (traced_disjunction hM hexpr ts).bind (m := n + 1) (l := 0)
      (by omega) (by omega) fun c rest hc hrest => ?_
    revert hrest
    dsimp only
    split
    · rename_i offset rest
      intro hrest
      have ho : Placed.At M offset := ⟨_, hrest _ List.mem_cons_self, rfl⟩
      refine Traces.behind (m := n + 1) (k := 1) ?_ (by simp) (by omega) (by omega) hrest
      refine (ih rest).bind (m := n + 1) (l := 0) (by omega) (by omega) fun yes rest hyes =>
        traces_expect_bind
        (m := n + 1) (l := 0) (by omega) (by omega) fun rest => (ih rest).bind (m := n + 1)
          (by omega) (by omega) fun no rest hno =>
          traces_here (.node ho ?_)
      simpa [Expr.children] using ⟨hc, hyes, hno⟩
    · exact traces_here hc

theorem traced_conditional (hM : Placed.Closed M) (hexpr : Traced M n (Expr.Sited M) expr) :
    Traced M (n + 1) (Expr.Sited M) (conditional expr) :=
  fun ts => traced_conditionals hM hexpr ts.length ts

theorem traced_assignment (hM : Placed.Closed M) (hexpr : Traced M n (Expr.Sited M) expr) :
    Traced M (n + 1) (Expr.Sited M) (assignment expr) := by
  intro ts
  refine (traced_conditional hM hexpr ts).bind (m := n + 1) (l := 0) (by omega) (by omega)
    fun target rest htarget hrest => ?_
  cases rest with
  | nil => exact traces_here htarget hrest
  | cons t rest =>
    have ho : Placed.At M t.offset := ⟨t, hrest t List.mem_cons_self, rfl⟩
    revert hrest
    dsimp only
    split
    · exact traces_here htarget
    · rename_i hop
      split
      · exact traces_failAt List.mem_cons_self (by simp)
      · refine Traces.behind (m := n) (k := 1) ?_ (fun h => by rw [h] at hop; cases hop)
          (by omega) (by omega)
        exact (hexpr rest).bind (m := n) (by omega) (by omega) fun value rest hvalue =>
          traces_here (Expr.every_one ho rfl hvalue)

/-- The head of a definition goes up to the equals sign. -/
theorem takes_of_definitionHead? {name : String} {params : List String}
    (h : definitionHead? ts = some (name, params, rest)) : Takes 1 ts rest := by
  unfold definitionHead? at h
  split at h
  · split at h
    · rename_i us hname hparen
      have hparams := traced_parameters (M := fun _ => True) (n := 0) us fun _ _ => trivial
      split at h
      · rename_i heq
        rw [heq] at hparams
        cases hparams with
        | ok hp =>
          obtain ⟨rest', hrest', heq'⟩ := Option.map_eq_some_iff.1 h
          cases heq'
          have hbehind := ((takes_of_eat? hparen).trans hp.2).trans (takes_of_eat? hrest')
          refine (hbehind.cons fun hfinish => ?_).mono (by omega)
          rw [hfinish] at hname
          cases hname
      · cases h
    · cases h
  · cases h

theorem traced_statement (hM : Placed.Closed M) (hexpr : Traced M n (Expr.Sited M) expr) :
    Traced M (n + 1) (Expr.Sited M) (statement expr) := by
  intro ts
  unfold statement
  split
  · rename_i hhead
    have htakes := takes_of_definitionHead? hhead
    intro hts
    have ho : Placed.At M ((ts.head?.map (·.offset)).getD 0) := by
      cases ts with
      | nil => cases hhead
      | cons t ts => exact ⟨t, hts t List.mem_cons_self, rfl⟩
    refine Traces.after (m := n) (k := 1) ?_ htakes (by omega) (by omega) hts
    exact (hexpr _).bind (m := n) (by omega) (by omega) fun body rest hbody =>
      traces_here (Expr.every_one ho rfl (Expr.every_one ho rfl hbody))
  · exact traced_assignment hM hexpr ts

theorem traced_expression (hM : Placed.Closed M) (depth : Nat) :
    Traced M depth (Expr.Sited M) (expression depth) := by
  induction depth with
  | zero =>
    refine fun ts _ => .error fun _ hdepth => ?_
    have hpos := length_lt_depthBound ts
    omega
  | succ depth ih => exact traced_statement hM ih

end Grammar

namespace Expr

open Grammar (Settles Ended Blames)

/-- A list of tokens with a final one: every node stands at one of the tokens that are read,
and so does an error. -/
theorem settles_ofTokens {M : Placed → Prop} (hM : Placed.Closed M) {ts : List Placed}
    (hts : ∀ t ∈ ts, M t) (hended : Ended ts) : Settles (Sited M) (Blames M) (ofTokens ts) :=
  (Grammar.settles_complete (Grammar.traced_expression hM _) hts).imp (fun _ h => h)
    fun _ he => he hended (Nat.le_refl _)

end Expr

end Reckoner
