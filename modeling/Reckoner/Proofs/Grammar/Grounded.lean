import Reckoner.Proofs.Grammar.Units

/-!
# Grounded trees

The readers of expressions find grounded trees in known tokens, level by level
from operands to whole expressions.  Each lemma is about any reader of what is
inside brackets that does so (`hexpr`), and `finds_expression` ties the knot by
induction on the depth of nesting.

A string that is filled in is read from its own source, whose tokens are known
because they are tokens of a source (`finds_operandAt`).

* `Expr.parse_grounded`: the tree of every source is grounded.
* `Expr.parse_error`: what a source that cannot be read fails with is never
  about an unknown unit.
* `Expr.Written`: the trees of sources and their parts, for which the bodies of
  functions are taken.
-/

namespace Reckoner

namespace Grammar

variable {expr : Reader Expr}

/-! ## Operands -/

theorem finds_lambda (hexpr : Finds Expr.Grounded expr) : Finds Expr.Grounded (lambda expr) := by
  intro ts hts
  have hbody {rest : List Placed} (params : List String) (offset : Nat)
      (hrest : ∀ t ∈ rest, t.Known) :
      Reads Expr.Grounded (expect .arrow "'=>'" rest >>= fun rest => expr rest >>= fun p =>
        .ok (.lambda none params p.1 offset, p.2)) :=
    gives_expect_bind hrest fun rest hrest => (hexpr rest hrest).bind fun body rest hb hrest =>
      reads_ok (Expr.grounded_one trivial rfl hb) hrest
  cases ts with
  | nil => exact gives_failAt rfl
  | cons t rest =>
    unfold lambda
    dsimp only
    split
    · exact (finds_parameters rest (known_of_cons hts)).bind fun params rest _ hrest =>
        hbody params t.offset hrest
    · split
      · exact hbody _ t.offset (known_of_cons hts)
      · exact .error rfl

theorem finds_arguments (hexpr : Finds Expr.Grounded expr) :
    Finds (fun es => ∀ e ∈ es, Expr.Grounded e) (arguments expr) :=
  finds_items hexpr .rightParen

theorem reads_call (hexpr : Finds Expr.Grounded expr) {ts : List Placed}
    (hts : ∀ t ∈ ts, t.Known) (name : String) (offset : Nat) :
    Reads Expr.Grounded (arguments expr ts >>= fun p => .ok (.call name p.1 offset, p.2)) :=
  (finds_arguments hexpr ts hts).bind fun _ _ hargs hrest =>
    reads_ok (Expr.grounded_of_children trivial hargs) hrest

theorem aggregateTarget?_known {ts rest : List Placed} {units : List UnitTerm}
    (hts : ∀ t ∈ ts, t.Known) (h : aggregateTarget? ts = some (units, rest)) :
    (∀ t ∈ units, t.Resolves) ∧ ∀ t ∈ rest, t.Known := by
  unfold aggregateTarget? at h
  split at h
  · exact takeUnits?_known (known_of_cons hts) h
  · exact takeUnits?_known (known_of_cons hts) h
  · cases h

theorem finds_aggregate (hexpr : Finds Expr.Grounded expr) (kind : Aggregate) (function : String)
    (offset : Nat) : Finds Expr.Grounded (aggregate expr kind function offset) := by
  intro ts hts
  unfold aggregate
  split
  · rename_i rest hrest
    exact reads_call hexpr (known_of_eat? hts hrest) function offset
  · split
    · rename_i units rest htarget
      obtain ⟨hunits, hrest⟩ := aggregateTarget?_known hts htarget
      exact reads_ok (.node hunits (by simp [Expr.children])) hrest
    · exact reads_ok (Expr.grounded_leaf trivial rfl) hts

theorem finds_keyword (hexpr : Finds Expr.Grounded expr) (k : Keyword) (offset : Nat) :
    Finds Expr.Grounded (keyword expr k offset) := by
  intro ts hts
  cases k with
  | true_ | false_ | null => exact reads_ok (Expr.grounded_leaf trivial rfl) hts
  | today | tomorrow | yesterday | now =>
    exact reads_ok (Expr.grounded_leaf (by simp [Expr.Sound]) rfl) hts
  | total | sum | average | avg => exact finds_aggregate hexpr _ _ offset ts hts
  | to_ | in_ | as_ | of_ | is_ => exact gives_failAt rfl

theorem finds_nameOrCall (hexpr : Finds Expr.Grounded expr) (name : String) (offset : Nat) :
    Finds Expr.Grounded (nameOrCall expr name offset) := by
  intro ts hts
  unfold nameOrCall
  split
  · rename_i rest hrest
    exact reads_call hexpr (known_of_eat? hts hrest) name offset
  · exact reads_ok (Expr.grounded_leaf trivial rfl) hts

/-! ## Literals -/

/-- A literal, with the tokens behind it. -/
theorem reads_literal {c : Checked Expr} {ts : List Placed} (hc : Gives Expr.Grounded c)
    (hts : ∀ t ∈ ts, t.Known) : Reads Expr.Grounded (do return (← c, ts)) :=
  hc.bind fun _ he => reads_ok he hts

theorem gives_numberLiteral {text : String} {units : List UnitTerm} {offset : Nat}
    (hunits : ∀ t ∈ units, t.Resolves) :
    Gives Expr.Grounded (numberLiteral text units offset) := by
  unfold numberLiteral
  split
  · exact .ok (.node hunits (by simp [Expr.children]))
  · exact gives_failAt rfl

theorem gives_dayOf (text : List Char) (offset : Nat) :
    Gives (fun _ => True) (dayOf text offset) := by
  unfold dayOf
  split
  · exact .ok trivial
  · exact gives_failAt rfl

theorem gives_timeOf (text : List Char) (offset : Nat) :
    Gives (fun _ => True) (timeOf text offset) := by
  unfold timeOf
  split
  · split
    · exact .ok trivial
    · exact gives_failAt rfl
  · exact gives_failAt rfl

theorem gives_dayLiteral (text : String) (offset : Nat) :
    Gives Expr.Grounded (dayLiteral text offset) := by
  have hday := gives_dayOf text.toList offset
  unfold dayLiteral
  generalize dayOf text.toList offset = res at hday
  cases hday with
  | ok _ => exact .ok (Expr.grounded_leaf (by simp [Expr.Sound]) rfl)
  | error h => exact .error h

theorem gives_timeLiteral (text : String) (offset : Nat) :
    Gives Expr.Grounded (timeLiteral text offset) := by
  have htime := gives_timeOf text.toList offset
  unfold timeLiteral
  generalize timeOf text.toList offset = res at htime
  cases htime with
  | ok _ => exact .ok (Expr.grounded_leaf (by simp [Expr.Sound]) rfl)
  | error h => exact .error h

theorem gives_momentLiteral (text : String) (offset : Nat) :
    Gives Expr.Grounded (momentLiteral text offset) := by
  unfold momentLiteral
  split
  · exact (gives_dayOf _ offset).bind fun day _ => (gives_timeOf _ offset).bind fun p _ =>
      .ok (Expr.grounded_leaf (by simp [Expr.Sound]) rfl)
  · exact gives_failAt rfl

/-! ## Strings and objects -/

theorem gives_complete (hexpr : Finds Expr.Grounded expr) {ts : List Placed}
    (hts : ∀ t ∈ ts, t.Known) : Gives Expr.Grounded (complete expr ts) := by
  have hread := hexpr ts hts
  unfold complete
  generalize expr ts = res at hread
  cases hread with
  | error h => exact .error h
  | @ok p h =>
    obtain ⟨e, rest⟩ := p
    cases rest with
    | nil => exact .ok h.1
    | cons t rest =>
      dsimp only
      split
      · exact .ok h.1
      · exact gives_failAt rfl

theorem known_of_mem_tokensAt (text : String) (offset : Nat) :
    ∀ t ∈ tokensAt text offset, t.Known := by
  intro t ht
  obtain ⟨u, hu, rfl⟩ := List.mem_map.1 ht
  have hknown := Token.known_of_mem_tokenize text u hu
  exact ⟨hknown.unit, hknown.genuine⟩

/-- What is filled in is read from the tokens of a source of its own. -/
theorem gives_part (hexpr : Finds Expr.Grounded expr) (segment : Segment) :
    Gives (fun p => ∀ e, p.code? = some e → e.Grounded) (part expr segment) := by
  cases segment with
  | text content => exact .ok (by simp [Part.code?])
  | code source offset =>
    exact (gives_complete hexpr (known_of_mem_tokensAt source offset)).bind fun e he =>
      .ok (by simpa [Part.code?] using he)

theorem finds_entry (hexpr : Finds Expr.Grounded expr) :
    Finds (fun p => Expr.Grounded p.2) (entry expr) := by
  have hkey : Finds (fun _ => True) entryKey := by
    intro ts hts
    unfold entryKey
    split
    · exact gives_failAt rfl
    · split
      · exact reads_ok trivial (known_of_cons hts)
      · exact reads_ok trivial (known_of_cons hts)
      · split
        · exact reads_ok trivial (known_of_cons hts)
        · exact gives_failAt rfl
  intro ts hts
  refine (hkey ts hts).bind fun key rest _ hrest => gives_expect_bind hrest fun rest hrest => ?_
  exact (hexpr rest hrest).bind fun value rest hvalue hrest => .ok ⟨hvalue, hrest⟩

/-! ## Operands -/

theorem finds_currency {code : String} {offset : Nat}
    (hcode : ∃ d, Denomination.ofName? code = some d) :
    Finds Expr.Grounded (currency code offset) := by
  intro ts hts
  unfold currency
  split
  · refine reads_literal (gives_numberLiteral fun t ht => ?_) (known_of_cons hts)
    rw [List.mem_singleton.1 ht]
    exact hcode
  · exact reads_ok (Expr.grounded_leaf trivial rfl) hts

theorem finds_operandAt (hexpr : Finds Expr.Grounded expr) {t : Placed} (ht : t.Known) :
    Finds Expr.Grounded (operandAt expr t) := by
  intro ts hts
  rcases t with ⟨token, offset⟩
  unfold operandAt
  cases token with
  | number text => exact reads_literal (gives_numberLiteral (by simp)) hts
  | currency code => exact finds_currency (ht.unit code rfl) ts hts
  | string quote segments =>
    refine (gives_mapM fun segment _ => gives_part hexpr segment).bind fun parts hparts =>
      reads_ok (Expr.grounded_of_children trivial ?_) hts
    intro e he
    obtain ⟨p, hp, hcode⟩ := List.mem_filterMap.1 he
    exact hparts p hp e hcode
  | day text => exact reads_literal (gives_dayLiteral text offset) hts
  | time text => exact reads_literal (gives_timeLiteral text offset) hts
  | dayTime text => exact reads_literal (gives_momentLiteral text offset) hts
  | keyword k => exact finds_keyword hexpr k offset ts hts
  | constant text =>
    dsimp only
    split
    · exact reads_ok (Expr.grounded_leaf trivial rfl) hts
    · exact reads_ok (Expr.grounded_leaf trivial rfl) hts
  | function text | name text | unit text | zone text =>
    exact finds_nameOrCall hexpr text offset ts hts
  | finish => exact gives_failAt rfl
  | mark m =>
    cases m with
    | leftParen =>
      exact (hexpr ts hts).bind fun e rest he hrest => gives_expect_bind hrest fun rest hrest =>
        reads_ok he hrest
    | leftBracket =>
      exact (finds_items hexpr .rightBracket ts hts).bind fun es rest hes hrest =>
        reads_ok (Expr.grounded_of_children trivial hes) hrest
    | leftBrace =>
      refine (finds_items (finds_entry hexpr) .rightBrace ts hts).bind fun es rest hes hrest =>
        reads_ok (Expr.grounded_of_children trivial ?_) hrest
      intro e he
      obtain ⟨p, hp, rfl⟩ := List.mem_map.1 he
      exact hes p hp
    | _ => exact gives_failAt rfl

theorem finds_operand (hexpr : Finds Expr.Grounded expr) : Finds Expr.Grounded (operand expr) := by
  intro ts hts
  unfold operand
  split
  · exact finds_lambda hexpr ts hts
  · split
    · exact gives_failAt rfl
    · exact finds_operandAt hexpr (hts _ List.mem_cons_self) _ (known_of_cons hts)

/-! ## What follows an operand -/

theorem finds_property : Finds Expr.Grounded property := by
  intro ts hts
  unfold property
  split
  · exact gives_failAt rfl
  · split
    · exact reads_ok (Expr.grounded_of_children trivial (by simp [Expr.children, Part.code?]))
        (known_of_cons hts)
    · exact gives_failAt rfl

theorem conversionAhead?_known {ts rest : List Placed} {units : List UnitTerm}
    (hts : ∀ t ∈ ts, t.Known) (h : conversionAhead? ts = some (units, rest)) :
    (∀ t ∈ units, t.Resolves) ∧ ∀ t ∈ rest, t.Known := by
  unfold conversionAhead? at h
  split at h
  · split at h
    · split at h
      · cases h
      · rename_i hunits
        split at h
        · cases h
        · cases h
          exact takeUnits?_known (known_of_cons hts) hunits
      · cases h
    · cases h
  · cases h

theorem numberSuffix?_grounded {e e' : Expr} {ts rest : List Placed} (he : e.Grounded)
    (hts : ∀ t ∈ ts, t.Known) (h : numberSuffix? e ts = some (e', rest)) :
    e'.Grounded ∧ ∀ t ∈ rest, t.Known := by
  unfold numberSuffix? at h
  split at h
  · obtain ⟨⟨units, rest'⟩, hunits, heq⟩ := Option.map_eq_some_iff.1 h
    cases heq
    obtain ⟨hresolves, hrest⟩ := takeUnits?_known hts hunits
    exact ⟨.node hresolves (by simp [Expr.children]), hrest⟩
  · split at h
    · obtain ⟨⟨units, rest'⟩, hunits, heq⟩ := Option.map_eq_some_iff.1 h
      cases heq
      obtain ⟨hresolves, hrest⟩ := conversionAhead?_known hts hunits
      exact ⟨.node hresolves (by simpa [Expr.children] using he), hrest⟩
    · cases h
  · cases h

theorem inZone?_grounded {e e' : Expr} {zone : String} (hzone : (Zone.parse? zone).isSome)
    (h : e.inZone? zone = some e') : e'.Grounded := by
  have hname : ∀ name ∈ some zone, (Zone.parse? name).isSome := by simpa using hzone
  unfold Expr.inZone? at h
  split at h
  · cases h
    exact Expr.grounded_leaf hname rfl
  · cases h
    exact Expr.grounded_leaf hname rfl
  · cases h
    exact Expr.grounded_leaf hname rfl
  · cases h

theorem roundFinds_suffix (hexpr : Finds Expr.Grounded expr) {e : Expr} (he : e.Grounded)
    {ts : List Placed} (hts : ∀ t ∈ ts, t.Known) :
    RoundFinds Expr.Grounded Expr.Grounded (suffixRound expr e ts) := by
  fun_cases suffixRound expr e ts with
  | case2 t rest htoken =>
    exact .after (finds_property rest (known_of_cons hts)) fun key rest hkey hrest =>
      .more (Expr.grounded_two trivial rfl he hkey) hrest
  | case3 t rest htoken =>
    exact .after (hexpr.before _ _ rest (known_of_cons hts)) fun key rest hkey hrest =>
      .more (Expr.grounded_two trivial rfl he hkey) hrest
  | case4 t rest htoken hcallable =>
    exact .after (finds_arguments hexpr rest (known_of_cons hts)) fun args rest hargs hrest =>
      .more (Expr.grounded_of_children trivial (List.forall_mem_cons.2 ⟨he, hargs⟩)) hrest
  | case6 t rest htoken hpercent =>
    exact .more (Expr.grounded_one trivial rfl he) (known_of_cons hts)
  | case8 t rest name htoken e' hzone =>
    have hknown := (hts _ List.mem_cons_self).genuine
    rw [htoken] at hknown
    exact .more (inZone?_grounded hknown hzone) (known_of_cons hts)
  | case10 t rest e' rest' hsuffix =>
    obtain ⟨he', hrest⟩ := numberSuffix?_grounded he hts hsuffix
    exact .more he' hrest
  | _ => exact .last (reads_ok he hts)

theorem finds_suffixed (hexpr : Finds Expr.Grounded expr) :
    Finds Expr.Grounded (suffixed expr) := by
  intro ts hts
  exact (finds_operand hexpr ts hts).bind fun e rest he hrest =>
    finds_loop (suffixes expr) (fun _ he _ => reads_ok he) suffixes_succ
      (fun _ _ he hts => roundFinds_suffix hexpr he hts) rest.length he rest hrest

/-! ## Operators -/

/-- An operator whose node is grounded if its operands are. -/
def Combines (combine? : Placed → Option (Expr → Expr → Expr)) : Prop :=
  ∀ {t combine l r}, combine? t = some combine → Expr.Grounded l → Expr.Grounded r →
    (combine l r).Grounded

theorem roundFinds_chain {operand : Reader Expr} (hoperand : Finds Expr.Grounded operand)
    {combine? : Placed → Option (Expr → Expr → Expr)} (hcombine : Combines combine?) {left : Expr}
    (hleft : left.Grounded) {ts : List Placed} (hts : ∀ t ∈ ts, t.Known) :
    RoundFinds Expr.Grounded Expr.Grounded (chainRound operand combine? left ts) := by
  fun_cases chainRound operand combine? left ts with
  | case2 t rest combine heq =>
    exact .after (hoperand rest (known_of_cons hts)) fun right rest hright hrest =>
      .more (hcombine heq hleft hright) hrest
  | _ => exact .last (reads_ok hleft hts)

theorem finds_leftGrouped {operand : Reader Expr} (hoperand : Finds Expr.Grounded operand)
    {combine? : Placed → Option (Expr → Expr → Expr)} (hcombine : Combines combine?) :
    Finds Expr.Grounded (leftGrouped operand combine?) := by
  intro ts hts
  exact (hoperand ts hts).bind fun left rest hleft hrest =>
    finds_loop (chain operand combine?) (fun _ hleft _ => reads_ok hleft) chain_succ
      (fun _ _ hleft hts => roundFinds_chain hoperand hcombine hleft hts) rest.length hleft rest
      hrest

theorem finds_unary (hexpr : Finds Expr.Grounded expr) : Finds Expr.Grounded (unary expr) := by
  intro ts
  induction ts with
  | nil => exact finds_suffixed hexpr []
  | cons t rest ih =>
    intro hts
    unfold unary
    split
    · exact (ih (known_of_cons hts)).bind fun e rest he hrest =>
        reads_ok (Expr.grounded_one trivial rfl he) hrest
    · exact finds_suffixed hexpr _ hts

theorem combines_plain (op? : Token → Option BinaryOp) : Combines (plain? op?) := by
  intro t combine l r h hl hr
  obtain ⟨op, _, rfl⟩ := Option.map_eq_some_iff.1 h
  exact Expr.grounded_two trivial rfl hl hr

theorem finds_powerChain (hexpr : Finds Expr.Grounded expr) (rounds : Nat) :
    Finds Expr.Grounded (powerChain expr rounds) := by
  have hbits : Finds Expr.Grounded (bitwise expr) :=
    finds_leftGrouped (finds_unary hexpr) (combines_plain _)
  induction rounds with
  | zero => exact hbits
  | succ rounds ih =>
    intro ts hts
    refine (hbits ts hts).bind fun left rest hleft hrest => ?_
    dsimp only
    split
    · exact (ih _ (known_of_cons hrest)).bind fun right rest hright hrest =>
        reads_ok (Expr.grounded_two trivial rfl hleft hright) hrest
    · exact reads_ok hleft hrest

theorem calendarAmount?_eq_some {e amount : Expr} {unit : CalendarUnit}
    (h : calendarAmount? e = some (amount, unit)) :
    ∃ value offset, amount = .number value [] offset := by
  unfold calendarAmount? at h
  split at h
  · split at h
    · obtain ⟨_, _, heq⟩ := Option.map_eq_some_iff.1 h
      cases heq
      exact ⟨_, _, rfl⟩
    · cases h
  · cases h

theorem combineShares_grounded {op : BinaryOp} {offset : Nat} {l r : Expr} (hl : l.Grounded)
    (hr : r.Grounded) : (combineShares op offset l r).Grounded := by
  unfold combineShares
  split
  · have hx := hl.child _ List.mem_cons_self
    have hy := hr.child _ List.mem_cons_self
    exact Expr.grounded_one trivial rfl (Expr.grounded_two trivial rfl hx hy)
  · exact Expr.grounded_two trivial rfl hl (Expr.grounded_two trivial rfl hl hr)
  · exact Expr.grounded_two trivial rfl hl hr

theorem combineSum_grounded {op : BinaryOp} {offset : Nat} {l r : Expr}
    (hop : op = .add ∨ op = .sub) (hl : l.Grounded) (hr : r.Grounded) :
    (combineSum op offset l r).Grounded := by
  unfold combineSum
  split
  · rename_i hdate
    split
    · rename_i hamount
      obtain ⟨value, o, rfl⟩ := calendarAmount?_eq_some hamount
      exact Expr.grounded_two ⟨hop, hdate, value, o, rfl⟩ rfl hl
        (Expr.grounded_leaf (by simp [Expr.Sound]) rfl)
    · exact combineShares_grounded hl hr
  · exact combineShares_grounded hl hr

theorem sumOp?_eq_some {t : Token} {op : BinaryOp} (h : sumOp? t = some op) :
    op = .add ∨ op = .sub := by
  unfold sumOp? at h
  split at h
  · exact .inl (Option.some.inj h).symm
  · exact .inr (Option.some.inj h).symm
  · cases h

theorem finds_share (hexpr : Finds Expr.Grounded expr) : Finds Expr.Grounded (share expr) := by
  have hpower : Finds Expr.Grounded (power expr) :=
    fun ts hts => finds_powerChain hexpr ts.length ts hts
  have hsum : Finds Expr.Grounded (sum expr) := by
    refine finds_leftGrouped (finds_leftGrouped hpower (combines_plain _)) ?_
    intro t combine l r h hl hr
    obtain ⟨op, hop, rfl⟩ := Option.map_eq_some_iff.1 h
    exact combineSum_grounded (sumOp?_eq_some hop) hl hr
  exact finds_leftGrouped hsum (combines_plain _)

/-! ## Conversions, comparisons and logic -/

theorem convert?_grounded {e e' : Expr} {offset : Nat} {target : Placed}
    {rest rest' : List Placed} (he : e.Grounded) (htarget : ∀ t ∈ target :: rest, t.Known)
    (h : convert? e offset target rest = some (e', rest')) :
    e'.Grounded ∧ ∀ t ∈ rest', t.Known := by
  unfold convert? at h
  split at h
  · cases h
    exact ⟨Expr.grounded_one trivial rfl he, known_of_cons htarget⟩
  · dsimp only at h
    split at h
    · cases h
      exact ⟨Expr.grounded_one trivial rfl he, known_of_cons htarget⟩
    · split at h
      · rename_i hunits
        cases h
        split at hunits
        · cases hunits
        · obtain ⟨hresolves, hrest⟩ := takeUnits?_known htarget hunits
          exact ⟨.node hresolves (by simpa [Expr.children] using he), hrest⟩
      · cases h
        exact ⟨Expr.grounded_one trivial rfl he, known_of_cons htarget⟩
      · cases h

theorem roundFinds_conversion {e : Expr} (he : e.Grounded) {ts : List Placed}
    (hts : ∀ t ∈ ts, t.Known) : RoundFinds Expr.Grounded Expr.Grounded (conversionRound e ts) := by
  fun_cases conversionRound e ts with
  | case2 t hkeyword => exact .last (reads_ok he (known_of_cons hts))
  | case3 t hkeyword target rest e' rest' hconvert =>
    obtain ⟨he', hrest⟩ := convert?_grounded he (known_of_cons hts) hconvert
    exact .more he' hrest
  | case4 t hkeyword target rest hconvert => exact .more he (known_of_cons hts)
  | _ => exact .last (reads_ok he hts)

theorem finds_conversion (hexpr : Finds Expr.Grounded expr) :
    Finds Expr.Grounded (conversion expr) := by
  intro ts hts
  exact (finds_share hexpr ts hts).bind fun e rest he hrest =>
    finds_loop (fun rounds e ts => .ok (conversions rounds e ts)) (fun _ he _ => reads_ok he)
      conversions_succ (fun _ _ he hts => roundFinds_conversion he hts) rest.length he rest hrest

theorem roundFinds_comparison (hexpr : Finds Expr.Grounded expr) {left : Expr}
    (hleft : left.Grounded) {ts : List Placed} (hts : ∀ t ∈ ts, t.Known) :
    RoundFinds Expr.Grounded Expr.Grounded (comparisonRound expr left ts) := by
  fun_cases comparisonRound expr left ts with
  | case2 t htoken => exact .last (gives_failAt rfl)
  | case3 t htoken target rest kind hkind =>
    exact .more (Expr.grounded_one trivial rfl hleft) (known_of_cons (known_of_cons hts))
  | case4 t htoken target rest hkind => exact .last (gives_failAt rfl)
  | case5 t rest htoken op hop =>
    exact .after (finds_conversion hexpr rest (known_of_cons hts)) fun right rest hright hrest =>
      .more (Expr.grounded_two trivial rfl hleft hright) hrest
  | _ => exact .last (reads_ok hleft hts)

theorem combines_logical (op : LogicalOp) (m : Mark) : Combines (logical? op m) := by
  intro t combine l r h hl hr
  unfold logical? at h
  split at h
  · cases h
    exact Expr.grounded_two trivial rfl hl hr
  · cases h

theorem finds_disjunction (hexpr : Finds Expr.Grounded expr) :
    Finds Expr.Grounded (disjunction expr) := by
  have hcomparison : Finds Expr.Grounded (comparison expr) := by
    intro ts hts
    exact (finds_conversion hexpr ts hts).bind fun left rest hleft hrest =>
      finds_loop (comparisons expr) (fun _ hleft _ => reads_ok hleft) comparisons_succ
        (fun _ _ hleft hts => roundFinds_comparison hexpr hleft hts) rest.length hleft rest hrest
  exact finds_leftGrouped (finds_leftGrouped hcomparison (combines_logical _ _))
    (combines_logical _ _)

/-! ## Whole expressions -/

theorem finds_conditionals (hexpr : Finds Expr.Grounded expr) (rounds : Nat) :
    Finds Expr.Grounded (conditionals expr rounds) := by
  induction rounds with
  | zero => exact finds_disjunction hexpr
  | succ rounds ih =>
    intro ts hts
    refine (finds_disjunction hexpr ts hts).bind fun c rest hc hrest => ?_
    dsimp only
    split
    · refine (ih _ (known_of_cons hrest)).bind fun yes rest hyes hrest =>
        gives_expect_bind hrest fun rest hrest => (ih rest hrest).bind fun no rest hno hrest =>
          reads_ok (Expr.grounded_of_children trivial ?_) hrest
      simpa [Expr.children] using ⟨hc, hyes, hno⟩
    · exact reads_ok hc hrest

theorem assignOp?_eq_some {t : Token} {compound : Option BinaryOp}
    (h : assignOp? t = some compound) : ∀ op ∈ compound, op = .add ∨ op = .sub := by
  unfold assignOp? at h
  split at h
  all_goals cases h
  all_goals simp

theorem finds_assignment (hexpr : Finds Expr.Grounded expr) :
    Finds Expr.Grounded (assignment expr) := by
  intro ts hts
  refine (finds_conditionals hexpr ts.length ts hts).bind fun target rest htarget hrest => ?_
  cases rest with
  | nil => exact reads_ok htarget hrest
  | cons t rest =>
    dsimp only
    split
    · exact reads_ok htarget hrest
    · rename_i hop
      split
      · exact gives_failAt rfl
      · exact (hexpr rest (known_of_cons hrest)).bind fun value rest hvalue hrest =>
          reads_ok (Expr.grounded_one (assignOp?_eq_some hop) rfl hvalue) hrest

theorem definitionHead?_known {ts rest : List Placed} {name : String} {params : List String}
    (hts : ∀ t ∈ ts, t.Known) (h : definitionHead? ts = some (name, params, rest)) :
    ∀ t ∈ rest, t.Known := by
  unfold definitionHead? at h
  split at h
  · split at h
    · rename_i hparen
      have hparams := finds_parameters _ (known_of_eat? (known_of_cons hts) hparen)
      split at h
      · rename_i heq
        rw [heq] at hparams
        cases hparams with
        | ok hp =>
          obtain ⟨rest', hrest', heq'⟩ := Option.map_eq_some_iff.1 h
          cases heq'
          exact known_of_eat? hp.2 hrest'
      · cases h
    · cases h
  · cases h

theorem finds_expression (depth : Nat) : Finds Expr.Grounded (expression depth) := by
  induction depth with
  | zero => exact fun _ _ => gives_failAt rfl
  | succ depth ih =>
    intro ts hts
    unfold expression statement
    split
    · rename_i hhead
      exact (ih _ (definitionHead?_known hts hhead)).bind fun body rest hbody hrest =>
        reads_ok (Expr.grounded_one (by simp [Expr.Sound]) rfl (Expr.grounded_one trivial rfl hbody))
          hrest
    · exact finds_assignment ih ts hts

end Grammar

namespace Expr

theorem gives_parse (source : String) : Grammar.Gives Grounded (parse source) :=
  Grammar.gives_complete (Grammar.finds_expression _) (Token.known_of_mem_tokenize source)

/-- Every node of the tree of a source is sound. -/
theorem parse_grounded {source : String} {e : Expr} (h : parse source = .ok e) : e.Grounded := by
  have hgives := gives_parse source
  rw [h] at hgives
  cases hgives with
  | ok he => exact he

/-- What a source that cannot be read fails with is not about a unit. -/
theorem parse_error {source : String} {e : Error} (h : parse source = .error e) :
    e.cause.isUnknownUnit = false := by
  have hgives := gives_parse source
  rw [h] at hgives
  cases hgives with
  | error he => exact he

/-! ## What sources write -/

/-- An expression that a source writes, or a part of one. -/
inductive Written : Expr → Prop where
  | whole {source : String} {e : Expr} (h : parse source = .ok e) : Written e
  | part {e c : Expr} (h : Written e) (hc : c ∈ e.children) : Written c

theorem Written.grounded {e : Expr} (h : e.Written) : e.Grounded := by
  induction h with
  | whole h => exact parse_grounded h
  | part _ hc ih => exact ih.child _ hc

end Expr

end Reckoner
