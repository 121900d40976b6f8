import Mathlib.Logic.Function.Iterate
import Reckoner.Proofs.Grammar.Loops

/-!
# Reading without a bound

`expression` is given a depth, and below it nothing can be read.  Here the bound is taken away: what
is inside brackets is read from fewer tokens than what is around them, and the code in a string from
tokens that nest less deep than the string, so a bound that covers the tokens is never met.

* `Grammar.Agrees`: two readers that do the same with tokens that nest no deeper than so.  One
  lemma for each reader: if readers of what is inside brackets agree to some depth, readers around
  them agree one deeper.
* `Grammar.whole`: a reader with no bound, and `Grammar.whole_eq`: it is a `statement` of itself.
-/

namespace Reckoner

namespace Grammar

variable {α σ β : Type} {n : Nat} {t : Placed} {ts : List Placed}

/-- Two readers do the same with tokens that nest at most `n` deep. -/
def Agrees (n : Nat) (reader reader' : Reader α) : Prop :=
  ∀ ts, depthBound ts ≤ n → reader ts = reader' ts

theorem depthBound_lt_cons (t : Placed) (ts : List Placed) :
    depthBound ts < depthBound (t :: ts) := by
  rw [depthBound_cons]
  exact Nat.lt_add_of_pos_left (tokenDepth_pos t.token)

theorem depthBound_pos (ts : List Placed) : 0 < depthBound ts :=
  (Nat.zero_le _).trans_lt (length_lt_depthBound ts)

/-! ## How readers that agree are put together -/

/-- The same is read first, and then of fewer tokens. -/
theorem Advances.bind_congr_of_takes {reader reader' : Reader α}
    {f f' : α × List Placed → Checked (β × List Placed)} (h' : Advances reader')
    (hread : reader ts = reader' ts) (hf : ∀ x rest, Takes 1 ts rest → f (x, rest) = f' (x, rest)) :
    (reader ts >>= f) = (reader' ts >>= f') := by
  rw [hread]
  cases hreader : reader' ts with
  | error e => rfl
  | ok p => exact hf p.1 p.2 (h' hreader)

theorem Advances.bind_congr {reader reader' : Reader α}
    {f f' : α × List Placed → Checked (β × List Placed)} (h' : Advances reader')
    (hread : reader ts = reader' ts)
    (hf : ∀ x rest, depthBound rest < depthBound ts → f (x, rest) = f' (x, rest)) :
    (reader ts >>= f) = (reader' ts >>= f') :=
  h'.bind_congr_of_takes hread fun x rest hrest => hf x rest hrest.depthBound_le

theorem expect_bind_congr {m : Mark} {wanted : String}
    {f f' : List Placed → Checked (β × List Placed)}
    (hf : ∀ rest, depthBound rest < depthBound ts → f rest = f' rest) :
    (expect m wanted ts >>= f) = (expect m wanted ts >>= f') := by
  cases hexpect : expect m wanted ts with
  | error e => rfl
  | ok rest => exact hf rest (takes_of_expect hexpect).depthBound_le

/-- Loops agree if their rounds do. -/
theorem Unrolls.agrees {round round' : σ → List Placed → Round σ β}
    {loop loop' : Nat → σ → List Placed → Checked (β × List Placed)} (hloop : Unrolls round loop)
    (hloop' : Unrolls round' loop') (hforward : Forward round')
    (hround : ∀ x ts, depthBound ts ≤ n → round x ts = round' x ts) (x : σ)
    (hts : depthBound ts ≤ n) : loop ts.length x ts = loop' ts.length x ts := by
  suffices h : ∀ rounds x ts, depthBound ts ≤ n → ts.length ≤ rounds →
      loop rounds x ts = loop' rounds x ts from h _ x ts hts (Nat.le_refl _)
  intro rounds x ts hts hrounds
  induction hlength : ts.length using Nat.strongRecOn generalizing rounds x ts with
  | _ length ih =>
    rw [hloop.eq_go x hrounds, hloop'.eq_go x hrounds, hround x ts hts]
    cases hgo : round' x ts with
    | last c => rfl
    | more y us =>
      have hdepth := (hforward hgo).depthBound_le
      have hle := (hforward hgo).length_le
      exact ih us.length (by omega) (rounds - 1) y us (by omega) (by omega) rfl

theorem agrees_items {item item' : Reader α} (hitem : Advances item') (h : Agrees n item item')
    (closing : Mark) : Agrees n (items item closing) (items item' closing) := by
  intro ts hts
  have hround (xs : List α) (us : List Placed) (hus : depthBound us ≤ n) :
      itemRound item closing xs us = itemRound item' closing xs us := by
    unfold itemRound
    rw [h us hus]
  have hempty : depthBound [] ≤ n := (depthBound_pos ts).trans_le hts
  have hnil : ∃ e, item [] = .error e := h [] hempty ▸ hitem.nil
  have hitems := (unrolls_items hnil).agrees (unrolls_items hitem.nil) (forward_itemRound hitem)
    hround [] hts
  simpa only [prepended_nil, items] using hitems

section

variable {expr expr' : Reader Expr}

/-! ## Operands -/

theorem agrees_lambda (h' : Advances expr') (h : Agrees n expr expr') :
    Agrees (n + 1) (lambda expr) (lambda expr') := by
  intro ts hts
  cases ts with
  | nil => rfl
  | cons t ts =>
    have hlt := depthBound_lt_cons t ts
    have hbody (params : List String) (us : List Placed) (hus : depthBound us ≤ n) :
        (expect .arrow "'=>'" us >>= fun rest => expr rest >>= fun p =>
          .ok (Expr.lambda none params p.1 t.offset, p.2)) =
        expect .arrow "'=>'" us >>= fun rest => expr' rest >>= fun p =>
          .ok (Expr.lambda none params p.1 t.offset, p.2) :=
      expect_bind_congr fun rest hrest => h'.bind_congr (h rest (by omega)) fun _ _ _ => rfl
    unfold lambda
    dsimp only
    split
    · have hparameters : Advances parameters := advances_parameter.items _
      exact hparameters.bind_congr rfl fun params rest hrest => hbody params rest (by omega)
    · split
      · exact hbody _ ts (by omega)
      · rfl

theorem call_congr (h' : Advances expr') (h : Agrees n expr expr') (hts : depthBound ts ≤ n)
    (name : String) (offset : Nat) :
    (arguments expr ts >>= fun p => .ok (Expr.call name p.1 offset, p.2)) =
      arguments expr' ts >>= fun p => .ok (Expr.call name p.1 offset, p.2) := by
  rw [arguments, agrees_items h' h .rightParen ts hts]
  rfl

theorem agrees_aggregate (h' : Advances expr') (h : Agrees n expr expr') (kind : Aggregate)
    (function : String) (offset : Nat) :
    Agrees n (aggregate expr kind function offset) (aggregate expr' kind function offset) := by
  intro ts hts
  unfold aggregate
  split
  · rename_i rest hrest
    have hlt := (takes_of_eat? hrest).depthBound_le
    exact call_congr h' h (by omega) function offset
  · rfl

theorem agrees_keyword (h' : Advances expr') (h : Agrees n expr expr') (k : Keyword)
    (offset : Nat) : Agrees n (keyword expr k offset) (keyword expr' k offset) := by
  intro ts hts
  cases k with
  | total | sum | average | avg => exact agrees_aggregate h' h _ _ offset ts hts
  | _ => rfl

theorem agrees_nameOrCall (h' : Advances expr') (h : Agrees n expr expr') (name : String)
    (offset : Nat) : Agrees n (nameOrCall expr name offset) (nameOrCall expr' name offset) := by
  intro ts hts
  unfold nameOrCall
  split
  · rename_i rest hrest
    have hlt := (takes_of_eat? hrest).depthBound_le
    exact call_congr h' h (by omega) name offset
  · rfl

/-- The code in a string nests less deep than the string. -/
theorem part_congr (h : Agrees n expr expr') {quote : Quote} {segments : List Segment}
    (hdepth : tokenDepth (.string quote segments) ≤ n + 1) {segment : Segment}
    (hsegment : segment ∈ segments) : part expr segment = part expr' segment := by
  cases segment with
  | text content => rfl
  | code source offset =>
    have hlt := segmentDepth_lt quote hsegment
    have hbound := depthBound_tokensAt source offset
    rw [segmentDepth] at hlt
    unfold part
    dsimp only
    unfold complete
    rw [h (tokensAt source offset) (by omega)]

theorem parts_congr (h : Agrees n expr expr') {quote : Quote} {segments : List Segment}
    (hdepth : tokenDepth (.string quote segments) ≤ n + 1) :
    segments.mapM (part expr) = segments.mapM (part expr') := by
  have hparts {some : List Segment} (hsome : some ⊆ segments) :
      some.mapM (part expr) = some.mapM (part expr') := by
    induction some with
    | nil => rfl
    | cons segment rest ih =>
      obtain ⟨hsegment, hrest⟩ := List.cons_subset.1 hsome
      rw [List.mapM_cons, List.mapM_cons, part_congr h hdepth hsegment, ih hrest]
  exact hparts (List.Subset.refl _)

theorem agrees_entry (h' : Advances expr') (h : Agrees n expr expr') :
    Agrees n (entry expr) (entry expr') := by
  have hkey : Advances entryKey := advances_of_traced (n := 0) traced_entryKey
  intro ts hts
  exact hkey.bind_congr rfl fun key rest hrest => expect_bind_congr fun rest' hrest' =>
    h'.bind_congr (h rest' (by omega)) fun _ _ _ => rfl

/-- What starts with a token, read behind it. -/
theorem operandAt_congr (h' : Advances expr') (h : Agrees n expr expr')
    (hts : depthBound (t :: ts) ≤ n + 1) : operandAt expr t ts = operandAt expr' t ts := by
  have hrest : depthBound ts ≤ n := Nat.le_of_lt_succ ((depthBound_lt_cons t ts).trans_le hts)
  have htoken : tokenDepth t.token ≤ n + 1 :=
    (Nat.le_add_right _ _).trans (depthBound_cons t ts ▸ hts)
  rcases t with ⟨token, offset⟩
  unfold operandAt
  cases token with
  | string quote segments =>
    dsimp only
    rw [parts_congr h htoken]
  | keyword k => exact agrees_keyword h' h k offset ts hrest
  | function text | name text | unit text | zone text =>
    exact agrees_nameOrCall h' h text offset ts hrest
  | mark m =>
    cases m with
    | leftParen =>
      exact h'.bind_congr (h ts hrest) fun _ _ _ => rfl
    | leftBracket =>
      dsimp only
      rw [agrees_items h' h .rightBracket ts hrest]
    | leftBrace =>
      dsimp only
      rw [agrees_items h'.entry (agrees_entry h' h) .rightBrace ts hrest]
    | _ => rfl
  | _ => rfl

theorem agrees_operand (h' : Advances expr') (h : Agrees n expr expr') :
    Agrees (n + 1) (operand expr) (operand expr') := by
  intro ts hts
  unfold operand
  split
  · exact agrees_lambda h' h ts hts
  · cases ts with
    | nil => rfl
    | cons t ts => exact operandAt_congr h' h hts

/-! ## What follows an operand -/

theorem suffixRound_congr (h' : Advances expr') (h : Agrees n expr expr') (e : Expr)
    (hts : depthBound ts ≤ n + 1) : suffixRound expr e ts = suffixRound expr' e ts := by
  have hrest {t : Placed} {rest : List Placed} (hcons : depthBound (t :: rest) ≤ n + 1) :
      depthBound rest ≤ n :=
    Nat.le_of_lt_succ ((depthBound_lt_cons t rest).trans_le hcons)
  fun_cases suffixRound expr e ts with
  | case3 t rest htoken =>
    have hkey : before expr .rightBracket "']' after index" rest =
        before expr' .rightBracket "']' after index" rest :=
      h'.bind_congr (h rest (hrest hts)) fun _ _ _ => rfl
    simp [suffixRound, htoken, hkey]
  | case4 t rest htoken hcallable =>
    simp [suffixRound, htoken, hcallable, arguments, agrees_items h' h .rightParen rest (hrest hts)]
  | _ => simp [suffixRound, *]

theorem agrees_suffixed (h' : Advances expr') (h : Agrees n expr expr') :
    Agrees (n + 1) (suffixed expr) (suffixed expr') := by
  have hoperand : Advances (operand expr') := h'.level (traced_operand closed_everywhere)
  intro ts hts
  exact hoperand.bind_congr (agrees_operand h' h ts hts) fun e rest hrest =>
    unrolls_suffixes.agrees unrolls_suffixes (forward_suffixRound h')
      (fun e _ hus => suffixRound_congr h' h e hus) e (by omega)

/-! ## Operators -/

theorem agrees_leftGrouped {operand operand' : Reader Expr}
    {combine? : Placed → Option (Expr → Expr → Expr)} (hoperand : Advances operand')
    (h : Agrees n operand operand') (hcombine : combine? ∈ operators) :
    Agrees n (leftGrouped operand combine?) (leftGrouped operand' combine?) := by
  have hround (left : Expr) (us : List Placed) (hus : depthBound us ≤ n) :
      chainRound operand combine? left us = chainRound operand' combine? left us := by
    cases us with
    | nil => rfl
    | cons t rest =>
      have hlt := depthBound_lt_cons t rest
      simp only [chainRound, h rest (by omega)]
  intro ts hts
  exact hoperand.bind_congr (h ts hts) fun left rest hrest =>
    unrolls_chain.agrees unrolls_chain (forward_chainRound hoperand hcombine) hround left (by omega)

theorem agrees_unary (h' : Advances expr') (h : Agrees n expr expr') :
    Agrees (n + 1) (unary expr) (unary expr') := by
  intro ts
  induction ts with
  | nil => exact agrees_suffixed h' h []
  | cons t rest ih =>
    intro hts
    have hlt := depthBound_lt_cons t rest
    unfold unary
    split
    · rw [ih (by omega)]
    · exact agrees_suffixed h' h (t :: rest) hts

theorem agrees_bitwise (h' : Advances expr') (h : Agrees n expr expr') :
    Agrees (n + 1) (bitwise expr) (bitwise expr') :=
  agrees_leftGrouped (h'.level (traced_unary closed_everywhere)) (agrees_unary h' h)
    (by simp [operators])

theorem agrees_powerChain (h' : Advances expr') (h : Agrees n expr expr') (rounds : Nat) :
    Agrees (n + 1) (powerChain expr rounds) (powerChain expr' rounds) := by
  have hbitwise : Advances (bitwise expr') := h'.level (traced_bitwise closed_everywhere)
  induction rounds with
  | zero => exact agrees_bitwise h' h
  | succ rounds ih =>
    intro ts hts
    refine hbitwise.bind_congr (agrees_bitwise h' h ts hts) fun left rest hrest => ?_
    dsimp only
    split
    · rename_i offset us
      have hlt := depthBound_lt_cons ⟨.mark .caret, offset⟩ us
      rw [ih us (by omega)]
    · rfl

theorem agrees_power (h' : Advances expr') (h : Agrees n expr expr') :
    Agrees (n + 1) (power expr) (power expr') :=
  fun ts => agrees_powerChain h' h ts.length ts

theorem agrees_product (h' : Advances expr') (h : Agrees n expr expr') :
    Agrees (n + 1) (product expr) (product expr') :=
  agrees_leftGrouped (h'.level (traced_power closed_everywhere)) (agrees_power h' h)
    (by simp [operators])

theorem agrees_sum (h' : Advances expr') (h : Agrees n expr expr') :
    Agrees (n + 1) (sum expr) (sum expr') :=
  agrees_leftGrouped (h'.level (traced_product closed_everywhere)) (agrees_product h' h)
    (by simp [operators])

theorem agrees_share (h' : Advances expr') (h : Agrees n expr expr') :
    Agrees (n + 1) (share expr) (share expr') :=
  agrees_leftGrouped (h'.level (traced_sum closed_everywhere)) (agrees_sum h' h)
    (by simp [operators])

/-! ## Conversions, comparisons and logic -/

theorem agrees_conversion (h' : Advances expr') (h : Agrees n expr expr') :
    Agrees (n + 1) (conversion expr) (conversion expr') := by
  intro ts hts
  unfold conversion
  rw [agrees_share h' h ts hts]

theorem comparisonRound_congr (h' : Advances expr') (h : Agrees n expr expr') (left : Expr)
    (hts : depthBound ts ≤ n + 1) :
    comparisonRound expr left ts = comparisonRound expr' left ts := by
  cases ts with
  | nil => rfl
  | cons t rest =>
    have hlt := depthBound_lt_cons t rest
    simp only [comparisonRound, agrees_conversion h' h rest (by omega)]

theorem agrees_comparison (h' : Advances expr') (h : Agrees n expr expr') :
    Agrees (n + 1) (comparison expr) (comparison expr') := by
  have hconversion : Advances (conversion expr') := h'.level (traced_conversion closed_everywhere)
  intro ts hts
  exact hconversion.bind_congr (agrees_conversion h' h ts hts) fun left rest hrest =>
    unrolls_comparisons.agrees unrolls_comparisons (forward_comparisonRound h')
      (fun left _ hus => comparisonRound_congr h' h left hus) left (by omega)

theorem agrees_conjunction (h' : Advances expr') (h : Agrees n expr expr') :
    Agrees (n + 1) (conjunction expr) (conjunction expr') :=
  agrees_leftGrouped (h'.level (traced_comparison closed_everywhere)) (agrees_comparison h' h)
    (by simp [operators])

theorem agrees_disjunction (h' : Advances expr') (h : Agrees n expr expr') :
    Agrees (n + 1) (disjunction expr) (disjunction expr') :=
  agrees_leftGrouped (h'.level (traced_conjunction closed_everywhere)) (agrees_conjunction h' h)
    (by simp [operators])

/-! ## Whole expressions -/

theorem agrees_conditionals (h' : Advances expr') (h : Agrees n expr expr') (rounds : Nat) :
    Agrees (n + 1) (conditionals expr rounds) (conditionals expr' rounds) := by
  have hdisjunction : Advances (disjunction expr') :=
    h'.level (traced_disjunction closed_everywhere)
  induction rounds with
  | zero => exact agrees_disjunction h' h
  | succ rounds ih =>
    have hrounds : Advances (conditionals expr' rounds) :=
      advances_of_traced (n := 1) (traced_conditionals closed_everywhere
        (traced_of_advances h' sited_everywhere) rounds)
    intro ts hts
    refine hdisjunction.bind_congr (agrees_disjunction h' h ts hts) fun condition rest hrest => ?_
    dsimp only
    split
    -- Both branches are read behind the mark, the second one behind what the first has taken.
    · rename_i offset us
      have hlt := depthBound_lt_cons ⟨.mark .question, offset⟩ us
      refine hrounds.bind_congr (ih us (by omega)) fun yes vs hvs =>
        expect_bind_congr fun ws (hws : depthBound ws < depthBound vs) => ?_
      exact hrounds.bind_congr (ih ws (by omega)) fun _ _ _ => rfl
    · rfl

theorem agrees_conditional (h' : Advances expr') (h : Agrees n expr expr') :
    Agrees (n + 1) (conditional expr) (conditional expr') :=
  fun ts => agrees_conditionals h' h ts.length ts

theorem agrees_assignment (h' : Advances expr') (h : Agrees n expr expr') :
    Agrees (n + 1) (assignment expr) (assignment expr') := by
  have hconditional : Advances (conditional expr') :=
    h'.level (traced_conditional closed_everywhere)
  intro ts hts
  refine hconditional.bind_congr (agrees_conditional h' h ts hts) fun target rest hrest => ?_
  cases rest with
  | nil => rfl
  | cons t us =>
    have hlt := depthBound_lt_cons t us
    dsimp only
    rw [h us (by omega)]

theorem agrees_statement (h' : Advances expr') (h : Agrees n expr expr') :
    Agrees (n + 1) (statement expr) (statement expr') := by
  intro ts hts
  unfold statement
  split
  · rename_i hhead
    have hle := (takes_of_definitionHead? hhead).depthBound_le
    rw [h _ (by omega)]
  · exact agrees_assignment h' h ts hts

/-! ## Readers that call themselves on the same level -/

/-- A power, with what is to the right of a caret read by `again`. -/
def powerStep (expr again : Reader Expr) : Reader Expr := fun ts => do
  let (left, ts) ← bitwise expr ts
  match ts with
  | ⟨.mark .caret, offset⟩ :: rest => do
    let (right, rest) ← again rest
    .ok (.binary .pow left right offset, rest)
  | ts => .ok (left, ts)

/-- A conditional, with what follows its marks read by `again`. -/
def conditionalStep (expr again : Reader Expr) : Reader Expr := fun ts => do
  let (condition, ts) ← disjunction expr ts
  match ts with
  | ⟨.mark .question, offset⟩ :: rest => do
    let (yes, rest) ← again rest
    let rest ← expect .colon "':' in conditional expression" rest
    let (no, rest) ← again rest
    .ok (.conditional condition yes no offset, rest)
  | ts => .ok (condition, ts)

/-- A reader that calls itself only behind tokens that it has taken uses no more rounds than there
are tokens, so with as many it is as if it had no bound. -/
theorem eq_step_of_rounds (read : Nat → Reader α) {step : Reader α → Reader α}
    (hread : ∀ rounds, Advances (read rounds)) (hnil : read 0 [] = read 1 [])
    (hstep : ∀ rounds, read (rounds + 1) = step (read rounds))
    (hcongr : ∀ {again again' : Reader α} {ts : List Placed}, Advances again' →
      (∀ us, us.length < ts.length → again us = again' us) → step again ts = step again' ts) :
    (fun ts => read ts.length ts) = step fun ts => read ts.length ts := by
  have hempty (rounds : Nat) : read rounds [] = read 0 [] := by
    cases rounds with
    | zero => rfl
    | succ rounds =>
      rw [hnil, hstep, hstep]
      exact hcongr (hread 0) fun us hus => absurd hus (Nat.not_lt_zero _)
  -- Bounds that cover the tokens agree: `step` calls only for what is read of fewer tokens.
  have henough (rounds rounds' : Nat) (ts : List Placed) (h : ts.length ≤ rounds)
      (h' : ts.length ≤ rounds') : read rounds ts = read rounds' ts := by
    induction rounds generalizing rounds' ts with
    | zero =>
      obtain rfl := List.length_eq_zero_iff.1 (Nat.le_zero.1 h)
      exact (hempty rounds').symm
    | succ rounds ih =>
      cases rounds' with
      | zero =>
        obtain rfl := List.length_eq_zero_iff.1 (Nat.le_zero.1 h')
        exact hempty (rounds + 1)
      | succ rounds' =>
        rw [hstep, hstep]
        exact hcongr (hread rounds') fun us hus => ih rounds' us (by omega) (by omega)
  funext ts
  calc read ts.length ts
      = read (ts.length + 1) ts := henough _ _ ts (Nat.le_refl _) (Nat.le_succ _)
    _ = step (read ts.length) ts := by rw [hstep]
    _ = step (fun us => read us.length us) ts :=
      hcongr (fun us x rest h => hread us.length h) fun us hus =>
        henough _ _ us (Nat.le_of_lt hus) (Nat.le_refl _)

theorem power_eq (h : Advances expr) : power expr = powerStep expr (power expr) := by
  have hbitwise : Advances (bitwise expr) := h.level (traced_bitwise closed_everywhere)
  refine eq_step_of_rounds (powerChain expr) (fun rounds => ?_) ?_ (fun _ => rfl)
    fun {again again' ts} _ hagain => ?_
  · exact advances_of_traced (n := 1) (traced_powerChain closed_everywhere
      (traced_of_advances h sited_everywhere) rounds)
  · obtain ⟨e, he⟩ := hbitwise.nil
    simp only [powerChain, he]
    rfl
  · refine hbitwise.bind_congr_of_takes rfl fun left rest hrest => ?_
    dsimp only
    split
    · rename_i offset us
      have hlength := hrest.length_le
      rw [List.length_cons] at hlength
      rw [hagain us (by omega)]
    · rfl

theorem conditional_eq (h : Advances expr) :
    conditional expr = conditionalStep expr (conditional expr) := by
  have hdisjunction : Advances (disjunction expr) := h.level (traced_disjunction closed_everywhere)
  refine eq_step_of_rounds (conditionals expr) (fun rounds => ?_) ?_ (fun _ => rfl)
    fun {again again' ts} hadvances hagain => ?_
  · exact advances_of_traced (n := 1) (traced_conditionals closed_everywhere
      (traced_of_advances h sited_everywhere) rounds)
  · obtain ⟨e, he⟩ := hdisjunction.nil
    simp only [conditionals, he]
    rfl
  · refine hdisjunction.bind_congr_of_takes rfl fun condition rest hrest => ?_
    dsimp only
    split
    · rename_i offset us
      have hlength := hrest.length_le
      rw [List.length_cons] at hlength
      refine hadvances.bind_congr_of_takes (hagain us (by omega)) fun yes vs hvs => ?_
      have hvs := hvs.length_le
      dsimp only
      cases hexpect : expect .colon "':' in conditional expression" vs with
      | error e => rfl
      | ok ws =>
        have hws := (takes_of_expect hexpect).length_le
        exact hadvances.bind_congr_of_takes (hagain ws (by omega)) fun _ _ _ => rfl
    · rfl

end

/-! ## A reader with no bound -/

/-- An expression that nests as deep as it likes. -/
def whole : Reader Expr := fun ts => expression (depthBound ts) ts

theorem advances_whole : Advances whole :=
  fun _ _ _ h => advances_expression _ h

/-- Whatever is read in brackets that nest deeper than the tokens can does not matter. -/
theorem agrees_iterate (floor : Reader Expr) {depth depth' : Nat} (hle : depth ≤ depth') :
    Agrees depth (statement^[depth] floor) (expression depth') := by
  induction depth generalizing depth' with
  | zero => exact fun ts hts => absurd (depthBound_pos ts) (by omega)
  | succ depth ih =>
    obtain ⟨depth', rfl⟩ := Nat.exists_eq_add_of_le' (Nat.lt_of_lt_of_le depth.succ_pos hle)
    rw [Function.iterate_succ_apply']
    exact agrees_statement (advances_expression depth') (ih (by omega))

theorem iterate_eq_whole (floor : Reader Expr) {depth : Nat} (hts : depthBound ts ≤ depth) :
    statement^[depth] floor ts = whole ts := by
  have hbound := Nat.le_refl (depthBound ts)
  calc statement^[depth] floor ts
      = expression depth ts := agrees_iterate floor (Nat.le_refl depth) ts hts
    _ = statement^[depthBound ts] floor ts := (agrees_iterate floor hts ts hbound).symm
    _ = whole ts := agrees_iterate floor hbound ts hbound

theorem agrees_whole (depth : Nat) : Agrees depth (expression depth) whole :=
  fun ts hts => (agrees_iterate whole (Nat.le_refl depth) ts hts).symm.trans
    (iterate_eq_whole whole hts)

theorem whole_eq : whole = statement whole := by
  funext ts
  obtain ⟨depth, hdepth⟩ := Nat.exists_eq_succ_of_ne_zero (depthBound_pos ts).ne'
  calc whole ts
      = expression (depth + 1) ts := by rw [whole, hdepth]
    _ = statement whole ts :=
      agrees_statement advances_whole (agrees_whole depth) ts (Nat.le_of_eq hdepth)

/-- No other reader is a statement of itself. -/
theorem eq_whole {reader : Reader Expr} (h : reader = statement reader) : reader = whole := by
  -- On `reader` nothing is known but its equation; that `whole` goes forward is enough.
  have hagrees (n : Nat) : Agrees n reader whole := by
    induction n with
    | zero => exact fun ts hts => absurd (depthBound_pos ts) (by omega)
    | succ n ih =>
      rw [h, whole_eq]
      exact agrees_statement advances_whole ih
  exact funext fun ts => hagrees (depthBound ts) ts (Nat.le_refl _)

/-! ## How deep reading goes -/

/-- What the code in a token counts for. -/
def codeDepth : Token → Nat
  | .string _ segments => (segments.map segmentDepth).sum
  | _ => 0

theorem tokenDepth_eq (t : Token) : tokenDepth t = codeDepth t + 1 := by
  cases t with
  | string quote segments => exact tokenDepth_string quote segments
  | _ => rfl

/-- Reading goes no deeper than there are tokens, and code in strings is long. -/
theorem depthBound_eq_length (ts : List Placed) :
    depthBound ts = ts.length + (ts.map fun t => codeDepth t.token).sum + 1 := by
  induction ts with
  | nil => rfl
  | cons t ts ih =>
    rw [depthBound_cons, ih, tokenDepth_eq, List.length_cons, List.map_cons, List.sum_cons]
    omega

/-- A string in a text is longer than the code in it. -/
theorem exists_literal {text : String} {quote : Quote} {segments : List Segment}
    (ht : t ∈ Token.tokenize text) (hstring : t.token = .string quote segments) :
    ∃ literal, Text.Stands text.toList literal t.offset ∧
      Token.ofQuoted quote literal t.offset = t.token ∧ tokenDepth t.token ≤ literal.length ∧
      ∀ inner place, .code inner place ∈ segments → inner.length < literal.length ∧
        Text.byteLength inner.toList < Text.byteLength literal := by
  have hfaithful := Token.faithful_of_mem_tokenize ht
  obtain ⟨token, offset⟩ := t
  subst hstring
  obtain ⟨mark, content, -, -, hstands, htoken, hcode⟩ := hfaithful
  have hdepth := Token.depth_ofQuoted quote offset (List.append_ne_nil_of_right_ne_nil
    (mark :: content) (List.cons_ne_nil mark []))
  rw [← htoken] at hdepth
  dsimp only at hdepth
  refine ⟨_, hstands, htoken.symm, hdepth, fun inner place hmem => ⟨?_, ?_⟩⟩
  · have hlt := segmentDepth_lt quote hmem
    rw [segmentDepth] at hlt
    omega
  · obtain ⟨-, hstart, hstop⟩ := hcode inner place hmem
    dsimp only at hstart hstop
    omega

/-! ## Progress and termination -/

/-- What reads inside brackets, with a bound on how deep they nest or with none. -/
inductive Inside : Reader Expr → Prop where
  | bounded (depth : Nat) : Inside (expression depth)
  | whole : Inside whole

theorem Inside.advances {expr : Reader Expr} (h : Inside expr) : Advances expr := by
  cases h with
  | bounded depth => exact advances_expression depth
  | whole => exact advances_whole

/-- Reading goes forward and comes to an end.

* What a reader of any level leaves is a proper end of what it was given.
* In every loop, of what follows an operand, of conversions, of comparisons, of operators, of units
  and of lists, a round takes a token before the loop goes on, so the loop comes to its result by
  itself.
* The code in a string that stands in a text, which is read as a text of its own, is shorter than
  the string.
* Without any bound, the readers are determined by what they are made of.  They call themselves at
  most as deep as there are tokens and code in strings is long, and what stands below that depth
  does not matter. -/
theorem readers_advance_and_end :
    (∀ expr, Inside expr →
      (∀ reader ∈ levels expr, ∀ ts e rest, reader ts = .ok (e, rest) →
        rest <:+ ts ∧ rest.length < ts.length) ∧
      EndsBy (suffixRound expr) (fun e ts => suffixes expr ts.length e ts) ∧
      EndsBy conversionRound (fun e ts => .ok (conversions ts.length e ts)) ∧
      EndsBy (comparisonRound expr) (fun left ts => comparisons expr ts.length left ts) ∧
      (∀ operand ∈ levels expr, ∀ combine? ∈ operators,
        EndsBy (chainRound operand combine?)
          (fun left ts => chain operand combine? ts.length left ts)) ∧
      EndsBy termRound (fun terms ts => prepended terms (.ok (moreTerms ts.length ts))) ∧
      ∀ closing,
        EndsBy (itemRound expr closing) (fun es ts => prepended es (items expr closing ts)) ∧
        EndsBy (itemRound (entry expr) closing)
          (fun es ts => prepended es (items (entry expr) closing ts)) ∧
        EndsBy (itemRound parameter closing)
          (fun es ts => prepended es (items parameter closing ts))) ∧
    (∀ text t quote segments, t ∈ Token.tokenize text → t.token = .string quote segments →
      ∃ literal, Text.Stands text.toList literal t.offset ∧
        Token.ofQuoted quote literal t.offset = t.token ∧ tokenDepth t.token ≤ literal.length ∧
        ∀ inner place, .code inner place ∈ segments → inner.length < literal.length ∧
          Text.byteLength inner.toList < Text.byteLength literal) ∧
    whole = statement whole ∧ (∀ reader, reader = statement reader → reader = whole) ∧
    conditional whole = conditionalStep whole (conditional whole) ∧
    power whole = powerStep whole (power whole) ∧
    (∀ ts, Expr.ofTokens ts = complete whole ts) ∧
    (∀ floor depth ts, depthBound ts ≤ depth → statement^[depth] floor ts = whole ts) ∧
    (∀ ts, depthBound ts = ts.length + (ts.map fun t => codeDepth t.token).sum + 1) ∧
    ∀ source offset, depthBound (tokensAt source offset) ≤ source.length + 2 := by
  refine ⟨fun expr hinside => ?_, fun _ _ _ _ => exists_literal, whole_eq, fun _ => eq_whole,
    conditional_eq advances_whole, power_eq advances_whole, fun _ => rfl,
    fun floor _ _ => iterate_eq_whole floor, depthBound_eq_length, depthBound_tokensAt⟩
  have h := hinside.advances
  refine ⟨fun reader hreader ts e rest hread => ?_, endsBy_suffixes h, endsBy_conversions,
    endsBy_comparisons h, fun operand hoperand _ hcombine =>
      endsBy_chain (advances_levels h operand hoperand) hcombine, endsBy_moreTerms, fun closing =>
      ⟨endsBy_items h closing, endsBy_items h.entry closing,
        endsBy_items advances_parameter closing⟩⟩
  have htakes := advances_levels h reader hreader hread
  exact ⟨htakes.suffix, htakes.length_le⟩

/-- A template with code in it, and a sum of it. -/
theorem readers_advance_and_end_template :
    ∃ e rest literal,
      expression 8 (Token.tokenize "\x60$\x7b1\x7d\x60 + 2") = .ok (e, rest) ∧
      rest.length < (Token.tokenize "\x60$\x7b1\x7d\x60 + 2").length ∧
      whole (Token.tokenize "\x60$\x7b1\x7d\x60 + 2") = .ok (e, rest) ∧
      Token.ofQuoted .template literal 0 = .string .template [.code "1" 3] ∧
      "1".length < literal.length := by
  have hread : (expression 8 (Token.tokenize "\x60$\x7b1\x7d\x60 + 2")).isOk = true := by
    decide +kernel
  have hdepth : depthBound (Token.tokenize "\x60$\x7b1\x7d\x60 + 2") ≤ 8 := by decide +kernel
  have htoken : ⟨.string .template [.code "1" 3], 0⟩ ∈ Token.tokenize "\x60$\x7b1\x7d\x60 + 2" := by
    decide
  obtain ⟨hinside, hstrings, -, -, -, -, -, hfloor, -⟩ := readers_advance_and_end
  obtain ⟨literal, -, hquoted, -, hcode⟩ := hstrings _ _ _ _ htoken rfl
  cases h : expression 8 (Token.tokenize "\x60$\x7b1\x7d\x60 + 2") with
  | error e => simp [h, Except.isOk, Except.toBool] at hread
  | ok p =>
    obtain ⟨e, rest⟩ := p
    obtain ⟨hlevels, -⟩ := hinside _ (.bounded 8)
    refine ⟨e, rest, literal, rfl, ?_, ?_, hquoted, (hcode "1" 3 List.mem_cons_self).1⟩
    · exact (hlevels _ List.mem_cons_self _ _ _ h).2
    · rw [← hfloor (fun _ => failAt 0 .unexpectedEnd) 8 _ hdepth]
      exact h

end Grammar

end Reckoner
