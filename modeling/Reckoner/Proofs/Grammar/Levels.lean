import Reckoner.Grammar.Expression

/-!
# Levels of precedence

What a level of the grammar reads, every looser level reads too, as long as
what follows does not go on with it.  The lemmas here are about tokens rather
than sources, wherever these are placed.

* `Spells`: a reader takes some tokens as something, up to a token of a looser
  level.  `Opens`: it takes them as its first operand and goes on from there.
* `Plain` tokens hold no arrow and no equals sign, so that they start no
  function and no definition (`lambdaAhead_eq_false`,
  `definitionHead?_eq_none`).
* `OpensAt` and `SpellsAt` say the same of a whole level.  What a level reads,
  the next looser one takes first (`Spells.opensAt`), and then reads
  (`OpensAt.spellsAt`), so that all looser ones read it (`Spells.loosen`).
* `Opens.chain`, `Spells.power` and `Spells.conditional` put an operator
  between what is read on either side.
* `length_lt_depthBound`: brackets nest less deep than the bound of a source.
-/

namespace Reckoner

namespace Grammar

/-! ## Levels -/

/-- The levels of precedence, from the tightest to the loosest. -/
inductive Level where
  | index | sign | bits | power | product | sum | comparison | conjunction | disjunction
  | conditional | whole
deriving DecidableEq, Repr

namespace Level

/-- How loose a level is. -/
def rank : Level → Nat
  | index => 0
  | sign => 1
  | bits => 2
  | power => 3
  | product => 4
  | sum => 5
  | comparison => 6
  | conjunction => 7
  | disjunction => 8
  | conditional => 9
  | whole => 10

/-- The next looser level. -/
def next : Level → Level
  | index => sign
  | sign => bits
  | bits => power
  | power => product
  | product => sum
  | sum => comparison
  | comparison => conjunction
  | conjunction => disjunction
  | disjunction => conditional
  | conditional | whole => whole

/-- The next tighter level. -/
def tighter : Level → Level
  | index | sign => index
  | bits => sign
  | power => bits
  | product => power
  | sum => product
  | comparison => sum
  | conjunction => comparison
  | disjunction => conjunction
  | conditional => disjunction
  | whole => conditional

theorem rank_tighter {level : Level} (h : level ≠ index) :
    level.rank = level.tighter.rank + 1 := by
  cases level with
  | index => exact absurd rfl h
  | _ => rfl

theorem eq_of_rank_eq {a b : Level} (h : a.rank = b.rank) : a = b := by
  cases a <;> cases b <;> first | rfl | cases h

/-- The reader of a level, in at most so many rounds. -/
def reader (expr : Reader Expr) : Level → (rounds : Nat) → Reader Expr
  | index => fun _ => suffixed expr
  | sign => fun _ => unary expr
  | bits => fun _ => bitwise expr
  | power => powerChain expr
  | product => fun _ => Grammar.product expr
  | sum => fun _ => Grammar.sum expr
  | comparison => fun _ => Grammar.comparison expr
  | conjunction => fun _ => Grammar.conjunction expr
  | disjunction => fun _ => Grammar.disjunction expr
  | conditional => conditionals expr
  | whole => fun _ => statement expr

end Level

/-- The level on which an expression goes on with this token behind an operand;
the loosest if the token ends the expression. -/
def level? : Token → Option Level
  | .mark m =>
    match m with
    | .leftBracket => some .index
    | .ampersand | .pipe | .shiftLeft | .shiftRight => some .bits
    | .caret => some .power
    | .star | .slash | .mod => some .product
    | .plus | .minus => some .sum
    | .equalEqual | .notEqual | .less | .lessEqual | .greater | .greaterEqual => some .comparison
    | .and => some .conjunction
    | .or => some .disjunction
    | .question => some .conditional
    | .colon | .comma | .rightParen | .rightBracket | .rightBrace => some .whole
    | .percent | .not | .equals | .plusAssign | .minusAssign | .arrow | .dot | .leftParen
    | .leftBrace => none
  | .finish => some .whole
  | _ => none

/-- Whether what follows goes on at `level` or a looser one. -/
def Follows (level : Level) : List Placed → Prop
  | t :: _ => ∃ l, level? t.token = some l ∧ level.rank ≤ l.rank
  | [] => False

theorem Follows.mono {a b : Level} {ts : List Placed} (h : Follows b ts) (hab : a.rank ≤ b.rank) :
    Follows a ts := by
  cases ts with
  | nil => exact h
  | cons t rest =>
    obtain ⟨l, hl, hle⟩ := h
    exact ⟨l, hl, Nat.le_trans hab hle⟩

section

variable {t : Token} {l : Level}

theorem unitName?_of_level (h : level? t = some l) : t.unitName? = none := by
  cases t with
  | mark _ | finish => rfl
  | _ => cases h

theorem isConversion_of_level (h : level? t = some l) : isConversion t = false := by
  cases t with
  | mark _ | finish => rfl
  | _ => cases h

theorem ofOp?_of_level (h : level? t = some l) : ofOp? t = none := by
  cases t with
  | mark _ | finish => rfl
  | _ => cases h

theorem assignOp?_of_level (h : level? t = some l) : assignOp? t = none := by
  cases t with
  | mark m => cases m with
    | equals | plusAssign | minusAssign => cases h
    | _ => rfl
  | finish => rfl
  | _ => cases h

theorem bitOp?_of_level (h : level? t = some l) (hl : Level.power.rank ≤ l.rank) :
    bitOp? t = none := by
  cases t with
  | mark m => cases m with
    | ampersand | pipe | shiftLeft | shiftRight => cases h; exact absurd hl (by decide)
    | _ => rfl
  | finish => rfl
  | _ => cases h

theorem productOp?_of_level (h : level? t = some l) (hl : Level.sum.rank ≤ l.rank) :
    productOp? t = none := by
  cases t with
  | mark m => cases m with
    | star | slash | mod => cases h; exact absurd hl (by decide)
    | percent => cases h
    | _ => rfl
  | finish => rfl
  | _ => cases h

theorem sumOp?_of_level (h : level? t = some l) (hl : Level.comparison.rank ≤ l.rank) :
    sumOp? t = none := by
  cases t with
  | mark m => cases m with
    | plus | minus => cases h; exact absurd hl (by decide)
    | _ => rfl
  | finish => rfl
  | _ => cases h

theorem compareOp?_of_level (h : level? t = some l) (hl : Level.conjunction.rank ≤ l.rank) :
    compareOp? t = none := by
  cases t with
  | mark m => cases m with
    | equalEqual | notEqual | less | lessEqual | greater | greaterEqual =>
      cases h; exact absurd hl (by decide)
    | _ => rfl
  | finish => rfl
  | _ => cases h

end

/-! ## Functions and definitions -/

/-- A token that starts no function and no definition. -/
def IsPlain (t : Token) : Prop := t ≠ .mark .arrow ∧ t ≠ .mark .equals

/-- Tokens that start no function and no definition. -/
def Plain (ts : List Placed) : Prop :=
  ∀ t ∈ ts, t.token ≠ .mark .arrow ∧ t.token ≠ .mark .equals

theorem plain_append {ts us : List Placed} : Plain (ts ++ us) ↔ Plain ts ∧ Plain us :=
  List.forall_mem_append

theorem plain_cons {t : Placed} {ts : List Placed} :
    Plain (t :: ts) ↔ (t.token ≠ .mark .arrow ∧ t.token ≠ .mark .equals) ∧ Plain ts :=
  List.forall_mem_cons

theorem eat?_eq_some {m : Mark} {ts rest : List Placed} (h : eat? m ts = some rest) :
    ∃ offset, ts = ⟨.mark m, offset⟩ :: rest := by
  cases ts with
  | nil => cases h
  | cons t us =>
    unfold eat? at h
    dsimp only at h
    split at h
    · rename_i htoken
      cases h
      exact ⟨t.offset, by rw [← htoken]⟩
    · cases h

theorem eat?_eq_none {m : Mark} {ts : List Placed} (h : ∀ t ∈ ts, t.token ≠ .mark m) :
    eat? m ts = none := by
  cases ts with
  | nil => rfl
  | cons t rest => exact if_neg (h t List.mem_cons_self)

theorem Plain.suffix {ts us : List Placed} (h : Plain us) (hsuffix : ts <:+ us) : Plain ts :=
  fun t ht => h t (hsuffix.subset ht)

theorem suffix_of_eat? {m : Mark} {ts rest : List Placed} (h : eat? m ts = some rest) :
    rest <:+ ts := by
  obtain ⟨offset, rfl⟩ := eat?_eq_some h
  exact List.suffix_cons _ _

theorem suffix_of_parameter {ts rest : List Placed} {name : String}
    (h : parameter ts = .ok (name, rest)) : rest <:+ ts := by
  cases ts with
  | nil => cases h
  | cons t us =>
    unfold parameter at h
    dsimp only at h
    split at h
    · cases h
      exact List.suffix_cons _ _
    · cases h

theorem suffix_of_itemsUntil {α : Type} {item : Reader α} {closing : Mark}
    (hitem : ∀ {ts x rest}, item ts = .ok (x, rest) → rest <:+ ts) {rounds : Nat}
    {ts rest : List Placed} {xs : List α} (h : itemsUntil item closing rounds ts = .ok (xs, rest)) :
    rest <:+ ts := by
  induction rounds generalizing ts xs with
  | zero => cases h
  | succ rounds ih =>
    unfold itemsUntil at h
    split at h
    · rename_i hclosing
      cases h
      exact suffix_of_eat? hclosing
    · split at h
      · cases h
      · cases h
      · rename_i t us hfirst
        have hus := (List.suffix_cons t us).trans (hitem hfirst)
        split at h
        · split at h
          · rename_i hmore
            cases h
            exact (ih hmore).trans hus
          · cases h
        · split at h
          · cases h
            exact hus
          · split at h
            · cases h
            · cases h

theorem suffix_of_parameters {ts rest : List Placed} {params : List String}
    (h : parameters ts = .ok (params, rest)) : rest <:+ ts :=
  suffix_of_itemsUntil suffix_of_parameter h

theorem Plain.eat?_arrow {ts : List Placed} (h : Plain ts) : eat? .arrow ts = none :=
  eat?_eq_none fun t ht => (h t ht).1

theorem Plain.eat?_equals {ts : List Placed} (h : Plain ts) : eat? .equals ts = none :=
  eat?_eq_none fun t ht => (h t ht).2

theorem lambdaAhead_eq_false {ts : List Placed} (h : Plain ts) : lambdaAhead ts = false := by
  cases ts with
  | nil => rfl
  | cons t rest =>
    have hrest : Plain rest := (plain_cons.1 h).2
    unfold lambdaAhead
    dsimp only
    split
    · simp [hrest.eat?_arrow]
    · split
      · split
        · rename_i hparams
          simp [(hrest.suffix (suffix_of_parameters hparams)).eat?_arrow]
        · rfl
      · rfl

theorem definitionHead?_eq_none {ts : List Placed} (h : Plain ts) : definitionHead? ts = none := by
  cases ts with
  | nil => rfl
  | cons t rest =>
    have hrest : Plain rest := (plain_cons.1 h).2
    unfold definitionHead?
    dsimp only
    split
    · rename_i hopen
      have hinner := hrest.suffix (suffix_of_eat? hopen)
      split
      · rename_i hparams
        simp [(hinner.suffix (suffix_of_parameters hparams)).eat?_equals]
      · rfl
    · rfl

/-! ## Spelled trees -/

/-- Wherever the tokens `toks` are placed, the reader takes them as something
with `P`, up to what follows at `level` or a looser one. -/
def Spells {α : Type} (reader : Nat → Reader α) (level : Level) (toks : List Token)
    (P : α → Prop) : Prop :=
  ∀ ts rest rounds, ts.map (·.token) = toks → Plain (ts ++ rest) → Follows level rest →
    (ts ++ rest).length ≤ rounds → ∃ x, P x ∧ reader rounds (ts ++ rest) = .ok (x, rest)

/-- Wherever the tokens `toks` are placed, the reader takes them as an
expression with `P` and goes on by `more` with what follows, at `level` or a
looser one. -/
def Opens (reader : Nat → Reader Expr) (more : Nat → Expr → Reader Expr) (level : Level)
    (toks : List Token) (P : Expr → Prop) : Prop :=
  ∀ ts rest rounds, ts.map (·.token) = toks → Plain (ts ++ rest) → Follows level rest →
    (ts ++ rest).length ≤ rounds →
    ∃ e rounds', P e ∧ rest.length ≤ rounds' ∧
      reader rounds (ts ++ rest) = more rounds' e rest

/-- The reader of `level` takes the tokens as an expression with `P`. -/
abbrev SpellsAt (expr : Reader Expr) (level : Level) (toks : List Token) (P : Expr → Prop) :
    Prop :=
  Spells (level.reader expr) level.next toks P

variable {expr : Reader Expr} {toks : List Token} {P Q R : Expr → Prop}

theorem Spells.imp {reader : Nat → Reader Expr} {level : Level} (h : Spells reader level toks P)
    (himp : ∀ e, P e → Q e) : Spells reader level toks Q := by
  intro ts rest rounds hts hplain hrest hrounds
  obtain ⟨e, he, hread⟩ := h ts rest rounds hts hplain hrest hrounds
  exact ⟨e, himp e he, hread⟩

theorem Spells.mono {α : Type} {reader : Nat → Reader α} {a b : Level} {S : α → Prop}
    (h : Spells reader a toks S) (hab : a.rank ≤ b.rank) : Spells reader b toks S :=
  fun ts rest rounds hts hplain hrest => h ts rest rounds hts hplain (hrest.mono hab)

theorem Opens.spells {reader : Nat → Reader Expr} {more : Nat → Expr → Reader Expr}
    {level next : Level} (h : Opens reader more level toks P) (hle : level.rank ≤ next.rank)
    (hstop : ∀ rounds e rest, Follows next rest → more rounds e rest = .ok (e, rest)) :
    Spells reader next toks P := by
  intro ts rest rounds hts hplain hrest hrounds
  obtain ⟨e, rounds', he, -, hread⟩ := h ts rest rounds hts hplain (hrest.mono hle) hrounds
  exact ⟨e, he, by rw [hread, hstop rounds' e rest hrest]⟩

/-! ## Left-grouped levels -/

section

variable {operand : Reader Expr} {combine? : Placed → Option (Expr → Expr → Expr)} {level : Level}

theorem Spells.opens_chain (h : Spells (fun _ => operand) level toks P) :
    Opens (fun _ => leftGrouped operand combine?) (chain operand combine?) level toks P := by
  intro ts rest rounds hts hplain hrest hrounds
  obtain ⟨e, he, hread⟩ := h ts rest rounds hts hplain hrest hrounds
  refine ⟨e, rest.length, he, Nat.le_refl _, ?_⟩
  simp only [leftGrouped, hread]
  rfl

theorem chain_stop (hstop : ∀ t rest, Follows level (t :: rest) → combine? t = none)
    (rounds : Nat) (e : Expr) (rest : List Placed) (hrest : Follows level rest) :
    chain operand combine? rounds e rest = .ok (e, rest) := by
  cases rounds with
  | zero => rfl
  | succ rounds =>
    cases rest with
    | nil => rfl
    | cons t rest => simp only [chain, hstop t rest hrest]

/-- An operator between what was read so far and a further operand. -/
theorem Opens.chain {left right : List Token} {op : Token} {l next : Level}
    {combine : Nat → Expr → Expr → Expr}
    (hleft : Opens (fun _ => leftGrouped operand combine?) (chain operand combine?) level left P)
    (hright : Spells (fun _ => operand) next right Q)
    (hop : level? op = some l) (hlevel : level.rank ≤ l.rank) (hnext : next.rank ≤ level.rank)
    (hcombine : ∀ offset, combine? ⟨op, offset⟩ = some (combine offset))
    (hnode : ∀ a b offset, P a → Q b → R (combine offset a b)) :
    Opens (fun _ => leftGrouped operand combine?) (Grammar.chain operand combine?) level
      (left ++ op :: right) R := by
  intro ts rest rounds hts hplain hrest hrounds
  obtain ⟨ls, us, rfl, hls, hus⟩ := List.map_eq_append_iff.1 hts
  obtain ⟨t, rs, rfl, htoken, hrs⟩ := List.map_eq_cons_iff.1 hus
  rw [List.append_assoc, List.cons_append] at hplain hrounds ⊢
  have hfollows : Follows level (t :: (rs ++ rest)) := ⟨l, htoken ▸ hop, hlevel⟩
  obtain ⟨a, k, ha, hk, hread⟩ := hleft ls (t :: (rs ++ rest)) rounds hls hplain hfollows hrounds
  have hplain' := (plain_cons.1 (plain_append.1 hplain).2).2
  obtain ⟨b, hb, hread'⟩ :=
    hright rs rest (rs ++ rest).length hrs hplain' (hrest.mono hnext) (Nat.le_refl _)
  obtain ⟨k, rfl⟩ : ∃ n, k = n + 1 := ⟨k - 1, by simp only [List.length_cons] at hk; omega⟩
  refine ⟨combine t.offset a b, k, hnode a b t.offset ha hb, ?_, ?_⟩
  · simp only [List.length_cons, List.length_append] at hk
    omega
  · have hc : combine? t = some (combine t.offset) := by
      rw [← hcombine t.offset, ← htoken]
    rw [hread]
    simp only [Grammar.chain, hc, hread']
    rfl

end

/-! ## From one level to the next -/

theorem takeUnits?_of_level {t : Placed} {l : Level} (h : level? t.token = some l)
    (ts : List Placed) : takeUnits? (t :: ts) = none := by
  simp [takeUnits?, takeTerm?, takeUnit?, unitName?_of_level h]

theorem numberSuffix?_of_level {t : Placed} {l : Level} (h : level? t.token = some l)
    (e : Expr) (ts : List Placed) : numberSuffix? e (t :: ts) = none := by
  unfold numberSuffix?
  split
  · rw [takeUnits?_of_level h, Option.map_none]
  · simp [conversionAhead?, isConversion_of_level h]
  · rfl

/-- A unit behind an operand leaves it to the operand whether to take it. -/
theorem suffixes_of_unitName? {t : Placed} {u : String} (hu : t.token.unitName? = some u)
    {e e' : Expr} {ts rest : List Placed} (h : numberSuffix? e (t :: ts) = some (e', rest))
    (rounds : Nat) : suffixes expr (rounds + 1) e (t :: ts) = suffixes expr rounds e' rest := by
  obtain ⟨token, offset⟩ := t
  cases token with
  | unit _ | currency _ | function _ => simp only [suffixes, h]
  | _ => cases hu

theorem suffixes_stop (rounds : Nat) (e : Expr) (rest : List Placed) (hrest : Follows .sign rest) :
    suffixes expr rounds e rest = .ok (e, rest) := by
  cases rounds with
  | zero => rfl
  | succ rounds =>
    cases rest with
    | nil => rfl
    | cons t rest =>
      obtain ⟨l, hl, hle⟩ := hrest
      unfold suffixes
      split
      · rename_i h
        rw [h] at hl
        cases hl
      · rename_i h
        rw [h] at hl
        cases hl
        exact absurd hle (by decide)
      · rename_i h
        rw [h] at hl
        cases hl
      · rename_i h
        rw [h] at hl
        cases hl
      · rename_i h
        rw [h] at hl
        cases hl
      · rw [numberSuffix?_of_level hl]

theorem suffixed_of_unaryOp? {t : Placed} {op : UnaryOp} (h : unaryOp? t.token = some op)
    (ts : List Placed) :
    suffixed expr (t :: ts) = failAt t.offset (.unexpectedToken t.token.describe) := by
  obtain ⟨token, offset⟩ := t
  cases token with
  | mark m => cases m with
    | minus | plus | not => rfl
    | _ => cases h
  | _ => cases h

theorem Spells.unary {level : Level} (h : Spells (fun _ => suffixed expr) level toks P) :
    Spells (fun _ => Grammar.unary expr) level toks P := by
  intro ts rest rounds hts hplain hrest hrounds
  obtain ⟨e, he, hread⟩ := h ts rest rounds hts hplain hrest hrounds
  refine ⟨e, he, ?_⟩
  dsimp only at hread ⊢
  generalize ts ++ rest = us at hread
  cases us with
  | nil => exact hread
  | cons t us =>
    cases hop : unaryOp? t.token with
    | none => simp only [Grammar.unary, hop, hread]
    | some op =>
      rw [suffixed_of_unaryOp? hop us] at hread
      cases hread

theorem plain?_eq_none {op? : Token → Option BinaryOp} {t : Placed} (h : op? t.token = none) :
    plain? op? t = none := by
  simp only [plain?, h, Option.map_none]

theorem chain_bits_stop (rounds : Nat) (e : Expr) (rest : List Placed)
    (hrest : Follows .power rest) :
    chain (unary expr) (plain? bitOp?) rounds e rest = .ok (e, rest) :=
  chain_stop (fun _ _ h => h.elim fun _ hl => plain?_eq_none (bitOp?_of_level hl.1 hl.2))
    rounds e rest hrest

theorem chain_product_stop (rounds : Nat) (e : Expr) (rest : List Placed)
    (hrest : Follows .sum rest) :
    chain (power expr) (plain? productOp?) rounds e rest = .ok (e, rest) :=
  chain_stop (fun _ _ h => h.elim fun _ hl => plain?_eq_none (productOp?_of_level hl.1 hl.2))
    rounds e rest hrest

/-- A sum or a difference. -/
abbrev sumNode? (t : Placed) : Option (Expr → Expr → Expr) :=
  (sumOp? t.token).map fun op => combineSum op t.offset

theorem chain_sum_stop (rounds : Nat) (e : Expr) (rest : List Placed)
    (hrest : Follows .comparison rest) :
    chain (product expr) sumNode? rounds e rest = .ok (e, rest) :=
  chain_stop (fun _ _ h => h.elim fun _ hl => by
    simp only [sumNode?, sumOp?_of_level hl.1 hl.2, Option.map_none]) rounds e rest hrest

theorem chain_share_stop (rounds : Nat) (e : Expr) (rest : List Placed)
    (hrest : Follows .comparison rest) :
    chain (sum expr) (plain? ofOp?) rounds e rest = .ok (e, rest) :=
  chain_stop (fun _ _ h => h.elim fun _ hl => plain?_eq_none (ofOp?_of_level hl.1))
    rounds e rest hrest

theorem logical?_eq_none {op : LogicalOp} {m : Mark} {l k : Level} {t : Placed}
    (h : level? t.token = some l) (hm : level? (.mark m) = some k) (hlt : k.rank < l.rank) :
    logical? op m t = none := by
  refine if_neg fun htoken => ?_
  rw [htoken, hm, Option.some.injEq] at h
  exact absurd hlt (by simp [h])

theorem chain_conjunction_stop (rounds : Nat) (e : Expr) (rest : List Placed)
    (hrest : Follows .disjunction rest) :
    chain (comparison expr) (logical? .and .and) rounds e rest = .ok (e, rest) :=
  chain_stop (fun _ _ h => h.elim fun _ hl =>
    logical?_eq_none hl.1 rfl (Nat.lt_of_lt_of_le (by decide) hl.2)) rounds e rest hrest

theorem chain_disjunction_stop (rounds : Nat) (e : Expr) (rest : List Placed)
    (hrest : Follows .conditional rest) :
    chain (conjunction expr) (logical? .or .or) rounds e rest = .ok (e, rest) :=
  chain_stop (fun _ _ h => h.elim fun _ hl =>
    logical?_eq_none hl.1 rfl (Nat.lt_of_lt_of_le (by decide) hl.2)) rounds e rest hrest

theorem conversions_stop {level : Level} (rounds : Nat) (e : Expr) {rest : List Placed}
    (hrest : Follows level rest) : conversions rounds e rest = (e, rest) := by
  cases rounds with
  | zero => rfl
  | succ rounds =>
    cases rest with
    | nil => rfl
    | cons t rest =>
      obtain ⟨l, hl, -⟩ := hrest
      simp [conversions, isConversion_of_level hl]

theorem comparisons_stop (rounds : Nat) (e : Expr) (rest : List Placed)
    (hrest : Follows .conjunction rest) : comparisons expr rounds e rest = .ok (e, rest) := by
  cases rounds with
  | zero => rfl
  | succ rounds =>
    cases rest with
    | nil => rfl
    | cons t rest =>
      obtain ⟨l, hl, hle⟩ := hrest
      have his : t.token ≠ .keyword .is_ := by
        intro h
        rw [h] at hl
        cases hl
      simp [comparisons, his, compareOp?_of_level hl hle]

/-- The operand of a comparison, behind which neither a share nor a conversion
follows. -/
theorem Spells.conversion {level : Level} (h : Spells (fun _ => sum expr) level toks P)
    (hle : Level.comparison.rank ≤ level.rank) :
    Spells (fun _ => conversion expr) level toks P := by
  have hshare : Spells (fun _ => share expr) level toks P :=
    h.opens_chain.spells (Nat.le_refl _) fun rounds e rest hrest =>
      chain_share_stop rounds e rest (hrest.mono hle)
  intro ts rest rounds hts hplain hrest hrounds
  obtain ⟨e, he, hread⟩ := hshare ts rest rounds hts hplain hrest hrounds
  refine ⟨e, he, ?_⟩
  simp only [Grammar.conversion, hread]
  exact congrArg Except.ok (conversions_stop _ e hrest)

theorem Spells.opens_comparison {level : Level}
    (h : Spells (fun _ => Grammar.conversion expr) level toks P) :
    Opens (fun _ => comparison expr) (comparisons expr) level toks P := by
  intro ts rest rounds hts hplain hrest hrounds
  obtain ⟨e, he, hread⟩ := h ts rest rounds hts hplain hrest hrounds
  refine ⟨e, rest.length, he, Nat.le_refl _, ?_⟩
  simp only [comparison, hread]
  rfl

theorem exists_succ_of_follows {level : Level} {ts rest : List Placed} {rounds : Nat}
    (hrest : Follows level rest) (hrounds : (ts ++ rest).length ≤ rounds) :
    ∃ n, rounds = n + 1 := by
  cases rest with
  | nil => exact hrest.elim
  | cons t rest =>
    simp only [List.length_append, List.length_cons] at hrounds
    exact ⟨rounds - 1, by omega⟩

theorem Spells.powerChain {level : Level} (h : Spells (fun _ => bitwise expr) level toks P)
    (hle : Level.product.rank ≤ level.rank) : Spells (powerChain expr) level toks P := by
  intro ts rest rounds hts hplain hrest hrounds
  obtain ⟨e, he, hread⟩ := h ts rest rounds hts hplain hrest hrounds
  obtain ⟨n, rfl⟩ := exists_succ_of_follows hrest hrounds
  refine ⟨e, he, ?_⟩
  dsimp only at hread ⊢
  rw [Grammar.powerChain, hread]
  dsimp only [bind, Except.bind]
  split
  · obtain ⟨l, hl, hlevel⟩ := hrest
    cases hl
    exact absurd (Nat.le_trans hle hlevel) (by decide)
  · rfl

/-- Powers group from the right. -/
theorem Spells.power {left right : List Token} (hleft : SpellsAt expr .bits left P)
    (hright : SpellsAt expr .power right Q)
    (hnode : ∀ a b offset, P a → Q b → R (.binary .pow a b offset)) :
    SpellsAt expr .power (left ++ .mark .caret :: right) R := by
  intro ts rest rounds hts hplain hrest hrounds
  obtain ⟨ls, us, rfl, hls, hus⟩ := List.map_eq_append_iff.1 hts
  obtain ⟨t, rs, rfl, htoken, hrs⟩ := List.map_eq_cons_iff.1 hus
  obtain ⟨n, rfl⟩ := exists_succ_of_follows hrest hrounds
  rw [List.append_assoc, List.cons_append] at hplain hrounds ⊢
  obtain ⟨a, ha, hread⟩ := hleft ls (t :: (rs ++ rest)) (n + 1) hls hplain
    ⟨.power, htoken ▸ rfl, by decide⟩ hrounds
  have hplain' := (plain_cons.1 (plain_append.1 hplain).2).2
  obtain ⟨b, hb, hread'⟩ := hright rs rest n hrs hplain' hrest (by
    simp only [List.length_append, List.length_cons] at hrounds ⊢
    omega)
  refine ⟨.binary .pow a b t.offset, hnode a b t.offset ha hb, ?_⟩
  obtain ⟨token, offset⟩ := t
  subst htoken
  simp only [Level.reader] at hread hread' ⊢
  rw [Grammar.powerChain, hread]
  dsimp only [bind, Except.bind]
  rw [hread']

theorem Spells.conditionals (h : Spells (fun _ => disjunction expr) .whole toks P) :
    SpellsAt expr .conditional toks P := by
  intro ts rest rounds hts hplain hrest hrounds
  obtain ⟨e, he, hread⟩ := h ts rest rounds hts hplain hrest hrounds
  obtain ⟨n, rfl⟩ := exists_succ_of_follows hrest hrounds
  refine ⟨e, he, ?_⟩
  dsimp only [Level.reader] at hread ⊢
  rw [Grammar.conditionals, hread]
  dsimp only [bind, Except.bind]
  split
  · obtain ⟨l, hl, hle⟩ := hrest
    cases hl
    exact absurd hle (by decide)
  · rfl

/-- Conditionals group from the right. -/
theorem Spells.conditional {condition yes no : List Token} {C Y N : Expr → Prop}
    (hcondition : SpellsAt expr .disjunction condition C)
    (hyes : SpellsAt expr .conditional yes Y) (hno : SpellsAt expr .conditional no N)
    (hnode : ∀ c y n offset, C c → Y y → N n → R (.conditional c y n offset)) :
    SpellsAt expr .conditional
      (condition ++ .mark .question :: (yes ++ .mark .colon :: no)) R := by
  intro ts rest rounds hts hplain hrest hrounds
  obtain ⟨cs, us, rfl, hcs, hus⟩ := List.map_eq_append_iff.1 hts
  obtain ⟨t, vs, rfl, htoken, hvs⟩ := List.map_eq_cons_iff.1 hus
  obtain ⟨ys, ws, rfl, hys, hws⟩ := List.map_eq_append_iff.1 hvs
  obtain ⟨u, ns, rfl, hcolon, hns⟩ := List.map_eq_cons_iff.1 hws
  obtain ⟨k, rfl⟩ := exists_succ_of_follows hrest hrounds
  simp only [List.append_assoc, List.cons_append] at hplain hrounds ⊢
  obtain ⟨c, hc, hread⟩ := hcondition cs (t :: (ys ++ u :: (ns ++ rest))) (k + 1) hcs hplain
    ⟨.conditional, htoken ▸ rfl, by decide⟩ hrounds
  have hplain' := (plain_cons.1 (plain_append.1 hplain).2).2
  simp only [List.length_append, List.length_cons] at hrounds
  obtain ⟨y, hy, hread'⟩ := hyes ys (u :: (ns ++ rest)) k hys hplain'
    ⟨.whole, hcolon ▸ rfl, by decide⟩ (by
      simp only [List.length_append, List.length_cons]
      omega)
  obtain ⟨n, hn, hread''⟩ := hno ns rest k hns (plain_cons.1 (plain_append.1 hplain').2).2 hrest (by
    simp only [List.length_append]
    omega)
  refine ⟨.conditional c y n t.offset, hnode c y n t.offset hc hy hn, ?_⟩
  obtain ⟨token, offset⟩ := t
  subst htoken
  simp only [Level.reader] at hread hread' hread'' ⊢
  rw [Grammar.conditionals, hread]
  dsimp only [bind, Except.bind]
  rw [hread']
  dsimp only [expect]
  rw [if_pos hcolon]
  dsimp only
  rw [hread'']

theorem Spells.statement (h : SpellsAt expr .conditional toks P) : SpellsAt expr .whole toks P := by
  intro ts rest rounds hts hplain hrest hrounds
  obtain ⟨e, he, hread⟩ := h ts rest _ hts hplain hrest (Nat.le_refl _)
  refine ⟨e, he, ?_⟩
  simp only [Level.reader] at hread ⊢
  simp only [Grammar.statement, definitionHead?_eq_none hplain, assignment, Grammar.conditional,
    hread]
  dsimp only [bind, Except.bind]
  cases rest with
  | nil => rfl
  | cons t rest =>
    obtain ⟨l, hl, -⟩ := hrest
    simp only [assignOp?_of_level hl]

/-! ## All levels -/

/-- Tokens that `level` takes first and then goes on from.  On the levels
without a loop nothing goes on. -/
def OpensAt (expr : Reader Expr) : Level → List Token → (Expr → Prop) → Prop
  | .index => Opens (fun _ => suffixed expr) (suffixes expr) .index
  | .bits => Opens (fun _ => bitwise expr) (chain (unary expr) (plain? bitOp?)) .bits
  | .product =>
    Opens (fun _ => Grammar.product expr) (chain (Grammar.power expr) (plain? productOp?)) .product
  | .sum => Opens (fun _ => Grammar.sum expr) (chain (Grammar.product expr) sumNode?) .sum
  | .comparison => Opens (fun _ => comparison expr) (comparisons expr) .comparison
  | .conjunction =>
    Opens (fun _ => conjunction expr) (chain (comparison expr) (logical? .and .and)) .conjunction
  | .disjunction =>
    Opens (fun _ => disjunction expr) (chain (conjunction expr) (logical? .or .or)) .disjunction
  | level => SpellsAt expr level

/-- The operand of a product. -/
theorem Spells.operand_of_power (h : SpellsAt expr .power toks P) :
    Spells (fun _ => Grammar.power expr) .product toks P :=
  fun ts rest _ hts hplain hrest _ => h ts rest _ hts hplain hrest (Nat.le_refl _)

theorem OpensAt.spellsAt {level : Level} (h : OpensAt expr level toks P) :
    SpellsAt expr level toks P := by
  cases level with
  | index => exact Opens.spells h (by decide) suffixes_stop
  | bits => exact Opens.spells h (by decide) chain_bits_stop
  | product => exact Opens.spells h (by decide) chain_product_stop
  | sum => exact Opens.spells h (by decide) chain_sum_stop
  | comparison => exact Opens.spells h (by decide) comparisons_stop
  | conjunction => exact Opens.spells h (by decide) chain_conjunction_stop
  | disjunction => exact Opens.spells h (by decide) chain_disjunction_stop
  | sign | power | conditional | whole => exact h

/-- What a level reads, the next looser one takes first. -/
theorem Spells.opensAt {level : Level} (h : SpellsAt expr level.tighter toks P)
    (hlevel : level ≠ .index) : OpensAt expr level toks P := by
  cases level with
  | index => exact absurd rfl hlevel
  | sign => exact h.unary.mono (by decide)
  | bits | sum | conjunction | disjunction => exact h.opens_chain
  | power => exact (h.mono (by decide)).powerChain (Nat.le_refl _)
  | product => exact h.operand_of_power.opens_chain
  | comparison => exact (h.conversion (Nat.le_refl _)).opens_comparison
  | conditional => exact (h.mono (by decide)).conditionals
  | whole => exact h.statement

/-- A level reads what any tighter one reads. -/
theorem Spells.loosen {tight loose : Level} (h : SpellsAt expr tight toks P)
    (hle : tight.rank ≤ loose.rank) : SpellsAt expr loose toks P := by
  obtain ⟨n, hn⟩ := Nat.exists_eq_add_of_le hle
  induction n generalizing loose with
  | zero => exact Level.eq_of_rank_eq hn ▸ h
  | succ n ih =>
    have hindex : loose ≠ .index := by
      rintro rfl
      exact absurd hn (by simp [Level.rank])
    have hrank := Level.rank_tighter hindex
    exact (Spells.opensAt (ih (by omega) (by omega)) hindex).spellsAt

/-- Where the expression ends behind them, tokens that are read as an operand
with its signs are read as a whole.  They need not be an operand where the
expression goes on. -/
theorem Spells.alone (h : Spells (fun _ => Grammar.unary expr) .whole toks P) :
    SpellsAt expr .whole toks P := by
  have hbits : Spells (fun _ => bitwise expr) .whole toks P :=
    h.opens_chain.spells (Nat.le_refl _) fun rounds e rest hrest =>
      chain_bits_stop rounds e rest (hrest.mono (by decide))
  have hpower : Spells (fun _ => Grammar.power expr) .whole toks P :=
    fun ts rest _ hts hplain hrest _ =>
      hbits.powerChain (by decide) ts rest _ hts hplain hrest (Nat.le_refl _)
  have hproduct : Spells (fun _ => Grammar.product expr) .whole toks P :=
    hpower.opens_chain.spells (Nat.le_refl _) fun rounds e rest hrest =>
      chain_product_stop rounds e rest (hrest.mono (by decide))
  have hsum : Spells (fun _ => Grammar.sum expr) .whole toks P :=
    hproduct.opens_chain.spells (Nat.le_refl _) fun rounds e rest hrest =>
      chain_sum_stop rounds e rest (hrest.mono (by decide))
  have hcomparison : Spells (fun _ => comparison expr) .whole toks P :=
    (hsum.conversion (by decide)).opens_comparison.spells (Nat.le_refl _)
      fun rounds e rest hrest => comparisons_stop rounds e rest (hrest.mono (by decide))
  have hconjunction : Spells (fun _ => conjunction expr) .whole toks P :=
    hcomparison.opens_chain.spells (Nat.le_refl _) fun rounds e rest hrest =>
      chain_conjunction_stop rounds e rest (hrest.mono (by decide))
  have hdisjunction : Spells (fun _ => disjunction expr) .whole toks P :=
    hconjunction.opens_chain.spells (Nat.le_refl _) fun rounds e rest hrest =>
      chain_disjunction_stop rounds e rest (hrest.mono (by decide))
  exact hdisjunction.conditionals.statement

/-! ## Depth -/

theorem tokenDepth_pos (t : Token) : 1 ≤ tokenDepth t := by
  unfold tokenDepth
  split
  · rename_i segments
    have hle (k : Nat) (hk : 1 ≤ k) :
        1 ≤ segments.foldl (fun n segment => n + segmentDepth segment) k := by
      induction segments generalizing k with
      | nil => exact hk
      | cons segment segments ih => exact ih _ (Nat.le_add_right_of_le hk)
    exact hle 1 (Nat.le_refl _)
  · exact Nat.le_refl _

/-- Brackets cannot nest deeper than there are tokens. -/
theorem length_lt_depthBound (ts : List Placed) : ts.length < depthBound ts := by
  have hle (k : Nat) : ts.length + k ≤ ts.foldl (fun n t => n + tokenDepth t.token) k := by
    induction ts generalizing k with
    | nil => simp
    | cons t ts ih =>
      have := ih (k + tokenDepth t.token)
      have := tokenDepth_pos t.token
      simp only [List.length_cons, List.foldl_cons]
      omega
  have := hle 1
  rw [depthBound]
  omega

end Grammar

end Reckoner
