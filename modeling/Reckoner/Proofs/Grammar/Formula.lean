import Reckoner.Proofs.Decimal.Text
import Reckoner.Proofs.Grammar.Forms

/-!
# Formulas

A formula is a tree of the operators, with whole numbers, names, arrays,
indices and calls.  `Formula.print` writes it with parentheses exactly where a
child is looser than its place allows, and reading gives the same tree back
(`ofTokens_print`).

The tree that is read has the offsets of its tokens, which the formula knows
nothing of: trees are compared without them (`Expr.withoutOffsets`).
-/

namespace Reckoner

/-! ## Offsets -/

mutual

/-- The tree with all offsets at zero. -/
def Expr.withoutOffsets : Expr → Expr
  | .number value units _ => .number value units 0
  | .string parts _ => .string (partsWithoutOffsets parts) 0
  | .constant c _ => .constant c 0
  | .name text _ => .name text 0
  | .unary op operand _ => .unary op operand.withoutOffsets 0
  | .binary op left right _ => .binary op left.withoutOffsets right.withoutOffsets 0
  | .logical op left right _ => .logical op left.withoutOffsets right.withoutOffsets 0
  | .compare op left right _ => .compare op left.withoutOffsets right.withoutOffsets 0
  | .conditional condition yes no _ =>
    .conditional condition.withoutOffsets yes.withoutOffsets no.withoutOffsets 0
  | .isKind operand kind _ => .isKind operand.withoutOffsets kind 0
  | .cast operand kind _ => .cast operand.withoutOffsets kind 0
  | .convertUnits operand units _ => .convertUnits operand.withoutOffsets units 0
  | .convertZone operand zone _ => .convertZone operand.withoutOffsets zone 0
  | .call function args _ => .call function (listWithoutOffsets args) 0
  | .apply callee args _ => .apply callee.withoutOffsets (listWithoutOffsets args) 0
  | .access container key _ => .access container.withoutOffsets key.withoutOffsets 0
  | .assign target value compound _ => .assign target value.withoutOffsets compound 0
  | .aggregate kind target _ => .aggregate kind target 0
  | .day spec zone _ => .day spec zone 0
  | .time hour minute zone _ => .time hour minute zone 0
  | .moment spec zone _ => .moment spec zone 0
  | .dateShift date op amount unit _ =>
    .dateShift date.withoutOffsets op amount.withoutOffsets unit 0
  | .array elements _ => .array (listWithoutOffsets elements) 0
  | .object entries _ => .object (entriesWithoutOffsets entries) 0
  | .lambda self params body _ => .lambda self params body.withoutOffsets 0

/-- Trees with all offsets at zero. -/
def Expr.listWithoutOffsets : List Expr → List Expr
  | [] => []
  | e :: es => e.withoutOffsets :: listWithoutOffsets es

/-- Entries with all offsets at zero. -/
def Expr.entriesWithoutOffsets : List (String × Expr) → List (String × Expr)
  | [] => []
  | (key, e) :: entries => (key, e.withoutOffsets) :: entriesWithoutOffsets entries

/-- Pieces of a string with all offsets at zero. -/
def Expr.partsWithoutOffsets : List (Part Expr) → List (Part Expr)
  | [] => []
  | .text content :: parts => .text content :: partsWithoutOffsets parts
  | .code e :: parts => .code e.withoutOffsets :: partsWithoutOffsets parts

end

/-! ## Formulas -/

/-- Signs in front of an operand. -/
inductive Sign where
  | minus
  | plus
  | not
deriving DecidableEq, Repr

namespace Sign

/-- The operator that a sign stands for. -/
def op : Sign → UnaryOp
  | minus => .negate
  | plus => .plus
  | not => .not

/-- How a sign is written. -/
def mark : Sign → Mark
  | minus => .minus
  | plus => .plus
  | not => .not

end Sign

/-- Operators between two operands. -/
inductive Connective where
  | binary (op : BinaryOp)
  | compare (op : CompareOp)
  | logical (op : LogicalOp)
deriving DecidableEq, Repr

namespace Connective

open Grammar (Level)

/-- The level of an operator. -/
def level : Connective → Level
  | binary op =>
    match op with
    | .add | .sub => .sum
    | .mul | .div | .mod => .product
    | .pow => .power
    | .bitAnd | .bitOr | .shiftLeft | .shiftRight => .bits
  | compare _ => .comparison
  | logical op =>
    match op with
    | .and => .conjunction
    | .or => .disjunction

/-- Whether an operator groups from the right. -/
def groupsRight (op : Connective) : Bool := op == .binary .pow

/-- The loosest level that stands on the left without parentheses. -/
def leftLevel (op : Connective) : Level := if op.groupsRight then op.level.tighter else op.level

/-- The loosest level that stands on the right without parentheses. -/
def rightLevel (op : Connective) : Level := if op.groupsRight then op.level else op.level.tighter

/-- How an operator is written. -/
def mark : Connective → Mark
  | binary op =>
    match op with
    | .add => .plus
    | .sub => .minus
    | .mul => .star
    | .div => .slash
    | .mod => .mod
    | .pow => .caret
    | .bitAnd => .ampersand
    | .bitOr => .pipe
    | .shiftLeft => .shiftLeft
    | .shiftRight => .shiftRight
  | compare op =>
    match op with
    | .equal => .equalEqual
    | .notEqual => .notEqual
    | .less => .less
    | .lessEqual => .lessEqual
    | .greater => .greater
    | .greaterEqual => .greaterEqual
  | logical op =>
    match op with
    | .and => .and
    | .or => .or

theorem mark_ne (op : Connective) : op.mark ≠ .arrow ∧ op.mark ≠ .equals := by
  cases op with
  | binary op => cases op <;> decide
  | compare op => cases op <;> decide
  | logical op => cases op <;> decide

/-- The node of an operator. -/
def node (op : Connective) (left right : Expr) (offset : Nat) : Expr :=
  match op with
  | binary op => .binary op left right offset
  | compare op => .compare op left right offset
  | logical op => .logical op left right offset

end Connective

/-- The token in front of the parentheses of a call, and the function that it
calls. -/
structure Called where
  token : Token
  name : String
  calls : Grammar.calledName? token = some name

theorem Called.ne_mark (called : Called) (m : Mark) : called.token ≠ .mark m := by
  intro h
  have := called.calls
  rw [h] at this
  cases this

/-- A tree of operators. -/
inductive Formula where
  | number (n : Fin Decimal.capacity)
  | name (text : String)
  | signed (sign : Sign) (operand : Formula)
  | connected (op : Connective) (left right : Formula)
  | conditional (condition yes no : Formula)
  | array (elements : List Formula)
  | index (container key : Formula)
  | call (called : Called) (args : List Formula)

namespace Formula

open Grammar (Level IsPlain mem_intercalate_comma length_le_intercalate)

/-- The level of a formula: that of its outermost operator. -/
def level : Formula → Level
  | number _ | name _ | array _ | index .. | call .. => .index
  | signed .. => .sign
  | connected op _ _ => op.level
  | conditional .. => .conditional

/-- The tokens of a formula of the level `inner` where the place allows
`place`. -/
def enclose (inner place : Level) (toks : List Token) : List Token :=
  if place.rank < inner.rank then .mark .leftParen :: (toks ++ [.mark .rightParen]) else toks

mutual

/-- The tokens of a formula. -/
def print : Formula → List Token
  | number n => [.number (toString n.val)]
  | name text => [.name text]
  | signed sign operand => .mark sign.mark :: enclose operand.level .sign operand.print
  | connected op left right =>
    enclose left.level op.leftLevel left.print ++
      .mark op.mark :: enclose right.level op.rightLevel right.print
  | conditional condition yes no =>
    enclose condition.level .disjunction condition.print ++
      .mark .question :: (enclose yes.level .conditional yes.print ++
        .mark .colon :: enclose no.level .conditional no.print)
  | array elements =>
    .mark .leftBracket :: ([.mark .comma].intercalate (printAll elements) ++ [.mark .rightBracket])
  | index container key =>
    enclose container.level .index container.print ++
      .mark .leftBracket :: (key.print ++ [.mark .rightBracket])
  | call called args =>
    called.token :: .mark .leftParen ::
      ([.mark .comma].intercalate (printAll args) ++ [.mark .rightParen])

/-- The tokens of each of some formulas. -/
def printAll : List Formula → List (List Token)
  | [] => []
  | f :: fs => f.print :: printAll fs

end

mutual

/-- The tree of a formula, without offsets. -/
def toExpr : Formula → Expr
  | number n => .number (.ofNat n.val) [] 0
  | name text => .name text 0
  | signed sign operand => .unary sign.op operand.toExpr 0
  | connected op left right => op.node left.toExpr right.toExpr 0
  | conditional condition yes no => .conditional condition.toExpr yes.toExpr no.toExpr 0
  | array elements => .array (toExprs elements) 0
  | index container key => .access container.toExpr key.toExpr 0
  | call called args => .call called.name (toExprs args) 0

/-- The trees of formulas. -/
def toExprs : List Formula → List Expr
  | [] => []
  | f :: fs => f.toExpr :: toExprs fs

end

/-- Whether a tree is that of a formula but for offsets. -/
def Denotes (f : Formula) (e : Expr) : Prop := e.withoutOffsets = f.toExpr

theorem printAll_eq_map (fs : List Formula) : printAll fs = fs.map print := by
  induction fs with
  | nil => rfl
  | cons f fs ih => rw [printAll, ih, List.map_cons]

theorem listWithoutOffsets_of_denotes {fs : List Formula} {es : List Expr}
    (h : List.Forall₂ Denotes fs es) : Expr.listWithoutOffsets es = toExprs fs := by
  induction h with
  | nil => rfl
  | cons hfirst _ ih => rw [Expr.listWithoutOffsets, toExprs, hfirst, ih]

theorem withoutOffsets_node (op : Connective) (left right : Expr) (offset : Nat) :
    (op.node left right offset).withoutOffsets =
      op.node left.withoutOffsets right.withoutOffsets 0 := by
  cases op <;> rfl

/-! ## What a formula is not -/

theorem Denotes.isDateLiteral {f : Formula} {e : Expr} (h : f.Denotes e) :
    e.isDateLiteral = false := by
  have hoffsets : e.withoutOffsets.isDateLiteral = e.isDateLiteral := by
    cases e <;> rfl
  rw [← hoffsets, h]
  cases f with
  | connected op left right => cases op <;> rfl
  | _ => rfl

theorem Denotes.ne_percent {f : Formula} {e : Expr} (h : f.Denotes e) (x : Expr) (offset : Nat) :
    e ≠ .unary .percent x offset := by
  rintro rfl
  cases f with
  | signed sign operand =>
    cases sign <;> cases h
  | connected op left right => cases op <;> cases h
  | _ => cases h

/-- The sum of two formulas is neither a shift of a date nor a share. -/
theorem combineSum_of_denotes {f g : Formula} {a b : Expr} (hf : f.Denotes a) (hg : g.Denotes b)
    (op : BinaryOp) (offset : Nat) :
    Grammar.combineSum op offset a b = .binary op a b offset := by
  rw [Grammar.combineSum, hf.isDateLiteral]
  simp only [Bool.false_eq_true, if_false]
  unfold Grammar.combineShares
  split
  · exact absurd rfl (hf.ne_percent _ _)
  · exact absurd rfl (hg.ne_percent _ _)
  · rfl

/-- The first token of a formula closes no bracket. -/
theorem exists_head (f : Formula) : ∃ t us, f.print = t :: us ∧
    t ≠ .mark .rightParen ∧ t ≠ .mark .rightBracket := by
  have henclose (g : Formula) (place : Level) (rest : List Token)
      (hg : ∃ t us, g.print = t :: us ∧ t ≠ .mark .rightParen ∧ t ≠ .mark .rightBracket) :
      ∃ t us, enclose g.level place g.print ++ rest = t :: us ∧
        t ≠ .mark .rightParen ∧ t ≠ .mark .rightBracket := by
    unfold enclose
    split
    · exact ⟨_, _, rfl, by decide, by decide⟩
    · obtain ⟨t, us, h, hne⟩ := hg
      exact ⟨t, us ++ rest, by rw [h, List.cons_append], hne⟩
  cases f with
  | number n => exact ⟨_, _, rfl, by simp, by simp⟩
  | name text => exact ⟨_, _, rfl, by simp, by simp⟩
  | signed sign operand => cases sign <;> exact ⟨_, _, rfl, by decide, by decide⟩
  | connected op left right => exact henclose left _ _ (exists_head left)
  | conditional condition yes no => exact henclose condition _ _ (exists_head condition)
  | array elements => exact ⟨_, _, rfl, by decide, by decide⟩
  | index container key => exact henclose container _ _ (exists_head container)
  | call called args => exact ⟨_, _, rfl, called.ne_mark _, called.ne_mark _⟩

/-! ## The tokens of a formula -/

theorem mem_enclose {inner place : Level} {toks : List Token} {t : Token}
    (h : t ∈ enclose inner place toks) :
    t = .mark .leftParen ∨ t = .mark .rightParen ∨ t ∈ toks := by
  unfold enclose at h
  split at h
  · simp only [List.mem_cons, List.mem_append, List.not_mem_nil, or_false] at h
    tauto
  · exact .inr (.inr h)

theorem isPlain_called (called : Called) : IsPlain called.token :=
  ⟨called.ne_mark _, called.ne_mark _⟩

mutual

theorem isPlain_of_mem_print (f : Formula) : ∀ t ∈ f.print, IsPlain t := by
  have hmark (m : Mark) (h : m ≠ .arrow ∧ m ≠ .equals) : IsPlain (.mark m) :=
    ⟨fun hm => h.1 (Token.mark.inj hm), fun hm => h.2 (Token.mark.inj hm)⟩
  have henclose {g : Formula} {place : Level} (hg : ∀ t ∈ g.print, IsPlain t) :
      ∀ t ∈ enclose g.level place g.print, IsPlain t := by
    intro t ht
    rcases mem_enclose ht with rfl | rfl | ht
    · exact hmark _ (by decide)
    · exact hmark _ (by decide)
    · exact hg t ht
  have hitems {fs : List Formula} (hfs : ∀ f ∈ fs, ∀ t ∈ f.print, IsPlain t) :
      ∀ t ∈ [.mark .comma].intercalate (printAll fs), IsPlain t := by
    intro t ht
    rcases mem_intercalate_comma ht with rfl | ⟨ts, hts, ht⟩
    · exact hmark _ (by decide)
    · rw [printAll_eq_map] at hts
      obtain ⟨f, hf, rfl⟩ := List.mem_map.1 hts
      exact hfs f hf t ht
  cases f with
  | number n | name text => simp [print, IsPlain]
  | signed sign operand =>
    have hsign : IsPlain (.mark sign.mark) := by cases sign <;> exact hmark _ (by decide)
    exact List.forall_mem_cons.2 ⟨hsign, henclose (isPlain_of_mem_print operand)⟩
  | connected op left right =>
    have hop : IsPlain (.mark op.mark) := hmark _ op.mark_ne
    exact List.forall_mem_append.2 ⟨henclose (isPlain_of_mem_print left),
      List.forall_mem_cons.2 ⟨hop, henclose (isPlain_of_mem_print right)⟩⟩
  | conditional condition yes no =>
    refine List.forall_mem_append.2 ⟨henclose (isPlain_of_mem_print condition),
      List.forall_mem_cons.2 ⟨hmark _ (by decide), ?_⟩⟩
    exact List.forall_mem_append.2 ⟨henclose (isPlain_of_mem_print yes),
      List.forall_mem_cons.2 ⟨hmark _ (by decide), henclose (isPlain_of_mem_print no)⟩⟩
  | array elements =>
    exact List.forall_mem_cons.2 ⟨hmark _ (by decide), List.forall_mem_append.2
      ⟨hitems (isPlain_of_mem_printAll elements),
        List.forall_mem_singleton.2 (hmark _ (by decide))⟩⟩
  | index container key =>
    exact List.forall_mem_append.2 ⟨henclose (isPlain_of_mem_print container),
      List.forall_mem_cons.2 ⟨hmark _ (by decide), List.forall_mem_append.2
        ⟨isPlain_of_mem_print key, List.forall_mem_singleton.2 (hmark _ (by decide))⟩⟩⟩
  | call called args =>
    exact List.forall_mem_cons.2 ⟨isPlain_called called,
      List.forall_mem_cons.2 ⟨hmark _ (by decide), List.forall_mem_append.2
        ⟨hitems (isPlain_of_mem_printAll args),
          List.forall_mem_singleton.2 (hmark _ (by decide))⟩⟩⟩

theorem isPlain_of_mem_printAll (fs : List Formula) : ∀ f ∈ fs, ∀ t ∈ f.print, IsPlain t := by
  cases fs with
  | nil => simp
  | cons f fs =>
    exact List.forall_mem_cons.2 ⟨isPlain_of_mem_print f, isPlain_of_mem_printAll fs⟩

end

/-! ## Reading -/

section

open Grammar

variable {expr : Reader Expr} {P Q R : Expr → Prop} {left right : List Token}

/-- An operator that groups from the left. -/
theorem opensAt_connected {op : Connective} (hop : op.groupsRight = false)
    (hleft : OpensAt expr op.level left P) (hright : SpellsAt expr op.level.tighter right Q)
    (hsum : ∀ o offset a b, P a → Q b → combineSum o offset a b = .binary o a b offset)
    (hnode : ∀ a b offset, P a → Q b → R (op.node a b offset)) :
    OpensAt expr op.level (left ++ .mark op.mark :: right) R := by
  cases op with
  | binary op =>
    cases op with
    | pow => cases hop
    | bitAnd | bitOr | shiftLeft | shiftRight =>
      exact Opens.chain hleft hright rfl (Nat.le_refl _) (Nat.le_refl _) (fun _ => rfl) hnode
    | mul | div | mod =>
      exact Opens.chain hleft hright.operand_of_power rfl (Nat.le_refl _) (Nat.le_refl _)
        (fun _ => rfl) hnode
    | add | sub =>
      refine Opens.chain hleft hright rfl (Nat.le_refl _) (Nat.le_refl _) (fun _ => rfl) ?_
      intro a b offset ha hb
      dsimp only
      rw [hsum _ _ a b ha hb]
      exact hnode a b offset ha hb
  | compare op =>
    cases op <;> exact OpensAt.comparison hleft hright rfl hnode
  | logical op =>
    cases op with
    | and | or =>
      exact Opens.chain hleft hright rfl (Nat.le_refl _) (Nat.le_refl _) (fun _ => rfl) hnode

/-- Tokens at a place that allows `place`: if they are of a looser level, they
stand in parentheses. -/
theorem opensAt_enclose {inner place : Level} {toks : List Token} (h : OpensAt expr inner toks P)
    (hwhole : place.rank < inner.rank → Spells (fun _ => expr) .whole toks P) :
    OpensAt expr place (enclose inner place toks) P := by
  have hclimb {tight : Level} {toks : List Token} (h : OpensAt expr tight toks P)
      (hle : tight.rank ≤ place.rank) : OpensAt expr place toks P := by
    rcases Nat.lt_or_eq_of_le hle with hlt | heq
    · have hplace : place ≠ .index := by
        rintro rfl
        exact absurd hlt (Nat.not_lt_zero _)
      have hrank := Level.rank_tighter hplace
      exact (h.spellsAt.loosen (by omega)).opensAt hplace
    · exact Level.eq_of_rank_eq heq ▸ h
  unfold enclose
  split
  · rename_i hlt
    exact hclimb (opens_operand (spells_parens (hwhole hlt))) (Nat.zero_le _)
  · rename_i hlt
    exact hclimb h (Nat.le_of_not_lt hlt)

/-- A formula is read as a whole, one bracket further out. -/
theorem spells_expression {level : Level} {toks : List Token} {depth : Nat}
    (h : OpensAt (expression depth) level toks P) :
    Spells (fun _ => expression (depth + 1)) .whole toks P :=
  have hle : level.rank ≤ Level.whole.rank := by cases level <;> decide
  h.spellsAt.loosen hle

/-- A formula is read wherever brackets may nest as deep as it is long. -/
def Readable (f : Formula) : Prop :=
  ∀ depth, f.print.length ≤ depth →
    OpensAt (expression depth) f.level f.print f.Denotes

theorem Readable.whole {f : Formula} (h : f.Readable) (depth : Nat)
    (hdepth : f.print.length < depth) :
    Spells (fun _ => expression depth) .whole f.print f.Denotes := by
  obtain ⟨n, rfl⟩ : ∃ n, depth = n + 1 := ⟨depth - 1, by omega⟩
  exact spells_expression (h n (by omega))

theorem Readable.enclosed {f : Formula} (h : f.Readable) (place : Level) (depth : Nat)
    (hdepth : (enclose f.level place f.print).length ≤ depth) :
    OpensAt (expression depth) place (enclose f.level place f.print) f.Denotes := by
  unfold enclose at hdepth
  split at hdepth
  · rename_i hlt
    simp only [List.length_cons, List.length_append] at hdepth
    exact opensAt_enclose (h depth (by omega)) fun _ => h.whole depth (by omega)
  · rename_i hlt
    exact opensAt_enclose (h depth hdepth) fun hlt' => absurd hlt' hlt

/-- Items between brackets are one bracket further in. -/
theorem spells_items {fs : List Formula} (hfs : ∀ f ∈ fs, f.Readable) (depth : Nat)
    (hdepth : ([.mark .comma].intercalate (printAll fs)).length < depth) :
    ∀ f ∈ fs, Spells (fun _ => expression depth) .whole f.print f.Denotes := by
  intro f hf
  have hmem : f.print ∈ printAll fs := by
    rw [printAll_eq_map]
    exact List.mem_map_of_mem hf
  have hle := length_le_intercalate hmem
  exact (hfs f hf).whole depth (by omega)

mutual

theorem readable (f : Formula) : f.Readable := by
  intro depth hdepth
  cases f with
  | number n => exact opens_operand (spells_number (Decimal.parseNumber?_toString n.isLt) fun _ => rfl)
  | name text => exact opens_operand (spells_name fun _ => rfl)
  | signed sign operand =>
    simp only [print, List.length_cons] at hdepth
    have hoperand := (readable operand).enclosed .sign depth (by omega)
    have hsign : unaryOp? (.mark sign.mark) = some sign.op := by cases sign <;> rfl
    refine Spells.signed hoperand.spellsAt hsign fun e offset he => ?_
    rw [Denotes, Expr.withoutOffsets, he, toExpr]
  | connected op left right =>
    simp only [print, List.length_cons, List.length_append] at hdepth
    have hleft := (readable left).enclosed op.leftLevel depth (by omega)
    have hright := (readable right).enclosed op.rightLevel depth (by omega)
    have hnode : ∀ a b offset, left.Denotes a → right.Denotes b →
        (connected op left right).Denotes (op.node a b offset) := by
      intro a b offset ha hb
      rw [Denotes, withoutOffsets_node, ha, hb, toExpr]
    cases hop : op.groupsRight with
    | false =>
      rw [Connective.leftLevel, hop] at hleft
      rw [Connective.rightLevel, hop] at hright
      rw [print, Connective.leftLevel, Connective.rightLevel, hop]
      exact opensAt_connected hop hleft hright.spellsAt
        (fun o offset a b ha hb => combineSum_of_denotes ha hb o offset) hnode
    | true =>
      obtain rfl : op = .binary .pow := eq_of_beq hop
      exact hleft.spellsAt.power hright.spellsAt hnode
  | conditional condition yes no =>
    simp only [print, List.length_cons, List.length_append] at hdepth
    have hcondition := (readable condition).enclosed .disjunction depth (by omega)
    have hyes := (readable yes).enclosed .conditional depth (by omega)
    have hno := (readable no).enclosed .conditional depth (by omega)
    refine hcondition.spellsAt.conditional hyes.spellsAt hno.spellsAt fun c y n offset hc hy hn => ?_
    rw [Denotes, Expr.withoutOffsets, hc, hy, hn, toExpr]
  | array elements =>
    simp only [print, List.length_cons, List.length_append] at hdepth
    have hitems := spells_items (readable_all elements) depth (by omega)
    rw [print, printAll_eq_map]
    refine opens_operand (spells_array hitems (fun f _ => ?_) fun es offset hes => ?_)
    · obtain ⟨t, us, h, -, hne⟩ := f.exists_head
      exact ⟨t, us, h, hne⟩
    · rw [Denotes, Expr.withoutOffsets, listWithoutOffsets_of_denotes hes, toExpr]
  | index container key =>
    simp only [print, List.length_cons, List.length_append] at hdepth
    have hcontainer := (readable container).enclosed .index depth (by omega)
    have hkey := (readable key).whole depth (by omega)
    refine hcontainer.index hkey fun a k offset ha hk => ?_
    rw [Denotes, Expr.withoutOffsets, ha, hk, toExpr]
  | call called args =>
    simp only [print, List.length_cons, List.length_append] at hdepth
    have hitems := spells_items (readable_all args) depth (by omega)
    rw [print, printAll_eq_map]
    refine opens_operand (spells_call called.calls hitems (fun f _ => ?_) fun es offset hes => ?_)
    · obtain ⟨t, us, h, hne, -⟩ := f.exists_head
      exact ⟨t, us, h, hne⟩
    · rw [Denotes, Expr.withoutOffsets, listWithoutOffsets_of_denotes hes, toExpr]

theorem readable_all (fs : List Formula) : ∀ f ∈ fs, f.Readable := by
  cases fs with
  | nil => simp
  | cons f fs => exact List.forall_mem_cons.2 ⟨readable f, readable_all fs⟩

end

end

/-- A formula that is printed is read as the same tree, wherever its tokens are
placed. -/
theorem ofTokens_print (f : Formula) {ts : List Placed}
    (hts : ts.map (·.token) = f.print ++ [.finish]) :
    ∃ e, Expr.ofTokens ts = .ok e ∧ e.withoutOffsets = f.toExpr := by
  obtain ⟨us, vs, rfl, hus, hvs⟩ := List.map_eq_append_iff.1 hts
  obtain ⟨t, ws, rfl, htoken, hws⟩ := List.map_eq_cons_iff.1 hvs
  rw [List.map_eq_nil_iff] at hws
  subst hws
  have hplain : Grammar.Plain (us ++ [t]) := by
    intro u hu
    have hu' : u.token ∈ f.print ++ [.finish] := hts ▸ List.mem_map_of_mem hu
    rcases List.mem_append.1 hu' with h | h
    · exact isPlain_of_mem_print f _ h
    · rw [List.mem_singleton.1 h]
      exact ⟨by decide, by decide⟩
  have hdepth : f.print.length < Grammar.depthBound (us ++ [t]) := by
    have hlength : us.length = f.print.length := by rw [← hus, List.length_map]
    have := Grammar.length_lt_depthBound (us ++ [t])
    simp only [List.length_append] at this
    omega
  obtain ⟨e, he, hread⟩ := (readable f).whole _ hdepth us [t] _ hus hplain
    ⟨.whole, htoken ▸ rfl, Nat.le_refl _⟩ (Nat.le_refl _)
  refine ⟨e, ?_, he⟩
  simp only [Expr.ofTokens, Grammar.complete, hread, htoken, if_true]

/-- The tokens of a formula, placed one after the other, and the final one. -/
def placed (f : Formula) : List Placed :=
  (f.print ++ [Token.finish]).mapIdx fun i t => ⟨t, i⟩

/-- The formula `(not a - f([1, 2][0]) & 3) ^ 4 ^ 5`. -/
def mixed : Formula :=
  .connected (.binary .pow)
    (.connected (.binary .sub) (.signed .not (.name "a"))
      (.connected (.binary .bitAnd)
        (.call ⟨.name "f", "f", rfl⟩ [.index (.array [.number 1, .number 2]) (.number 0)])
        (.number 3)))
    (.connected (.binary .pow) (.number 4) (.number 5))

theorem ofTokens_print_mixed :
    mixed.placed.map (·.token) = mixed.print ++ [.finish] ∧
      ∃ e, Expr.ofTokens mixed.placed = .ok e ∧ e.withoutOffsets = mixed.toExpr :=
  ⟨by decide +kernel, ofTokens_print mixed (by decide +kernel)⟩

end Formula

end Reckoner
