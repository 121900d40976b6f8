import Reckoner.Evaluate
import Reckoner.Proofs.Datum.Tokens
import Reckoner.Proofs.Grammar.Forms

/-!
# Reading back data

The text of a value is evaluated to an equal value.  `Builds d e` says that the
expression `e` evaluates to the content of `d` in any session.

* `spells_tokens`: the grammar takes the tokens of a datum as an expression that
  builds it.  A number with units goes on where more units follow, so a datum is
  read only where its expression ends (`Spells.alone`).
* `evaluate_render`: the round trip, from a value to its text and back to an
  equal value with the same content.
-/

namespace Reckoner

namespace Datum

open Grammar Eval

/-! ## Building -/

/-- The expression evaluates to the content of the datum, and changes nothing. -/
def Builds (d : Datum) (e : Expr) : Prop :=
  ∀ ctx call scope s, ∃ v t, evalExpr ctx call scope e s = .ok v t ∧ s.Extends none t ∧ Held t d v

variable {d : Datum} {s t : Session}

/-- What evaluates to a value with the content of `d` without touching the
session. -/
theorem builds_of_pure {e : Expr} {v : Value} (hv : ∀ s, Held s d v)
    (h : ∀ ctx call scope s, evalExpr ctx call scope e s = .ok v s) : Builds d e :=
  fun ctx call scope s => ⟨v, s, h ctx call scope s, Session.extends_refl s, hv s⟩

theorem builds_null (offset : Nat) : Builds null (.constant .null offset) :=
  builds_of_pure (fun _ => .null) fun _ _ _ _ => rfl

theorem builds_bool (b : Bool) (offset : Nat) :
    Builds (bool b) (.constant (if b then .true_ else .false_) offset) := by
  cases b with
  | true => exact builds_of_pure (fun _ => .bool true) fun _ _ _ _ => rfl
  | false => exact builds_of_pure (fun _ => .bool false) fun _ _ _ _ => rfl

theorem builds_string (t : String) (offset : Nat) : Builds (string t) (.string [.text t] offset) :=
  builds_of_pure (fun _ => .string t) fun ctx call scope s => by
    rw [evalExpr, evalParts, evalParts, String.empty_append]
    rfl

theorem evalList_of_builds {ds : List Datum} {es : List Expr} (h : List.Forall₂ Builds ds es)
    (ctx : Context) (call : Caller) (scope : Nat) (done : Array Value) (s : Session) :
    ∃ vs t, evalList ctx call scope done es s = .ok (done ++ vs) t ∧ s.Extends none t ∧
      List.Forall₂ (Held t) ds vs.toList := by
  induction h generalizing done s with
  | nil => exact ⟨#[], s, by simp [evalList, pure, EStateM.pure], Session.extends_refl s, .nil⟩
  | @cons d e ds es he _ ih =>
    obtain ⟨v, t, hv, hst, hheld⟩ := he ctx call scope s
    obtain ⟨vs, u, hvs, htu, hall⟩ := ih (done.push v) t
    refine ⟨#[v] ++ vs, u, ?_, hst.trans htu, ?_⟩
    · rw [evalList, bind_of_ok hv, hvs, Array.push_eq_append, Array.append_assoc]
    · rw [Array.toList_append]
      exact .cons (hheld.of_extends htu) hall

theorem builds_array {ds : List Datum} {es : List Expr} (h : List.Forall₂ Builds ds es)
    (offset : Nat) : Builds (array ds) (.array es offset) := by
  intro ctx call scope s
  obtain ⟨vs, t, hvs, hst, hall⟩ := evalList_of_builds h ctx call scope #[] s
  rw [Array.empty_append] at hvs
  have hlater := Session.extends_newCell t (.array vs)
  refine ⟨.array t.cells.size, t.newCell (.array vs), ?_, hst.trans hlater, ?_⟩
  · rw [evalExpr, bind_of_ok hvs]
    rfl
  · exact held_array (by simp [Session.newCell])
      (hall.imp fun _ _ hheld => hheld.of_extends hlater)

/-- The same key, and an expression that builds the value. -/
def BuildsEntry (e : String × Datum) (f : String × Expr) : Prop := f.1 = e.1 ∧ Builds e.2 f.2

theorem evalEntries_of_builds {es : List (String × Datum)} {fs : List (String × Expr)}
    (h : List.Forall₂ BuildsEntry es fs) (ctx : Context) (call : Caller) (scope : Nat)
    (done : Entries Value) (hdistinct : (Entries.keys done ++ es.map Prod.fst).Nodup)
    (s : Session) :
    ∃ entries t, evalEntries ctx call scope done fs s = .ok (done ++ entries) t ∧
      s.Extends none t ∧ List.Forall₂ (Entrywise (Held t)) es entries := by
  induction h generalizing done s with
  | nil => exact ⟨[], s, by simp [evalEntries, pure, EStateM.pure], Session.extends_refl s, .nil⟩
  | @cons e f es fs he _ ih =>
    obtain ⟨key, expr⟩ := f
    obtain ⟨rfl, hexpr⟩ := he
    obtain ⟨v, t, hv, hst, hheld⟩ := hexpr ctx call scope s
    have hnew : e.1 ∉ Entries.keys done := fun hmem =>
      (List.nodup_append.1 hdistinct).2.2 _ hmem _ List.mem_cons_self rfl
    obtain ⟨entries, u, hentries, htu, hall⟩ := ih (done ++ [(e.1, v)]) (by
      rw [Entries.keys, List.map_append, List.append_assoc]
      exact hdistinct) t
    refine ⟨(e.1, v) :: entries, u, ?_, hst.trans htu, .cons ⟨rfl, hheld.of_extends htu⟩ hall⟩
    rw [evalEntries, bind_of_ok hv, Entries.insert_of_new hnew, hentries, List.append_assoc,
      List.singleton_append]

theorem builds_object {es : List (String × Datum)} {fs : List (String × Expr)}
    (h : List.Forall₂ BuildsEntry es fs) (hdistinct : (es.map Prod.fst).Nodup) (offset : Nat) :
    Builds (object es) (.object fs offset) := by
  intro ctx call scope s
  obtain ⟨entries, t, hentries, hst, hall⟩ :=
    evalEntries_of_builds h ctx call scope [] hdistinct s
  rw [List.nil_append] at hentries
  have hlater := Session.extends_newCell t (.object entries)
  refine ⟨.object t.cells.size, t.newCell (.object entries), ?_, hst.trans hlater, ?_⟩
  · rw [evalExpr, bind_of_ok hentries]
    rfl
  · exact held_object (by simp [Session.newCell])
      (hall.imp fun _ _ hheld => ⟨hheld.1, hheld.2.of_extends hlater⟩)

/-! ## Numbers with their sign -/

/-- A number as it is written without its sign. -/
def written (x : Decimal) : Decimal := x.normalize.abs

/-- The expression for a value that is built from its magnitude, with a sign in
front if there is one. -/
def Signed (x : Decimal) (P : Expr → Prop) (e : Expr) : Prop :=
  if x.normalize.negative then ∃ operand offset, e = .unary .negate operand offset ∧ P operand
  else P e

theorem normalize_written_neg {x : Decimal} (h : x.normalize.negative = true) :
    (written x).neg.normalize = x.normalize := by
  rw [written, Decimal.neg_abs h, Decimal.normalize_normalize]

theorem normalize_written {x : Decimal} (h : x.normalize.negative = false) :
    (written x).normalize = x.normalize := by
  rw [written, Decimal.abs_eq h, Decimal.normalize_normalize]

theorem builds_number {x : Decimal} {e : Expr}
    (h : Signed x (fun e => ∃ offset, e = .number (written x) [] offset) e) :
    Builds (number x) e := by
  unfold Signed at h
  split at h
  · rename_i hneg
    obtain ⟨_, offset, rfl, o, rfl⟩ := h
    exact builds_of_pure (fun _ => .number (normalize_written_neg hneg)) fun _ _ _ _ => rfl
  · rename_i hneg
    obtain ⟨offset, rfl⟩ := h
    exact builds_of_pure (fun _ => .number (normalize_written (by simpa using hneg)))
      fun _ _ _ _ => rfl

theorem evalExpr_quantity {q : Quantity} (h : LegibleQuantity q) (x : Decimal) (offset : Nat)
    (ctx : Context) (call : Caller) (scope : Nat) (s : Session) :
    evalExpr ctx call scope (.number x (q.dims.factors.map Factor.term) offset) s =
      .ok (.quantity { magnitude := x, dims := q.dims }) s := by
  have hunits : (q.dims.factors.map Factor.term).isEmpty = false := by
    obtain ⟨f, fs, hfactors, -⟩ := Dimensions.exists_cons_factors h.wellFormed.2
    rw [hfactors]
    rfl
  have hvalue : quantityOf ctx x (q.dims.factors.map Factor.term) offset =
      .ok (.quantity { magnitude := x, dims := q.dims }) := by
    rw [quantityOf, hunits, if_neg Bool.false_ne_true,
      Quantity.ofTerms_factors h.wellFormed.1 h.ordered]
    dsimp only [bind, Except.bind]
    rw [Quantity.toAmount, h.wellFormed.2, if_neg Bool.false_ne_true]
    rfl
  rw [evalExpr, hvalue]
  rfl

theorem builds_quantity {q : Quantity} (h : LegibleQuantity q) {e : Expr}
    (he : Signed q.magnitude
      (fun e => ∃ offset, e = .number (written q.magnitude) (q.dims.factors.map Factor.term) offset)
      e) :
    Builds (quantity q) e := by
  unfold Signed at he
  split at he
  · rename_i hneg
    obtain ⟨_, offset, rfl, o, rfl⟩ := he
    refine builds_of_pure (v := .quantity ⟨(written q.magnitude).neg, q.dims⟩)
      (fun _ => .quantity (normalize_written_neg hneg) rfl) fun ctx call scope s => ?_
    rw [evalExpr, bind_of_ok (evalExpr_quantity h _ _ ctx call scope s)]
    rfl
  · rename_i hneg
    obtain ⟨offset, rfl⟩ := he
    exact builds_of_pure (v := .quantity ⟨written q.magnitude, q.dims⟩)
      (fun _ => .quantity (normalize_written (by simpa using hneg)) rfl)
      (evalExpr_quantity h _ offset)

/-! ## Reading -/

section

variable {expr : Reader Expr} {toks : List Token} {P : Expr → Prop}

/-- A sign in front of a magnitude, if there is one. -/
theorem spells_signed {x : Decimal} (h : Spells (fun _ => Grammar.unary expr) .whole toks P) :
    Spells (fun _ => Grammar.unary expr) .whole
      ((if x.normalize.negative then [.mark .minus] else []) ++ toks) (Signed x P) := by
  unfold Signed
  split
  · exact h.signed rfl fun e offset he => ⟨e, offset, rfl, he⟩
  · exact h

/-- A token that is an operand by itself. -/
theorem spells_single {tok : Token} (h : ∀ offset ts, ∃ e, P e ∧
      operandAt expr ⟨tok, offset⟩ ts = .ok (e, ts)) :
    Spells (fun _ => operand expr) .index [tok] P := by
  intro ts rest rounds hts hplain hrest hrounds
  obtain ⟨t, us, rfl, rfl, hus⟩ := List.map_eq_cons_iff.1 hts
  rw [List.map_eq_nil_iff] at hus
  subst hus
  obtain ⟨e, he, hread⟩ := h t.offset rest
  refine ⟨e, he, ?_⟩
  rw [List.singleton_append] at hplain ⊢
  exact (operand_of_plain hplain).trans hread

theorem spells_of_single {tok : Token} (h : ∀ offset ts, ∃ e, P e ∧
      operandAt expr ⟨tok, offset⟩ ts = .ok (e, ts)) : SpellsAt expr .whole [tok] P :=
  (opens_operand (spells_single h)).spellsAt.loosen (by decide)

theorem spells_numberTokens {x : Decimal}
    (hnode : ∀ e, Signed x (fun e => ∃ offset, e = .number (written x) [] offset) e → P e) :
    SpellsAt expr .whole (numberTokens x) P := by
  have hoperand : OpensAt expr .index _ fun e => ∃ offset, e = .number (written x) [] offset :=
    opens_operand (spells_number (Decimal.parseNumber?_abs x.normalize) fun offset => ⟨offset, rfl⟩)
  have hunary : SpellsAt expr .sign _ _ := hoperand.spellsAt.loosen (by decide)
  exact (Spells.alone (spells_signed (hunary.mono (by decide)))).imp hnode

/-- Units behind a number, with nothing behind them that goes on. -/
theorem spells_units {q : Quantity} (h : LegibleQuantity q) {text : String} {x : Decimal}
    (hx : Decimal.parseNumber? text = some x) :
    Spells (fun _ => suffixed expr) .whole (.number text :: q.dims.tokens)
      (fun e => ∃ offset, e = .number x (q.dims.factors.map Factor.term) offset) := by
  intro ts rest rounds hts hplain hrest hrounds
  obtain ⟨t, us, rfl, htoken, hus⟩ := List.map_eq_cons_iff.1 hts
  obtain ⟨f, fs, hfactors, -⟩ := Dimensions.exists_cons_factors h.wellFormed.2
  obtain ⟨d, hd⟩ := (Dimensions.readable_factors h.wellFormed.1 h.exponent_le f (by
    rw [hfactors]
    exact List.mem_cons_self)).resolves
  obtain ⟨v, vs, rfl, hunit⟩ : ∃ v vs, us = v :: vs ∧ v.token = Token.ofWord f.unit := by
    rw [Dimensions.tokens, hfactors] at hus
    obtain ⟨v, vs, rfl, hv, -⟩ := List.map_eq_cons_iff.1 hus
    exact ⟨v, vs, rfl, hv⟩
  have hname : v.token.unitName? = some f.unit := by
    rw [hunit]
    exact Denomination.unitName?_ofWord hd
  have htake := takeUnits?_tokens h.wellFormed.1 h.wellFormed.2 h.exponent_le hus hrest
  have hsuffix : numberSuffix? (.number x [] t.offset) (v :: vs ++ rest) =
      some (.number x (q.dims.factors.map Factor.term) t.offset, rest) := by
    rw [numberSuffix?, htake]
    rfl
  refine ⟨_, ⟨t.offset, rfl⟩, ?_⟩
  simp only [List.cons_append] at hplain hsuffix ⊢
  have hoperand : operand expr (t :: v :: (vs ++ rest)) =
      .ok (.number x [] t.offset, v :: (vs ++ rest)) := by
    rw [operand_of_plain hplain, operandAt, htoken]
    simp only [numberLiteral, hx]
    rfl
  rw [suffixed, hoperand]
  dsimp only [bind, Except.bind]
  rw [List.length_cons, suffixes_of_unitName? hname hsuffix,
    suffixes_stop _ _ _ (hrest.mono (by decide))]

theorem spells_quantityTokens {q : Quantity} (h : LegibleQuantity q) :
    SpellsAt expr .whole (tokens (.quantity q)) (Builds (.quantity q)) := by
  have hunits : Spells (fun _ => suffixed expr) .whole _ _ :=
    spells_units h (Decimal.parseNumber?_abs q.magnitude.normalize)
  have hsigned := Spells.alone (spells_signed (x := q.magnitude) hunits.unary)
  rw [tokens, numberTokens, List.append_assoc]
  exact hsigned.imp fun e he => builds_quantity h he

theorem entryKey_of_isKey {key : String} (h : Token.IsKey key) {t : Placed}
    (ht : t.token = Token.keyToken key) (rest : List Placed) :
    entryKey (t :: rest) = .ok (key, rest) := by
  have hname : t.token.wordText? = some key := ht ▸ h.2
  obtain ⟨token, offset⟩ := t
  cases token with
  | string _ _ | number _ => cases hname
  | _ => simp only [entryKey, hname]

/-- An entry is a key, a colon and a value. -/
theorem spells_entry {e : String × Datum} (hkey : Token.IsKey e.1)
    (hvalue : Spells (fun _ => expr) .whole e.2.tokens (Builds e.2)) :
    Spells (fun _ => entry expr) .whole (keyedTokens e) (BuildsEntry e) := by
  intro ts rest rounds hts hplain hrest hrounds
  obtain ⟨t, us, rfl, htoken, hus⟩ := List.map_eq_cons_iff.1 hts
  obtain ⟨colon, vs, rfl, hcolon, hvs⟩ := List.map_eq_cons_iff.1 hus
  simp only [List.cons_append] at hplain ⊢
  obtain ⟨x, hx, hread⟩ := hvalue vs rest _ hvs (plain_cons.1 (plain_cons.1 hplain).2).2 hrest
    (Nat.le_refl _)
  refine ⟨(e.1, x), ⟨rfl, hx⟩, ?_⟩
  unfold entry
  rw [entryKey_of_isKey hkey htoken]
  dsimp only [bind, Except.bind]
  rw [expect, if_pos hcolon]
  dsimp only at hread ⊢
  rw [hread]

theorem spells_object {es : List (String × Datum)} (hkeys : ∀ e ∈ es, Token.IsKey e.1)
    (hdistinct : (es.map Prod.fst).Nodup)
    (hvalues : ∀ e ∈ es, Spells (fun _ => expr) .whole e.2.tokens (Builds e.2)) :
    Spells (fun _ => operand expr) .index (tokens (.object es)) (Builds (.object es)) := by
  intro ts rest rounds hts hplain hrest hrounds
  rw [tokens, entryTokens_eq_map] at hts
  obtain ⟨t, us, rfl, htoken, hus⟩ := List.map_eq_cons_iff.1 hts
  rw [List.cons_append] at hplain ⊢
  have hhead : ∀ e ∈ es, ∃ t us, keyedTokens e = t :: us ∧ t ≠ .mark .rightBrace := by
    intro e he
    refine ⟨_, _, rfl, fun hmark => ?_⟩
    have hname := (hkeys e he).2
    rw [hmark] at hname
    cases hname
  obtain ⟨fs, hfs, hread⟩ := spells_items rfl (by decide)
    (fun e he => spells_entry (hkeys e he) (hvalues e he)) hhead us rest _ hus
    (plain_cons.1 hplain).2 hrest (Nat.le_refl _)
  refine ⟨.object fs t.offset, builds_object hfs hdistinct t.offset, ?_⟩
  simp only [operand_of_plain hplain, operandAt, htoken, hread]
  rfl

end

/-- No datum begins with a closing bracket. -/
theorem exists_head (h : d.Legible) : ∃ t us, d.tokens = t :: us ∧ t ≠ .mark .rightBracket := by
  have hnumber (x : Decimal) : ∃ t us, numberTokens x = t :: us ∧ t ≠ .mark .rightBracket := by
    unfold numberTokens
    split
    · exact ⟨_, _, rfl, by decide⟩
    · exact ⟨_, _, rfl, by simp⟩
  cases h with
  | null | array _ | object _ _ _ => exact ⟨_, _, rfl, by decide⟩
  | bool b => exact ⟨_, _, rfl, by simp [boolToken]⟩
  | string _ => exact ⟨_, _, rfl, by simp⟩
  | number _ => exact hnumber _
  | quantity _ =>
    obtain ⟨t, us, heq, hne⟩ := hnumber _
    exact ⟨t, _, by rw [tokens, heq, List.cons_append], hne⟩

/-- The grammar takes the tokens of a legible datum as an expression that builds
it, where brackets may nest as deep as there are tokens. -/
theorem spells_tokens (h : d.Legible) {depth : Nat} (hdepth : d.tokens.length ≤ depth) :
    Spells (fun _ => expression (depth + 1)) .whole d.tokens (Builds d) := by
  show SpellsAt (expression depth) .whole d.tokens (Builds d)
  induction h generalizing depth with
  | null => exact spells_of_single fun offset ts => ⟨_, builds_null offset, rfl⟩
  | bool b =>
    exact spells_of_single fun offset ts => ⟨_, builds_bool b offset, by cases b <;> rfl⟩
  | number hx => exact spells_numberTokens fun e he => builds_number he
  | quantity hq => exact spells_quantityTokens hq
  | string ht => exact spells_of_single fun offset ts => ⟨_, builds_string _ offset, rfl⟩
  | @array ds hds ih =>
    simp only [tokens, itemTokens_eq_map, List.length_cons, List.length_append] at hdepth ⊢
    refine (opens_operand (spells_array (S := Builds) (fun d hd => ?_) (fun d hd => ?_)
      fun es offset hes => builds_array hes offset)).spellsAt.loosen (by decide)
    · have hle := length_le_intercalate (List.mem_map_of_mem (f := tokens) hd)
      obtain ⟨n, rfl⟩ : ∃ n, depth = n + 1 := ⟨depth - 1, by omega⟩
      exact ih d hd (by omega)
    · exact exists_head (hds d hd)
  | @object es hkeys hdistinct hes ih =>
    refine (opens_operand (spells_object hkeys hdistinct fun e he => ?_)).spellsAt.loosen
      (by decide)
    simp only [tokens, entryTokens_eq_map, List.length_cons, List.length_append] at hdepth
    have hle := length_le_intercalate (List.mem_map_of_mem (f := keyedTokens) he)
    simp only [keyedTokens, List.length_cons] at hle
    obtain ⟨n, rfl⟩ : ∃ n, depth = n + 1 := ⟨depth - 1, by omega⟩
    exact ih e he (by omega)

/-! ## The round trip -/

theorem isPlain_of_ne_mark {t : Token} (h : ∀ m, t ≠ .mark m) : IsPlain t := ⟨h _, h _⟩

theorem isPlain_numberTokens (x : Decimal) : ∀ t ∈ numberTokens x, IsPlain t := by
  unfold numberTokens
  split <;> simp [IsPlain]

theorem isPlain_powerTokens (n : Int) : ∀ t ∈ Factor.powerTokens n, IsPlain t := by
  unfold Factor.powerTokens
  split
  · exact fun t ht => by cases ht
  · split <;> simp [IsPlain]

theorem isPlain_unitTokens {q : Quantity} (h : LegibleQuantity q) :
    ∀ t ∈ q.dims.tokens, IsPlain t := by
  intro t ht
  rw [Dimensions.tokens] at ht
  replace ht := List.mem_of_mem_tail ht
  rw [factorsTokens] at ht
  obtain ⟨f, hf, ht⟩ := List.mem_flatMap.1 ht
  have hreadable := Dimensions.readable_factors h.wellFormed.1 h.exponent_le f hf
  rw [List.mem_cons, Factor.tokens, List.mem_cons] at ht
  rcases ht with hmark | hword | ht
  · rw [hmark, Factor.mark]
    split <;> simp [IsPlain]
  · obtain ⟨d, hd⟩ := hreadable.resolves
    have hname := Denomination.unitName?_ofWord hd
    rw [← hword] at hname
    refine isPlain_of_ne_mark fun m hm => ?_
    rw [hm] at hname
    cases hname
  · exact isPlain_powerTokens f.power t ht

theorem isPlain_commas {tss : List (List Token)} (h : ∀ ts ∈ tss, ∀ t ∈ ts, IsPlain t) :
    ∀ t ∈ [.mark .comma].intercalate tss, IsPlain t := by
  intro t ht
  rcases mem_intercalate_comma ht with rfl | ⟨ts, hts, ht⟩
  · simp [IsPlain]
  · exact h ts hts t ht

theorem isPlain_of_mem_tokens (h : d.Legible) : ∀ t ∈ d.tokens, IsPlain t := by
  have hmark (m : Mark) (hm : m ≠ .arrow ∧ m ≠ .equals) : IsPlain (.mark m) := by
    simpa [IsPlain] using hm
  have hbrackets {l r : Mark} {ts : List Token} (hl : IsPlain (.mark l)) (hr : IsPlain (.mark r))
      (hts : ∀ t ∈ ts, IsPlain t) : ∀ t ∈ .mark l :: (ts ++ [.mark r]), IsPlain t :=
    List.forall_mem_cons.2
      ⟨hl, List.forall_mem_append.2 ⟨hts, List.forall_mem_singleton.2 hr⟩⟩
  induction h with
  | null => simp [tokens, IsPlain]
  | bool b => simp [tokens, boolToken, IsPlain]
  | number _ => exact isPlain_numberTokens _
  | quantity hq => exact List.forall_mem_append.2 ⟨isPlain_numberTokens _, isPlain_unitTokens hq⟩
  | string _ => simp [tokens, IsPlain]
  | array hds ih =>
    rw [tokens, itemTokens_eq_map]
    exact hbrackets (hmark _ (by decide)) (hmark _ (by decide))
      (isPlain_commas (List.forall_mem_map.2 ih))
  | object hkeys hdistinct hes ih =>
    rw [tokens, entryTokens_eq_map]
    refine hbrackets (hmark _ (by decide)) (hmark _ (by decide))
      (isPlain_commas (List.forall_mem_map.2 fun e he => ?_))
    refine List.forall_mem_cons.2 ⟨isPlain_of_ne_mark fun m hm => ?_,
      List.forall_mem_cons.2 ⟨hmark _ (by decide), ih e he⟩⟩
    have hname := (hkeys e he).2
    rw [hm] at hname
    cases hname

/-- The text of a legible datum is the source of an expression that builds
it. -/
theorem exists_parse_text (h : d.Legible) : ∃ e, Expr.parse d.text = .ok e ∧ Builds d e := by
  obtain ⟨ts, offset, hts, htext⟩ := lexes_text h .finish 0
  have htokenize : Token.tokenize d.text = ts ++ [⟨.finish, d.text.utf8ByteSize⟩] := by
    have hnil : Token.tokensFrom offset [] = [] := rfl
    rw [List.append_nil, hnil, List.append_nil] at htext
    rw [Token.tokenize, ← htext]
    rfl
  generalize hlast : Placed.mk .finish d.text.utf8ByteSize = last at htokenize
  have htoken : last.token = .finish := hlast ▸ rfl
  have hplain : Plain (ts ++ [last]) := by
    refine plain_append.2 ⟨fun t ht => ?_, List.forall_mem_singleton.2 ?_⟩
    · exact isPlain_of_mem_tokens h _ (hts ▸ List.mem_map_of_mem ht)
    · rw [htoken]
      exact ⟨by simp, by simp⟩
  have hlength : d.tokens.length < depthBound (ts ++ [last]) := by
    have hlt := length_lt_depthBound (ts ++ [last])
    rw [List.length_append] at hlt
    rw [← hts, List.length_map]
    omega
  obtain ⟨n, hn⟩ : ∃ n, depthBound (ts ++ [last]) = n + 1 := ⟨_, (Nat.succ_pred (by omega)).symm⟩
  have hspells : Spells (fun _ => expression (n + 1)) .whole d.tokens (Builds d) :=
    spells_tokens h (by omega)
  obtain ⟨e, he, hread⟩ := hspells ts [last] _ hts hplain
    ⟨.whole, htoken ▸ rfl, Nat.le_refl _⟩ (Nat.le_refl _)
  refine ⟨e, ?_, he⟩
  simp only [Expr.parse, htokenize, Expr.ofTokens, hn, complete, hread, htoken, if_true]

/-- The text of a value that holds legible data, but is no string, is evaluated
to an equal value with the same content. -/
theorem evaluate_render {v : Value} (hv : Held s d v) (hd : d.Legible)
    (hstring : d.isString = false) (ctx : Context) :
    ∃ w t, apart (evaluate ctx (s.render v)) s = .ok w t ∧ Held t d w ∧ t.same v w = true := by
  obtain ⟨e, hparse, hbuilds⟩ := exists_parse_text hd
  let fresh : Session := { s.newScope { bindings := [], parent := none } with root := s.scopes.size }
  obtain ⟨w, t, heval, hext, hheld⟩ := hbuilds ctx (callValue ctx callBound) s.scopes.size fresh
  have heval' : evaluate ctx d.text fresh = .ok w t := by
    unfold evaluate
    rw [hparse]
    exact heval
  have hcells : ∀ c < s.cells.size, t.cells[c]? = s.cells[c]? := fun c hc =>
    hext.cell_eq c hc (by simp)
  have hw : Held { t with root := s.root } d w := hheld.mono fun _ _ => rfl
  refine ⟨w, { t with root := s.root }, ?_, hw, ?_⟩
  · rw [hv.render_eq hd hstring, apart]
    dsimp only
    rw [heval']
  · have hv' : Held { t with root := s.root } d v := hv.mono hcells
    exact hv'.sameTo_eq hw hd hv'.height_le

/-- The units `m/s^2`. -/
def acceleration : Dimensions := ⟨[⟨.length, "m", 1⟩, ⟨.time, "s", -2⟩]⟩

/-- The fall `\x7bg: 9.81 m/s^2, km: [-1.5, "a \"b\"\n", null, true]\x7d`. -/
def fall : Datum :=
  .object [("g", .quantity ⟨.ofScaled 981 2, acceleration⟩),
    ("km", .array [.number (Decimal.ofScaled 15 1).neg, .string "a \"b\"\n", .null, .bool true])]

/-- A session that holds the fall in its second cell. -/
def fallSession : Session :=
  { Session.empty with
    cells := #[.array #[.number (Decimal.ofScaled 150 2).neg, .string "a \"b\"\n", .null, .bool true],
      .object [("g", .quantity ⟨.ofScaled 9810 3, acceleration⟩), ("km", .array 0)]] }

theorem held_fall : Held fallSession fall (.object 1) := by
  refine held_object rfl (.cons ⟨rfl, .quantity (by decide) rfl⟩ (.cons ⟨rfl, ?_⟩ .nil))
  exact held_array rfl (.cons (.number (by decide)) (.cons (.string _) (.cons .null
    (.cons (.bool true) .nil))))

theorem legible_fall : Legible fall := by
  have hquotable : "a \"b\"\n".toList.all Quotable = true := by decide +kernel
  have hq : LegibleQuantity ⟨.ofScaled 981 2, acceleration⟩ :=
    ⟨⟨by decide +kernel, rfl⟩, by decide, by decide, by decide⟩
  refine .object (by decide +kernel) (by decide) ?_
  simp only [List.mem_cons, List.not_mem_nil, or_false, forall_eq_or_imp, forall_eq]
  refine ⟨.quantity hq, .array ?_⟩
  simp only [List.mem_cons, List.not_mem_nil, or_false, forall_eq_or_imp, forall_eq]
  exact ⟨.number (by decide), .string (by simpa using hquotable), .null, .bool true⟩

theorem evaluate_render_fall :
    Held fallSession fall (.object 1) ∧ fall.Legible ∧ fall.isString = false ∧
      ∃ w t, apart (evaluate (.ofClock ⟨0, 0⟩ (.fixed 0)) (fallSession.render (.object 1)))
          fallSession = .ok w t ∧
        Held t fall w ∧ t.same (.object 1) w = true :=
  ⟨held_fall, legible_fall, rfl, evaluate_render held_fall legible_fall rfl _⟩

end Datum

end Reckoner
