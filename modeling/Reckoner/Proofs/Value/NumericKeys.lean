import Reckoner.Proofs.Assignment.Compound
import Reckoner.Proofs.Assignment.Names
import Reckoner.Proofs.Decimal.Plain
import Reckoner.Proofs.Session.Objects
import Reckoner.Proofs.Token.Numbers
import Reckoner.Proofs.Value.Elements

/-!
# Numbers as keys

In an object that is written down a number is a key as it is spelled.  Everywhere else a number
stands for the key that it is shown as, so only plain numerals meet their own spelling.

* `operand_entry`, `suffixed_access` and `ofTokens_indexedEntry`: how an entry and an access to it
  are read.
* `callBuiltin_get`, `callBuiltin_has` and `keys_of_put`: what the functions on objects do with a
  number where there is one entry.
* `numeric_keys_meet_iff` puts these together for every number that a source holds.
-/

namespace Reckoner

open Grammar Eval

/-! ## Reading -/

namespace Grammar

variable {expr : Reader Expr} {text : String} {ts us rest : List Placed} {e k : Expr}

/-- A number that the end of an expression follows. -/
theorem statement_number {x : Decimal} (hx : Decimal.parseNumber? text = some x) (p : Nat)
    {u : Placed} (hu : level? u.token = some .whole) :
    statement expr (⟨.number text, p⟩ :: u :: rest) = .ok (.number x [] p, u :: rest) := by
  refine statement_of_operand ?_ ⟨.whole, hu, Nat.le_refl _⟩ rfl rfl
  show (numberLiteral text [] p >>= fun e => Except.ok (e, u :: rest)) = _
  rw [numberLiteral, hx]
  rfl

/-- An object with one entry, whose key is a number as it is spelled. -/
theorem operand_entry {r : Nat} (hvalue : expr ts = .ok (e, ⟨.mark .rightBrace, r⟩ :: rest))
    (p p' p'' : Nat) :
    operand expr (⟨.mark .leftBrace, p⟩ :: ⟨.number text, p'⟩ :: ⟨.mark .colon, p''⟩ :: ts) =
      .ok (.object [(text, e)] p, rest) := by
  have hentry : entry expr (⟨.number text, p'⟩ :: ⟨.mark .colon, p''⟩ :: ts) =
      .ok ((text, e), ⟨.mark .rightBrace, r⟩ :: rest) := by
    show (expr ts >>= _) = _
    rw [hvalue]
    rfl
  have hitems : items (entry expr) .rightBrace
      (⟨.number text, p'⟩ :: ⟨.mark .colon, p''⟩ :: ts) = .ok ([(text, e)], rest) :=
    itemsUntil_of_closing rfl hentry rfl (by decide)
  show (items (entry expr) .rightBrace _ >>= _) = _
  rw [hitems]
  rfl

/-- One access behind an operand. -/
theorem suffixed_access {p q : Nat}
    (hoperand : operand expr ts = .ok (e, ⟨.mark .leftBracket, p⟩ :: us))
    (hkey : expr us = .ok (k, ⟨.mark .rightBracket, q⟩ :: rest)) (hrest : Follows .sum rest) :
    suffixed expr ts = .ok (.access e k p, rest) := by
  rw [suffixed, hoperand]
  show (expr us >>= _) = _
  rw [hkey]
  exact suffixes_stop _ _ _ (hrest.mono (by decide))

end Grammar

/-- The tokens behind the value of an entry that closes an object, where the value of a number is
asked for. -/
def closing (text : String) (o : Nat → Nat) : List Placed :=
  [⟨.mark .rightBrace, o 3⟩, ⟨.mark .leftBracket, o 4⟩, ⟨.number text, o 5⟩,
    ⟨.mark .rightBracket, o 6⟩, ⟨.finish, o 7⟩]

/-- The tokens of an object with one entry, whose key is a number, and of an access to it with
the same number. -/
def indexedEntry (text : String) (value : List Placed) (o : Nat → Nat) : List Placed :=
  ⟨.mark .leftBrace, o 0⟩ :: ⟨.number text, o 1⟩ :: ⟨.mark .colon, o 2⟩ ::
    (value ++ closing text o)

variable {text : String} {x : Decimal} {value : List Placed} {o : Nat → Nat} {e : Expr}

/-- The key of the entry is the spelling, and the access asks for the number. -/
theorem ofTokens_indexedEntry (hx : Decimal.parseNumber? text = some x)
    (hread : expression (depthBound (value ++ closing text o)) (value ++ closing text o) =
      .ok (e, closing text o)) :
    Expr.ofTokens (indexedEntry text value o) =
      .ok (.access (.object [(text, e)] (o 0)) (.number x [] (o 5)) (o 4)) := by
  obtain ⟨d, hd, hle⟩ : ∃ d, depthBound (indexedEntry text value o) = d + 1 + 1 ∧
      depthBound (value ++ closing text o) ≤ d + 1 := by
    rw [indexedEntry, depthBound_cons, depthBound_cons, depthBound_cons]
    exact ⟨1 + depthBound (value ++ closing text o), by simp only [tokenDepth]; omega, by omega⟩
  have hoperand : operand (expression (d + 1)) (indexedEntry text value o) =
      .ok (.object [(text, e)] (o 0), (closing text o).tail) :=
    operand_entry (expression_mono hle hread) (o 0) (o 1) (o 2)
  have hkey : expression (d + 1) ((closing text o).drop 2) =
      .ok (.number x [] (o 5), [⟨.mark .rightBracket, o 6⟩, ⟨.finish, o 7⟩]) :=
    statement_number hx (o 5) rfl
  have hfinish : Follows .whole [⟨.finish, o 7⟩] := ⟨.whole, rfl, Nat.le_refl _⟩
  have hstatement : statement (expression (d + 1)) (indexedEntry text value o) =
      .ok (.access (.object [(text, e)] (o 0)) (.number x [] (o 5)) (o 4), [⟨.finish, o 7⟩]) :=
    statement_of_suffixed (suffixed_access hoperand hkey (hfinish.mono (by decide))) hfinish rfl rfl
  rw [Expr.ofTokens, hd, complete, expression, hstatement]
  rfl

/-! ## Values -/

variable {ctx : Context} {call : Caller} {s t : Session} {v : Value} {c q : Nat}

/-- What stands under a key in an object with one entry. -/
theorem find?_entry (text key : String) (v : Value) :
    (Entries.find? [(text, v)] key).getD .null = if key = text then v else .null := by
  by_cases hkey : key = text
  · rw [if_pos hkey, hkey]
    simp [Entries.find?]
  · rw [if_neg hkey]
    simp [Entries.find?, List.lookup_cons, beq_false_of_ne hkey]

/-- The number asks for the entry if it is shown as the entry is spelled. -/
theorem evaluateTokens_indexedEntry (hx : Decimal.parseNumber? text = some x)
    (hread : expression (depthBound (value ++ closing text o)) (value ++ closing text o) =
      .ok (e, closing text o))
    (he : evalExpr ctx (callValue ctx callBound) s.root e s = .ok v t) :
    evaluateTokens ctx (indexedEntry text value o) s =
      .ok (if x.shown = text then v else .null) (t.newCell (.object [(text, v)])) := by
  have hobject := evalExpr_entry he text (o 0)
  generalize hu : t.newCell (.object [(text, v)]) = u at hobject ⊢
  have hentries : u.entries t.cells.size = [(text, v)] := by
    rw [← hu, Session.entries_newCell]
  have haccess : access u (.object t.cells.size) (.number x) (o 4) =
      .ok (if x.shown = text then v else .null) := by
    rw [← find?_entry, ← hentries]
    rfl
  rw [evaluateTokens_of_ok (ofTokens_indexedEntry hx hread), evalExpr, bind_of_ok hobject,
    evalExpr]
  show (liftM (access u (.object t.cells.size) (.number x) (o 4)) : EvalM Value) u = _
  rw [haccess]
  rfl

/-! ## Functions -/

theorem callBuiltin_get (hc : s.entries c = [(text, v)]) (x : Decimal) :
    callBuiltin ctx call .get [.object c, .number x] q s =
      .ok (if x.shown = text then v else .null) s := by
  rw [← find?_entry, ← hc]
  rfl

theorem callBuiltin_has (hc : s.entries c = [(text, v)]) (x : Decimal) :
    callBuiltin ctx call .has [.object c, .number x] q s =
      .ok (.bool (decide (x.shown = text))) s := by
  have hkey : (s.entries c).hasKey x.shown = decide (x.shown = text) := by
    rw [hc, Bool.eq_iff_iff, Entries.hasKey_iff, decide_eq_true_eq]
    exact List.mem_singleton
  rw [← hkey]
  rfl

/-- The keys once a value was put under a number. -/
theorem keys_of_put (hc : s.entries c = [(text, v)]) (hlt : c < s.cells.size) (ctx : Context)
    (call : Caller) (x : Decimal) (w : Value) (q : Nat) :
    ∃ t a u, callBuiltin ctx call .put [.object c, .number x, w] q s = .ok (.object c) t ∧
      callBuiltin ctx call .keys [.object c] q t = .ok (.array a) u ∧
      (u.items a).toList = (if x.shown = text then [text] else [text, x.shown]).map .string := by
  have hcopy : Session.Extends none s (Session.copy w s).2 := Session.extends_copyTo _ w s
  have hentries : (Session.copy w s).2.entries c = [(text, v)] := (hcopy.entries_eq hlt).trans hc
  have hkeys : Entries.keys (Entries.insert [(text, v)] x.shown (Session.copy w s).1) =
      if x.shown = text then [text] else [text, x.shown] := by
    rw [Entries.keys_insert]
    exact if_congr List.mem_singleton rfl rfl
  generalize ht : (Session.copy w s).2.setCell c
    (.object (((Session.copy w s).2.entries c).insert x.shown (Session.copy w s).1)) = t
  have hput : t.entries c = Entries.insert [(text, v)] x.shown (Session.copy w s).1 := by
    rw [← ht, Session.entries_setCell (Nat.lt_of_lt_of_le hlt hcopy.size_le), hentries]
  refine ⟨t, t.cells.size, t.newCell (.array ((t.entries c).keys.map .string).toArray), ?_, rfl, ?_⟩
  · rw [← ht]
    rfl
  · rw [Session.items_newCell, List.toList_toArray, hput, hkeys]

/-! ## All together -/

/-- A number of a source is shown as it is spelled exactly if it is spelled plainly.  Then an
entry that is written down under it is what an access, `get` and `has` with the number find, and
`set` replaces it; otherwise they find nothing, and `set` adds a second key. -/
theorem numeric_keys_meet_iff {source : String} {p : Nat}
    (htoken : ⟨.number text, p⟩ ∈ Token.tokenize source)
    (hx : Decimal.parseNumber? text = some x) :
    (x.shown = text ↔ Decimal.IsPlain text.toList) ∧
    (∀ value o e, expression (depthBound (value ++ closing text o)) (value ++ closing text o) =
        .ok (e, closing text o) →
      ∀ ctx s v t, evalExpr ctx (callValue ctx callBound) s.root e s = .ok v t →
        evaluateTokens ctx (indexedEntry text value o) s =
          .ok (if x.shown = text then v else .null) (t.newCell (.object [(text, v)]))) ∧
    ∀ ctx call q s c v, s.cells[c]? = some (.object [(text, v)]) →
      callBuiltin ctx call .get [.object c, .number x] q s =
        .ok (if x.shown = text then v else .null) s ∧
      callBuiltin ctx call .has [.object c, .number x] q s =
        .ok (.bool (decide (x.shown = text))) s ∧
      ∀ w, ∃ t a u,
        callBuiltin ctx call .put [.object c, .number x, w] q s = .ok (.object c) t ∧
        callBuiltin ctx call .keys [.object c] q t = .ok (.array a) u ∧
        (u.items a).toList = (if x.shown = text then [text] else [text, x.shown]).map .string := by
  have hsign : text.toList.head? ≠ some '-' := by
    obtain ⟨d, ds, htext, hd⟩ := Token.numbered_tokenize source _ htoken text rfl
    rw [htext]
    intro h
    cases h
    cases hd
  refine ⟨Decimal.shown_eq_iff hx hsign,
    fun value o e hread ctx s v t he => evaluateTokens_indexedEntry hx hread he,
    fun ctx call q s c v hc => ?_⟩
  have hentries : s.entries c = [(text, v)] := by rw [Session.entries, hc]
  obtain ⟨hlt, -⟩ := Array.getElem?_eq_some_iff.1 hc
  exact ⟨callBuiltin_get hentries x, callBuiltin_has hentries x,
    fun w => keys_of_put hentries hlt ctx call x w q⟩

/-- Two and a half as everyone writes it, and as no result is shown. -/
theorem numeric_keys_meet_iff_half :
    let ctx := Context.ofClock ⟨0, 0⟩ (.fixed 0)
    let half : Decimal := { negative := false, mantissa := 25, scale := 1 }
    let long : Decimal := { negative := false, mantissa := 250, scale := 2 }
    let five : List Placed := [⟨.number "5", 0⟩]
    let o : Nat → Nat := fun n => n
    let s := Session.empty.newCell (.object [("2.5", .ofNat 5)])
    ⟨.number "2.5", 0⟩ ∈ Token.tokenize "2.5" ∧ ⟨.number "2.50", 0⟩ ∈ Token.tokenize "2.50" ∧
      Decimal.parseNumber? "2.5" = some half ∧ Decimal.parseNumber? "2.50" = some long ∧
      Decimal.IsPlain "2.5".toList ∧ ¬Decimal.IsPlain "2.50".toList ∧
      evaluateTokens ctx (indexedEntry "2.5" five o) .empty =
        .ok (.ofNat 5) (Session.empty.newCell (.object [("2.5", .ofNat 5)])) ∧
      evaluateTokens ctx (indexedEntry "2.50" five o) .empty =
        .ok .null (Session.empty.newCell (.object [("2.50", .ofNat 5)])) ∧
      callBuiltin ctx (callValue ctx callBound) .get [.object 0, .number half] 0 s =
        .ok (.ofNat 5) s := by
  intro ctx half long five o s
  have hhalf : Decimal.parseNumber? "2.5" = some half := by decide
  have hlong : Decimal.parseNumber? "2.50" = some long := by decide
  have hhalfToken : ⟨.number "2.5", 0⟩ ∈ Token.tokenize "2.5" := by decide
  have hlongToken : ⟨.number "2.50", 0⟩ ∈ Token.tokenize "2.50" := by decide +kernel
  have hshown : half.shown = "2.5" := by decide +kernel
  have hother : long.shown ≠ "2.50" := by decide +kernel
  have hfive : Decimal.parseNumber? "5" = some (.ofNat 5) := by decide
  obtain ⟨hplain, hindex, hfunctions⟩ := numeric_keys_meet_iff hhalfToken hhalf
  obtain ⟨hplain', hindex', -⟩ := numeric_keys_meet_iff hlongToken hlong
  have hfound := hindex five o _ (statement_number hfive 0 rfl) ctx .empty (.ofNat 5) .empty rfl
  have hmissed := hindex' five o _ (statement_number hfive 0 rfl) ctx .empty (.ofNat 5) .empty rfl
  have hget := (hfunctions ctx (callValue ctx callBound) 0 s 0 (.ofNat 5) rfl).1
  rw [if_pos hshown] at hfound hget
  rw [if_neg hother] at hmissed
  exact ⟨hhalfToken, hlongToken, hhalf, hlong, hplain.1 hshown, fun h => hother (hplain'.2 h),
    hfound, hmissed, hget⟩

/-- One with a needless zero is not found under its own spelling, and gets a second key. -/
theorem numeric_keys_miss :
    let ctx := Context.ofClock ⟨0, 0⟩ (.fixed 0)
    ⟨.number "1.0", 1⟩ ∈ Token.tokenize "\x7b1.0: 5\x7d[1.0]" ∧
      textOfX ctx "x = \x7b1.0: 5\x7d[1.0]" .empty = some "null" ∧
      textOfX ctx "x = has(\x7b1.0: 5\x7d, 1.0)" .empty = some "false" ∧
      textOfX ctx "x = keys(set(\x7b1.0: 5\x7d, 1.0, 6))" .empty = some "[\"1.0\", \"1\"]" := by
  decide +kernel

end Reckoner
