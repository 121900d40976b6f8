import Reckoner.Proofs.Datum.Basic

/-!
# The tokens of data

The text of a legible datum is read as its tokens, in front of anything that can
stand behind it: a comma, a closing bracket or the end (`lexes_text`).

* `isNumeral_renderMagnitude`: a written magnitude is a number of its own.
* `lexes_keyword`: null and the truth values are words that nothing is glued to.
* `lexes_commas`: items and entries with commas between them.
-/

namespace Reckoner

namespace Datum

open Token Shape

/-! ## Tokens -/

/-- The tokens of a number: a sign, if there is one, and its magnitude. -/
def numberTokens (x : Decimal) : List Token :=
  (if x.normalize.negative then [.mark .minus] else []) ++
    [.number (Decimal.renderMagnitude x.normalize.mantissa x.normalize.scale)]

/-- The tokens of the truth values. -/
def boolToken (b : Bool) : Token := .keyword (if b then .true_ else .false_)

mutual

/-- The tokens of a datum. -/
def tokens : Datum → List Token
  | null => [.keyword .null]
  | bool b => [boolToken b]
  | number x => numberTokens x
  | quantity q => numberTokens q.magnitude ++ q.dims.tokens
  | string t => [.string .double [.text t]]
  | array ds => .mark .leftBracket :: ([.mark .comma].intercalate (itemTokens ds) ++
      [.mark .rightBracket])
  | object es => .mark .leftBrace :: ([.mark .comma].intercalate (entryTokens es) ++
      [.mark .rightBrace])

/-- The tokens of each item. -/
def itemTokens : List Datum → List (List Token)
  | [] => []
  | d :: ds => d.tokens :: itemTokens ds

/-- The tokens of each entry. -/
def entryTokens : List (String × Datum) → List (List Token)
  | [] => []
  | (key, d) :: es => (keyToken key :: .mark .colon :: d.tokens) :: entryTokens es

end

theorem itemTokens_eq_map (ds : List Datum) : itemTokens ds = ds.map tokens := by
  induction ds with
  | nil => rfl
  | cons d ds ih => rw [itemTokens, ih, List.map_cons]

/-- The tokens of an entry. -/
def keyedTokens (e : String × Datum) : List Token := keyToken e.1 :: .mark .colon :: e.2.tokens

theorem entryTokens_eq_map (es : List (String × Datum)) :
    entryTokens es = es.map keyedTokens := by
  induction es with
  | nil => rfl
  | cons e es ih => rw [entryTokens, ih, List.map_cons, keyedTokens]

/-! ## What may follow -/

/-- The characters that begin no longer mark. -/
def Alone (c : Char) : Prop := c ∉ ['<', '>', '*', '=', '!', '+', '-']

instance (c : Char) : Decidable (Alone c) := inferInstanceAs (Decidable (c ∉ _))

theorem Alone.head?_bind {c : Char} (h : Alone c) (s : List Char) :
    s.head?.bind (doubleMark? c) = none := by
  cases s with
  | nil => rfl
  | cons d s => exact doubleMark?_eq_none h d

theorem lexes_alone {c : Char} {m : Mark} (hc : loneMark? c = some m) (h : Alone c)
    (rest : List Char) : Lexes [c] [.mark m] rest := lexes_mark hc (h.head?_bind rest)

/-- What can stand behind a datum. -/
inductive Closes : List Char → Prop where
  | finish : Closes []
  | comma (rest : List Char) : Closes (',' :: rest)
  | bracket (rest : List Char) : Closes (']' :: rest)
  | brace (rest : List Char) : Closes ('\x7d' :: rest)

variable {rest : List Char}

theorem Closes.ends (h : Closes rest) : Factor.Ends rest := by
  refine ⟨fun d more heq => ?_, ?_⟩
  · cases h with
    | finish => cases heq
    | comma | bracket | brace =>
      obtain ⟨rfl, rfl⟩ := List.cons.inj heq
      exact ⟨rfl, by decide, fun hslash => absurd hslash (by decide)⟩
  · cases h with
    | finish => rfl
    | comma | bracket | brace => exact Option.any_some.trans (by decide)

/-- No slash follows. -/
theorem Closes.ne_slash (h : Closes rest) (offset : Nat) (q : Piece) (more : List Piece)
    (hq : Piece.splitFrom offset 0 rest = q :: more) : q.shape ≠ .mark .slash := by
  have hhead {c : Char} {m : Mark} {more' : List Char} (hc : loneMark? c = some m)
      (halone : Alone c) (hm : m ≠ .slash)
      (hq : Piece.splitFrom offset 0 (c :: more') = q :: more) : q.shape ≠ .mark .slash := by
    have hscan : scan c (([] : List Char) ++ more') = (some (.mark m), ([] : List Char).length + 1) :=
      scan_mark hc (halone.head?_bind more')
    obtain ⟨offset', hsplit⟩ := Piece.splitFrom_of_scan hscan offset
    obtain ⟨rfl, -⟩ := List.cons.inj (hq.symm.trans hsplit)
    exact fun hshape => hm (Shape.mark.inj hshape)
  cases h with
  | finish => cases hq
  | comma => exact hhead rfl (by decide) (by decide) hq
  | bracket => exact hhead rfl (by decide) (by decide) hq
  | brace => exact hhead rfl (by decide) (by decide) hq

/-! ## Numbers and words -/

theorem isNumeral_renderMagnitude (m s : Nat) :
    IsNumeral (Decimal.renderMagnitude m s).toList := by
  unfold Decimal.renderMagnitude
  split
  · exact Factor.isNumeral_toString m
  · rename_i hscale
    have hpos : 0 < s := Nat.pos_of_ne_zero fun h => hscale (beq_iff_eq.2 h)
    dsimp only
    generalize hdigits : (Decimal.padZeros (s + 1) (toString m)).toList = digits
    have hlength : s + 1 ≤ digits.length := hdigits ▸ Decimal.le_length_padZeros (s + 1) m
    have hdigit : ∀ c ∈ digits, c.isDigit = true := fun c hc =>
      Decimal.isDigit_of_mem_padZeros (s + 1) m (hdigits ▸ hc)
    refine ⟨digits.take (digits.length - s), digits.drop (digits.length - s), ?_,
      fun c hc => hdigit c (List.mem_of_mem_take hc),
      fun c hc => hdigit c (List.mem_of_mem_drop hc), .inr ⟨?_, ?_⟩⟩
    · rw [ne_eq, List.take_eq_nil_iff]
      rintro (h | h)
      · omega
      · simp [h] at hlength
    · rw [ne_eq, List.drop_eq_nil_iff]
      omega
    · simp only [String.toList_append, String.toList_ofList, List.append_assoc]
      rfl

theorem lexes_renderMagnitude (m s : Nat) (hrest : EndsNumber rest) :
    Lexes (Decimal.renderMagnitude m s).toList [.number (Decimal.renderMagnitude m s)] rest := by
  have h := lexes_number (isNumeral_renderMagnitude m s) hrest
  rwa [String.ofList_toList] at h

theorem lexes_shown {x : Decimal} (hx : x.normalize.scale ≤ Decimal.shownPlaces)
    (hrest : EndsNumber rest) : Lexes x.shown.toList (numberTokens x) rest := by
  rw [Decimal.shown_eq_render hx, Decimal.render, numberTokens, String.toList_append]
  generalize x.normalize = y
  have hnumber := lexes_renderMagnitude y.mantissa y.scale hrest
  split
  · obtain ⟨c, cs, hcs⟩ : ∃ c cs, (Decimal.renderMagnitude y.mantissa y.scale).toList = c :: cs ∧
        c.isDigit = true := by
      obtain ⟨front, back, hne, hfront, -, htext⟩ := isNumeral_renderMagnitude y.mantissa y.scale
      obtain ⟨c, cs, rfl⟩ := List.exists_cons_of_ne_nil hne
      have hc := hfront c List.mem_cons_self
      rcases htext with htext | ⟨-, htext⟩
      · exact ⟨c, cs, htext, hc⟩
      · exact ⟨c, _, htext, hc⟩
    refine Lexes.append (lexes_mark rfl ?_) hnumber
    rw [hcs.1]
    exact Factor.doubleMark?_of_isWordPart (Factor.isWordPart_of_isDigit hcs.2) _
  · exact hnumber

/-- A word that is written in small letters and stands for a keyword. -/
theorem lexes_keyword {word : String} {k : Keyword} (hk : ofWord word = .keyword k)
    (hstart : word.toList.head?.any Text.isWordStart = true)
    (hpart : word.toList.all Text.isWordPart = true) (huniversal : isUniversal word = false)
    (hcity : Zone.cityOpeners.contains (Text.toLower word) = false) (hrest : Closes rest) :
    Lexes word.toList [.keyword k] rest := by
  obtain ⟨c, cs, hcs⟩ : ∃ c cs, word.toList = c :: cs :=
    List.exists_cons_of_ne_nil fun hnil => by simp [hnil] at hstart
  have hword : String.ofList (c :: cs) = word := by rw [← hcs, String.ofList_toList]
  rw [hcs] at hstart hpart ⊢
  have hlex := lexes_word hstart
    (fun d hd => List.all_eq_true.1 hpart d (List.mem_cons_of_mem _ hd)) hrest.ends.word
    fun offset offset' => by
      refine glueZone?_eq_none ?_ ?_ (glueRegion?_eq_none (hrest.ne_slash offset') _ _ _)
      · rw [hword]
        exact huniversal
      · rw [hword]
        exact hcity
  rwa [hword, hk] at hlex

theorem lexes_null (hrest : Closes rest) : Lexes "null".toList [.keyword .null] rest :=
  lexes_keyword (by decide) (by decide) (by decide +kernel) (by decide +kernel)
    (by decide +kernel) hrest

theorem lexes_bool (b : Bool) (hrest : Closes rest) :
    Lexes (if b then "true" else "false").toList [boolToken b] rest := by
  cases b with
  | true =>
    exact lexes_keyword (by decide +kernel) (by decide +kernel) (by decide +kernel)
      (by decide) (by decide +kernel) hrest
  | false =>
    exact lexes_keyword (by decide +kernel) (by decide +kernel) (by decide +kernel)
      (by decide +kernel) (by decide +kernel) hrest

theorem lexes_quantity {q : Quantity} (h : LegibleQuantity q) (hrest : Closes rest) :
    Lexes q.render.toList (numberTokens q.magnitude ++ q.dims.tokens) rest := by
  have hblank : EndsNumber (' ' :: (q.dims.render.toList ++ rest)) := by
    intro d more heq
    obtain ⟨rfl, -⟩ := List.cons.inj heq
    exact ⟨rfl, by decide, fun hslash => absurd hslash (by decide)⟩
  have hunits := Dimensions.lexes_render h.wellFormed.1 h.wellFormed.2 h.exponent_le hrest.ends
  rw [Quantity.render, String.append_assoc, String.toList_append, String.toList_append]
  exact (lexes_shown h.places_le hblank).append ((lexes_blank _).append hunits)

/-! ## Items -/

/-- Texts with commas between them, each read as tokens of its own. -/
theorem lexes_commas {α : Type} {text : α → String} {spell : α → List Token} {xs : List α}
    (hxs : ∀ x ∈ xs, ∀ rest, Closes rest → Lexes (text x).toList (spell x) rest)
    (hrest : Closes rest) :
    Lexes (", ".intercalate (xs.map text)).toList ([.mark .comma].intercalate (xs.map spell))
      rest := by
  rw [String.toList_intercalate, List.map_map]
  induction xs with
  | nil => exact lexes_nil rest
  | cons x xs ih =>
    obtain ⟨hx, hxs⟩ := List.forall_mem_cons.1 hxs
    cases xs with
    | nil => simpa using hx rest hrest
    | cons y ys =>
      rw [List.map_cons, List.map_cons, List.map_cons, List.map_cons, List.intercalate_cons_cons,
        List.intercalate_cons_cons, ← List.map_cons, ← List.map_cons, List.append_assoc,
        List.append_assoc]
      have hcomma (more : List Char) : Lexes [',', ' '] [.mark .comma] more :=
        (lexes_mark (c := ',') rfl rfl).append (lexes_blank more)
      exact (hx _ (.comma _)).append ((hcomma _).append (ih hxs))

/-- The text of a legible datum is read as its tokens. -/
theorem lexes_text {d : Datum} (h : d.Legible) (hrest : Closes rest) :
    Lexes d.text.toList d.tokens rest := by
  induction h generalizing rest with
  | null => exact lexes_null hrest
  | bool b => exact lexes_bool b hrest
  | number hx => exact lexes_shown hx hrest.ends.number
  | quantity hq => exact lexes_quantity hq hrest
  | string ht => exact lexes_quoted (fun c hc => (ht c hc).ne_codePoint) rest
  | @array ds hds ih =>
    have hitems := lexes_commas (fun d hd _ hrest => ih d hd hrest) (Closes.bracket rest)
    rw [text, tokens, itemTexts_eq_map, itemTokens_eq_map, String.toList_append,
      String.toList_append, List.append_assoc]
    exact (lexes_alone (c := '[') rfl (by decide) _).append
      (hitems.append (lexes_alone (c := ']') rfl (by decide) rest))
  | @object es hkeys hdistinct hes ih =>
    have hentry : ∀ e ∈ es, ∀ rest, Closes rest →
        Lexes (e.1 ++ ": " ++ e.2.text).toList (keyedTokens e) rest := by
      intro e he rest hrest
      have hcolon (more : List Char) : Lexes [':', ' '] [.mark .colon] more :=
        (lexes_alone (c := ':') rfl (by decide) _).append (lexes_blank more)
      rw [String.append_assoc, String.toList_append, String.toList_append]
      exact (lexes_key (hkeys e he) _).append ((hcolon _).append (ih e he hrest))
    have hentries := lexes_commas hentry (Closes.brace rest)
    rw [text, tokens, entryTexts_eq_map, entryTokens_eq_map, String.toList_append,
      String.toList_append, List.append_assoc]
    exact (lexes_alone (c := '\x7b') rfl (by decide) _).append
      (hentries.append (lexes_alone (c := '\x7d') rfl (by decide) rest))

end Datum

end Reckoner
