import Reckoner.Proofs.Decimal.Text
import Reckoner.Proofs.Grammar.Levels
import Reckoner.Proofs.Quantity.WellFormed
import Reckoner.Proofs.Token.Spelling

/-!
# Reading back units

Units are read as they are written, in whichever of the three layouts:
`kg*m`, `m/s` or `s^-1`.

* `factors` are the units in the order in which they are written, with the
  powers as they are written; `toList_render` says so.
* `lexes_render`: the tokens of the text.
* `takeUnits?_tokens`: the terms that the grammar takes of the tokens.
* `ofTerms_factors`: these terms give the same units, for any rates, since no
  category comes twice and so nothing is converted.
-/

namespace Reckoner

/-! ## Written units -/

/-- A unit of which a quantity is made, with its power as it is written. -/
structure Factor where
  /-- Whether it stands behind a slash. -/
  divides : Bool
  unit : String
  power : Int
deriving DecidableEq, Repr

namespace Factor

/-- The mark in front. -/
def mark (f : Factor) : Mark := if f.divides then .slash else .star

/-- The character in front. -/
def char (f : Factor) : Char := if f.divides then '/' else '*'

/-- The term that it stands for. -/
def term (f : Factor) : UnitTerm :=
  { unit := f.unit, exponent := (if f.divides then -1 else 1) * f.power }

/-- The unit with its power. -/
def text (f : Factor) : List Char := (Dimensions.renderPower f.unit f.power).toList

/-- The tokens of a power: none if it is one. -/
def powerTokens (n : Int) : List Token :=
  if n = 1 then []
  else .mark .caret ::
    ((if n < 0 then [.mark .minus] else []) ++ [.number (toString n.natAbs)])

/-- The tokens of the unit with its power. -/
def tokens (f : Factor) : List Token := Token.ofWord f.unit :: powerTokens f.power

/-- The unit stands for something, and its power can be read. -/
structure Readable (f : Factor) : Prop where
  resolves : ∃ d, Denomination.ofName? f.unit = some d
  power_le : f.power.natAbs ≤ Text.maxWord

end Factor

/-- The text of units with the mark in front of each. -/
def factorsText (fs : List Factor) : List Char := fs.flatMap fun f => f.char :: f.text

/-- The tokens of units with the mark in front of each. -/
def factorsTokens (fs : List Factor) : List Token := fs.flatMap fun f => .mark f.mark :: f.tokens

namespace Dimensions

/-- The terms that are written in front of all slashes: those with a positive
power, or all if there is none. -/
def front (d : Dimensions) : List Term :=
  if (d.terms.filter fun t => 0 < t.exponent).isEmpty then d.terms
  else d.terms.filter fun t => 0 < t.exponent

/-- The terms that are written behind slashes. -/
def back (d : Dimensions) : List Term :=
  if (d.terms.filter fun t => 0 < t.exponent).isEmpty then []
  else d.terms.filter fun t => t.exponent < 0

/-- The units in the order in which they are written. -/
def factors (d : Dimensions) : List Factor :=
  d.front.map (fun t => { divides := false, unit := t.unit, power := t.exponent }) ++
    d.back.map fun t => { divides := true, unit := t.unit, power := -t.exponent }

/-- The tokens of units. -/
def tokens (d : Dimensions) : List Token := (factorsTokens d.factors).tail

theorem intercalate_eq_tail {α β : Type} (sep : α) (text : β → List α) (xs : List β) :
    [sep].intercalate (xs.map text) = (xs.flatMap fun x => sep :: text x).tail := by
  induction xs with
  | nil => rfl
  | cons x xs ih =>
    cases xs with
    | nil => simp
    | cons y ys =>
      rw [List.map_cons, List.map_cons, List.intercalate_cons_cons, ← List.map_cons, ih]
      simp

theorem toList_render (d : Dimensions) (hd : ∀ t ∈ d.terms, t.exponent ≠ 0) :
    d.render.toList = (factorsText d.factors).tail := by
  have hfront (ts : List Term) :
      ("*".intercalate (ts.map fun t => renderPower t.unit t.exponent)).toList =
        (factorsText (ts.map fun t =>
          { divides := false, unit := t.unit, power := t.exponent })).tail := by
    rw [String.toList_intercalate, List.map_map]
    refine (intercalate_eq_tail '*' _ ts).trans ?_
    rw [factorsText, List.flatMap_map]
    rfl
  have hback (ts : List Term) :
      ("/".intercalate (ts.map fun t => renderPower t.unit (-t.exponent))).toList =
        (factorsText (ts.map fun t =>
          { divides := true, unit := t.unit, power := -t.exponent })).tail := by
    rw [String.toList_intercalate, List.map_map]
    refine (intercalate_eq_tail '/' _ ts).trans ?_
    rw [factorsText, List.flatMap_map]
    rfl
  unfold render
  simp only [List.isEmpty_map]
  cases hnegative : (d.terms.filter fun t => t.exponent < 0).isEmpty with
  | true =>
    have hpositive : d.terms.filter (fun t => 0 < t.exponent) = d.terms := by
      rw [List.filter_eq_self]
      intro t ht
      have hle := List.filter_eq_nil_iff.1 (List.isEmpty_iff.1 hnegative) t ht
      have hne := hd t ht
      simp only [decide_eq_true_eq] at hle ⊢
      omega
    have hfactors : d.factors =
        d.terms.map fun t => { divides := false, unit := t.unit, power := t.exponent } := by
      rw [factors, front, back, hpositive, List.isEmpty_iff.1 hnegative]
      simp
    rw [if_pos rfl, hpositive, hfront, hfactors]
  | false =>
    rw [if_neg Bool.false_ne_true]
    cases hpositive : (d.terms.filter fun t => 0 < t.exponent).isEmpty with
    | true =>
      rw [if_pos rfl, hfront, factors, front, back, hpositive, if_pos rfl, if_pos rfl, List.map_nil,
        List.append_nil]
    | false =>
      rw [if_neg Bool.false_ne_true, String.toList_append, String.toList_append, hfront, hback,
        factors, front, back, hpositive, if_neg Bool.false_ne_true, if_neg Bool.false_ne_true]
      obtain ⟨t, ts, hts⟩ := List.exists_cons_of_ne_nil (List.isEmpty_eq_false_iff.1 hpositive)
      obtain ⟨u, us, hus⟩ := List.exists_cons_of_ne_nil (List.isEmpty_eq_false_iff.1 hnegative)
      rw [hts, hus]
      simp [factorsText, Factor.char]

theorem perm_front_back (d : Dimensions) (hd : ∀ t ∈ d.terms, t.exponent ≠ 0) :
    (d.front ++ d.back).Perm d.terms := by
  unfold front back
  split
  · rw [List.append_nil]
  · have hnegative : (d.terms.filter fun t => t.exponent < 0) =
        d.terms.filter fun t => !decide (0 < t.exponent) := by
      refine List.filter_congr fun t ht => ?_
      have hne := hd t ht
      rw [← decide_not]
      exact decide_eq_decide.2 (by omega)
    rw [hnegative]
    exact List.filter_append_perm _ _

/-- What a list of units is read as. -/
def unitTerms (ts : List Term) : List UnitTerm :=
  ts.map fun t => { unit := t.unit, exponent := t.exponent }

theorem map_term_factors (d : Dimensions) :
    d.factors.map Factor.term = unitTerms (d.front ++ d.back) := by
  simp only [factors, unitTerms, List.map_append, List.map_map]
  congr 1
  · refine List.map_congr_left fun t _ => ?_
    simp [Factor.term]
  · refine List.map_congr_left fun t _ => ?_
    simp [Factor.term]

theorem readable_factors {d : Dimensions} (h : d.WellFormed)
    (hle : ∀ t ∈ d.terms, t.exponent.natAbs ≤ Text.maxWord) : ∀ f ∈ d.factors, f.Readable := by
  have hterm {t : Term} (ht : t ∈ d.front ++ d.back) :
      (∃ u, Denomination.ofName? t.unit = some u) ∧ t.exponent.natAbs ≤ Text.maxWord := by
    have hmem := (d.perm_front_back h.nonzero).mem_iff.1 ht
    obtain ⟨u, hu, -⟩ := h.resolves t hmem
    exact ⟨⟨u, hu⟩, hle t hmem⟩
  intro f hf
  rcases List.mem_append.1 hf with hf | hf
  · obtain ⟨t, ht, rfl⟩ := List.mem_map.1 hf
    obtain ⟨hu, hle⟩ := hterm (List.mem_append_left _ ht)
    exact ⟨hu, hle⟩
  · obtain ⟨t, ht, rfl⟩ := List.mem_map.1 hf
    obtain ⟨hu, hle⟩ := hterm (List.mem_append_right _ ht)
    exact ⟨hu, by rw [Int.natAbs_neg]; exact hle⟩

/-- The first unit stands behind no slash. -/
theorem exists_cons_factors {d : Dimensions} (h : d.isEmpty = false) :
    ∃ f fs, d.factors = f :: fs ∧ f.divides = false := by
  have hfront : d.front ≠ [] := by
    unfold front
    split
    · exact List.isEmpty_eq_false_iff.1 h
    · rename_i hpositive
      exact fun hnil => hpositive (List.isEmpty_iff.2 hnil)
  obtain ⟨t, ts, hts⟩ := List.exists_cons_of_ne_nil hfront
  exact ⟨_, _, by rw [factors, hts, List.map_cons, List.cons_append], rfl⟩

end Dimensions

/-! ## Tokens -/

namespace Factor

open Token Shape

/-- What can stand behind a unit with its power. -/
structure Ends (rest : List Char) : Prop where
  number : EndsNumber rest
  word : rest.head?.any Text.isWordPart = false

theorem isWordPart_of_isDigit {c : Char} (h : c.isDigit = true) : Text.isWordPart c = true := by
  have hrange := isDigit_iff.1 h
  rw [Text.isWordPart, Text.isNumber, if_pos (by omega), h, Bool.or_true, Bool.true_or]

theorem isWordPart_of_isWordStart {c : Char} (h : Text.isWordStart c = true) :
    Text.isWordPart c = true := by
  rw [Text.isWordStart, Bool.or_eq_true] at h
  rw [Text.isWordPart, Bool.or_eq_true, Bool.or_eq_true]
  exact h.imp_left .inl

/-- No mark goes on with a word or a number. -/
theorem doubleMark?_of_isWordPart {d : Char} (h : Text.isWordPart d = true) (c : Char) :
    doubleMark? c d = none := by
  unfold doubleMark?
  split
  all_goals first | rfl | exact absurd h (by decide)

theorem isNumeral_toString (n : Nat) : IsNumeral (toString n).toList :=
  ⟨(toString n).toList, [], Decimal.toList_toString_ne_nil n,
    fun _ hc => Decimal.isDigit_of_mem_toString hc, by simp, .inl rfl⟩

theorem head?_bind_doubleMark? {text rest : List Char} (hne : text ≠ [])
    (h : ∀ c ∈ text, Text.isWordPart c = true) (c : Char) :
    (text ++ rest).head?.bind (doubleMark? c) = none := by
  obtain ⟨d, ds, rfl⟩ := List.exists_cons_of_ne_nil hne
  exact doubleMark?_of_isWordPart (h d List.mem_cons_self) c

theorem toList_toString_int (n : Int) :
    (toString n).toList = (if n < 0 then ['-'] else []) ++ (toString n.natAbs).toList := by
  cases n with
  | ofNat n => rfl
  | negSucc n =>
    rw [if_pos (Int.negSucc_lt_zero n)]
    exact String.toList_append

/-- A power is read as its tokens. -/
theorem lexes_int (n : Int) {rest : List Char} (hrest : Ends rest) :
    Lexes (toString n).toList
      ((if n < 0 then [.mark .minus] else []) ++ [.number (toString n.natAbs)]) rest := by
  have hnumber : Lexes (toString n.natAbs).toList [.number (toString n.natAbs)] rest := by
    have h := lexes_number (isNumeral_toString n.natAbs) hrest.number
    rwa [String.ofList_toList] at h
  rw [toList_toString_int]
  split
  · refine Lexes.append (lexes_mark rfl ?_) hnumber
    exact head?_bind_doubleMark? (Decimal.toList_toString_ne_nil _)
      (fun c hc => isWordPart_of_isDigit (Decimal.isDigit_of_mem_toString hc)) _
  · exact hnumber

theorem lexes_text {f : Factor} (hf : f.Readable) {rest : List Char} (hrest : Ends rest) :
    Lexes f.text f.tokens rest := by
  obtain ⟨d, hd⟩ := hf.resolves
  unfold text tokens powerTokens Dimensions.renderPower
  split
  · exact Denomination.lexes_spelling hd hrest.word
  · rw [String.append_assoc, String.toList_append, String.toList_append]
    have hcaret : Lexes ['^'] [.mark .caret] ((toString f.power).toList ++ rest) :=
      lexes_mark rfl (by
        cases (toString f.power).toList ++ rest with
        | nil => rfl
        | cons d ds => exact doubleMark?_eq_none (c := '^') (by decide) d)
    have hword : Text.isWordPart '^' = false := by decide +kernel
    have hstop : ("^".toList ++ (toString f.power).toList ++ rest).head?.any Text.isWordPart =
        false := hword
    exact (Denomination.lexes_spelling hd hstop).append (hcaret.append (lexes_int f.power hrest))

theorem exists_cons_text {f : Factor} (hf : f.Readable) :
    ∃ c cs, f.text = c :: cs ∧ Text.isWordStart c = true := by
  obtain ⟨d, hd⟩ := hf.resolves
  obtain ⟨c, cs, hu, hc, -⟩ := Denomination.exists_wordStart hd
  unfold text Dimensions.renderPower
  split
  · exact ⟨c, cs, hu, hc⟩
  · rw [String.append_assoc, String.toList_append, hu]
    exact ⟨c, _, rfl, hc⟩

theorem ends_mark {f : Factor} (hf : f.Readable) (rest : List Char) :
    Ends (f.char :: f.text ++ rest) := by
  obtain ⟨c, cs, htext, hc⟩ := exists_cons_text hf
  have hdigits : Text.digitCount (c :: (cs ++ rest)) = 0 := by
    rw [Text.digitCount, List.takeWhile_cons_of_neg
      (by rw [isDigit_eq_false_of_isWordStart hc]; exact Bool.false_ne_true)]
    rfl
  rw [htext]
  refine ⟨fun d more heq => ?_, ?_⟩
  · obtain ⟨rfl, rfl⟩ := List.cons.inj heq
    refine ⟨?_, ?_, fun _ => hdigits⟩
    · unfold char; split <;> rfl
    · unfold char; split <;> decide
  · have hword : Text.isWordPart f.char = false := by
      unfold char; split <;> decide +kernel
    exact hword

theorem lexes_factors {fs : List Factor} (hfs : ∀ f ∈ fs, f.Readable) {rest : List Char}
    (hrest : Ends rest) : Lexes (factorsText fs) (factorsTokens fs) rest := by
  induction fs with
  | nil => exact lexes_nil rest
  | cons f fs ih =>
    obtain ⟨hf, hfs⟩ := List.forall_mem_cons.1 hfs
    obtain ⟨c, cs, htext, hc⟩ := exists_cons_text hf
    have hends : Ends (factorsText fs ++ rest) := by
      cases fs with
      | nil => exact hrest
      | cons g gs =>
        rw [factorsText, List.flatMap_cons, List.append_assoc]
        exact ends_mark (hfs g List.mem_cons_self) _
    have hmark : Lexes [f.char] [.mark f.mark] (f.text ++ factorsText fs ++ rest) := by
      refine lexes_mark ?_ ?_
      · unfold char mark
        split <;> rfl
      · rw [htext]
        exact doubleMark?_of_isWordPart (isWordPart_of_isWordStart hc) _
    exact hmark.append ((lexes_text hf hends).append (ih hfs))

end Factor

/-- The text of units is read as their tokens. -/
theorem Dimensions.lexes_render {d : Dimensions} (h : d.WellFormed) (hne : d.isEmpty = false)
    (hle : ∀ t ∈ d.terms, t.exponent.natAbs ≤ Text.maxWord) {rest : List Char}
    (hrest : Factor.Ends rest) : Token.Lexes d.render.toList d.tokens rest := by
  have hfs := readable_factors h hle
  rw [toList_render d h.nonzero, tokens]
  obtain ⟨f, fs, hfactors, -⟩ := exists_cons_factors hne
  rw [hfactors] at hfs ⊢
  obtain ⟨hf, hfs⟩ := List.forall_mem_cons.1 hfs
  have hends : Factor.Ends (factorsText fs ++ rest) := by
    cases fs with
    | nil => exact hrest
    | cons g gs =>
      rw [factorsText, List.flatMap_cons, List.append_assoc]
      exact Factor.ends_mark (hfs g List.mem_cons_self) _
  exact (Factor.lexes_text hf hends).append (Factor.lexes_factors hfs hrest)

/-! ## Terms -/

theorem Text.digitsValue_eq_ofDigitChars (cs : List Char) :
    digitsValue cs = Nat.ofDigitChars 10 cs 0 := by
  refine List.foldl_ext _ _ _ fun m c _ => ?_
  rw [Nat.mul_comm]
  rfl

namespace Grammar

theorem digitsValue_toString (n : Nat) : Text.digitsValue (toString n).toList = n := by
  rw [Text.digitsValue_eq_ofDigitChars, Decimal.ofDigitChars_toString]

theorem word?_toString {n : Nat} (h : n ≤ Text.maxWord) :
    Text.word? (toString n).toList = some (n : Int) := by
  have hall : ∀ c ∈ (toString n).toList, c.isDigit = true :=
    fun c hc => Decimal.isDigit_of_mem_toString hc
  have hnat : Text.nat? (toString n).toList = some n := by
    rw [Text.nat?, if_neg, digitsValue_toString]
    simp only [Bool.or_eq_true, List.isEmpty_iff, Bool.not_eq_true', not_or, Bool.not_eq_false,
      List.all_eq_true]
    exact ⟨Decimal.toList_toString_ne_nil n, hall⟩
  unfold Text.word?
  split
  · rename_i heq
    exact absurd (hall '+' (by rw [heq]; exact List.mem_cons_self)) (by decide)
  · rename_i heq
    exact absurd (hall '-' (by rw [heq]; exact List.mem_cons_self)) (by decide)
  · rw [hnat, Option.bind_some, if_pos h]

theorem eat?_cons_mark {t : Placed} {m : Mark} (ht : t.token = .mark m) (rest : List Placed) :
    eat? m (t :: rest) = some rest := if_pos ht

theorem takePower?_tokens {n : Int} (hle : n.natAbs ≤ Text.maxWord) (hne : n ≠ 1)
    {ts : List Placed} (hts : ts.map (·.token) = Factor.powerTokens n) (rest : List Placed) :
    takePower? (ts ++ rest) = some (n, rest) := by
  have hword := word?_toString hle
  rw [Factor.powerTokens, if_neg hne] at hts
  generalize toString n.natAbs = text at hts hword
  obtain ⟨t, us, rfl, hcaret, hus⟩ := List.map_eq_cons_iff.1 hts
  obtain ⟨vs, ws, rfl, hvs, hws⟩ := List.map_eq_append_iff.1 hus
  obtain ⟨⟨token, offset⟩, zs, rfl, hnumber, hzs⟩ := List.map_eq_cons_iff.1 hws
  rw [List.map_eq_nil_iff] at hzs
  subst hzs
  dsimp only at hnumber
  subst hnumber
  split at hvs
  · obtain ⟨u, xs, rfl, hminus, hxs⟩ := List.map_eq_cons_iff.1 hvs
    rw [List.map_eq_nil_iff] at hxs
    subst hxs
    have hn : -(n.natAbs : Int) = n := by omega
    simp only [List.cons_append, List.nil_append, takePower?, eat?_cons_mark hcaret,
      eat?_cons_mark hminus, if_true, hword, hn]
  · rw [List.map_eq_nil_iff] at hvs
    subst hvs
    have hn : (n.natAbs : Int) = n := by omega
    have hminus : eat? .minus (⟨.number text, offset⟩ :: rest) = none := rfl
    simp only [List.cons_append, List.nil_append, takePower?, eat?_cons_mark hcaret, hminus, hword,
      Bool.false_eq_true, if_false, hn]

/-- What can stand behind a unit with its power: neither a caret nor a
parenthesis. -/
def EndsTerm (rest : List Placed) : Prop := eat? .caret rest = none ∧ eat? .leftParen rest = none

theorem endsTerm_cons {t : Placed} {m : Mark} (ht : t.token = .mark m) (hcaret : m ≠ .caret)
    (hparen : m ≠ .leftParen) (rest : List Placed) : EndsTerm (t :: rest) := by
  constructor
  · exact if_neg (by simp [ht, hcaret])
  · exact if_neg (by simp [ht, hparen])

theorem takeTerm?_tokens {f : Factor} (hf : f.Readable) (sign : Int) {ts rest : List Placed}
    (hts : ts.map (·.token) = f.tokens) (hrest : EndsTerm rest) :
    takeTerm? sign (ts ++ rest) = some ({ unit := f.unit, exponent := sign * f.power }, rest) := by
  obtain ⟨d, hd⟩ := hf.resolves
  have hname := Denomination.unitName?_ofWord hd
  rw [Factor.tokens] at hts
  generalize Token.ofWord f.unit = word at hts hname
  obtain ⟨t, us, rfl, rfl, hus⟩ := List.map_eq_cons_iff.1 hts
  have hunit : takeUnit? (t :: us ++ rest) = some (f.unit, us ++ rest) := by
    have hparen : eat? .leftParen (us ++ rest) = none := by
      cases us with
      | nil => exact hrest.2
      | cons u us =>
        rw [Factor.powerTokens] at hus
        split at hus
        · cases hus
        · have hcaret : u.token = .mark .caret := (List.cons.inj hus).1
          exact if_neg (by simp [hcaret])
    simp [takeUnit?, hname, hparen]
  by_cases hone : f.power = 1
  · rw [Factor.powerTokens, if_pos hone, List.map_eq_nil_iff] at hus
    subst hus
    rw [List.nil_append] at hunit
    simp only [takeTerm?, hunit, takePower?, hrest.1, hone, Int.mul_one]
  · simp only [takeTerm?, hunit, takePower?_tokens hf.power_le hone hus]

theorem unitSign?_mark (f : Factor) : unitSign? (.mark f.mark) = some (if f.divides then -1 else 1) := by
  unfold Factor.mark
  split <;> rfl

theorem endsTerm_factors {fs : List Factor} {ts rest : List Placed}
    (hts : ts.map (·.token) = factorsTokens fs) (hrest : EndsTerm rest) : EndsTerm (ts ++ rest) := by
  cases fs with
  | nil =>
    rw [factorsTokens, List.flatMap_nil, List.map_eq_nil_iff] at hts
    exact hts ▸ hrest
  | cons f fs =>
    rw [factorsTokens, List.flatMap_cons, List.cons_append] at hts
    obtain ⟨t, us, rfl, hmark, -⟩ := List.map_eq_cons_iff.1 hts
    rw [List.cons_append]
    refine endsTerm_cons hmark ?_ ?_ _
    · unfold Factor.mark; split <;> decide
    · unfold Factor.mark; split <;> decide

theorem moreTerms_tokens {fs : List Factor} (hfs : ∀ f ∈ fs, f.Readable) {ts rest : List Placed}
    (hts : ts.map (·.token) = factorsTokens fs) (hrest : EndsTerm rest)
    (hstop : ∀ t ∈ rest.head?, unitSign? t.token = none) {rounds : Nat}
    (hrounds : (ts ++ rest).length ≤ rounds) :
    moreTerms rounds (ts ++ rest) = (fs.map Factor.term, rest) := by
  induction fs generalizing ts rounds with
  | nil =>
    rw [factorsTokens, List.flatMap_nil, List.map_eq_nil_iff] at hts
    subst hts
    rw [List.nil_append] at hrounds ⊢
    cases rest with
    | nil => cases rounds <;> rfl
    | cons t rest =>
      obtain ⟨n, rfl⟩ : ∃ n, rounds = n + 1 := ⟨rounds - 1, by simp at hrounds; omega⟩
      rw [moreTerms, hstop t rfl]
      rfl
  | cons f fs ih =>
    obtain ⟨hf, hfs⟩ := List.forall_mem_cons.1 hfs
    rw [factorsTokens, List.flatMap_cons, List.cons_append] at hts
    obtain ⟨t, us, rfl, hmark, hus⟩ := List.map_eq_cons_iff.1 hts
    obtain ⟨vs, ws, rfl, hvs, hws⟩ := List.map_eq_append_iff.1 hus
    simp only [List.cons_append, List.append_assoc, List.length_cons, List.length_append]
      at hrounds ⊢
    obtain ⟨n, rfl⟩ : ∃ n, rounds = n + 1 := ⟨rounds - 1, by omega⟩
    have hends : EndsTerm (ws ++ rest) := endsTerm_factors hws hrest
    have hterm := takeTerm?_tokens hf (if f.divides then -1 else 1) hvs hends
    have hn : (ws ++ rest).length ≤ n := by rw [List.length_append]; omega
    have hmore := ih hfs hws hn
    rw [moreTerms, hmark, unitSign?_mark, Option.bind_some, hterm]
    simp only [hmore]
    rfl

/-- The grammar takes of the tokens of units what they stand for. -/
theorem takeUnits?_tokens {d : Dimensions} (h : d.WellFormed) (hne : d.isEmpty = false)
    (hle : ∀ t ∈ d.terms, t.exponent.natAbs ≤ Text.maxWord) {ts rest : List Placed}
    (hts : ts.map (·.token) = d.tokens) (hrest : Follows .whole rest) :
    takeUnits? (ts ++ rest) = some (d.factors.map Factor.term, rest) := by
  have hends : EndsTerm rest ∧ ∀ t ∈ rest.head?, unitSign? t.token = none := by
    cases rest with
    | nil => exact hrest.elim
    | cons t rest =>
      obtain ⟨l, hl, hlevel⟩ := hrest
      have hmark (m : Mark) (k : Level) (hm : level? (.mark m) = some k) (hk : k.rank < 10) :
          t.token ≠ .mark m := by
        intro htoken
        rw [htoken, hm] at hl
        cases hl
        exact absurd hlevel (Nat.not_le_of_lt hk)
      have hparen : t.token ≠ .mark .leftParen := by
        intro htoken
        rw [htoken] at hl
        cases hl
      refine ⟨⟨if_neg (hmark .caret .power rfl (by decide)), if_neg hparen⟩, fun u hu => ?_⟩
      obtain rfl : t = u := Option.some.inj hu
      unfold unitSign?
      split
      · exact absurd ‹_› (hmark .star .product rfl (by decide))
      · exact absurd ‹_› (hmark .slash .product rfl (by decide))
      · rfl
  have hfs := Dimensions.readable_factors h hle
  obtain ⟨f, fs, hfactors, hdivides⟩ := Dimensions.exists_cons_factors hne
  rw [Dimensions.tokens, hfactors] at hts
  rw [hfactors] at hfs ⊢
  obtain ⟨hf, hfs⟩ := List.forall_mem_cons.1 hfs
  obtain ⟨us, vs, rfl, hus, hvs⟩ := List.map_eq_append_iff.1 hts
  have hmark : EndsTerm (vs ++ rest) := endsTerm_factors hvs hends.1
  have hterm := takeTerm?_tokens hf 1 hus hmark
  have hmore := moreTerms_tokens hfs hvs hends.1 hends.2 (Nat.le_refl _)
  rw [List.append_assoc, takeUnits?, hterm]
  simp only [hmore]
  rw [List.map_cons, Factor.term, hdivides]
  rfl

end Grammar

/-! ## Building the units again -/

namespace Dimensions

theorem rank_injective {a b : Category} (h : a.rank = b.rank) : a = b := by
  cases a <;> cases b <;> first | rfl | cases h

/-- The terms of units in the order of their categories, as all units are that
are built of terms. -/
def Ordered (ts : List Term) : Prop := ts.Pairwise fun t u => t.category.rank < u.category.rank

instance (ts : List Term) : Decidable (Ordered ts) :=
  inferInstanceAs (Decidable (ts.Pairwise fun t u => t.category.rank < u.category.rank))

theorem ordered_insertTerm {t : Term} {ts : List Term} (h : Ordered ts)
    (hnew : t.category ∉ ts.map Term.category) : Ordered (insertTerm t ts) := by
  induction ts with
  | nil => exact List.pairwise_singleton _ _
  | cons u ts ih =>
    obtain ⟨hu, hts⟩ := List.pairwise_cons.1 h
    rw [List.map_cons, List.mem_cons, not_or] at hnew
    rw [insertTerm]
    split
    · rename_i hlt
      refine List.pairwise_cons.2 ⟨fun v hv => ?_, ih hts hnew.2⟩
      rcases List.mem_cons.1 ((insertTerm_perm t ts).mem_iff.1 hv) with rfl | hv
      · exact hlt
      · exact hu v hv
    · rename_i hlt
      have hne : t.category.rank ≠ u.category.rank := fun heq => hnew.1 (rank_injective heq)
      have hlt : t.category.rank < u.category.rank := by omega
      refine List.pairwise_cons.2 ⟨fun v hv => ?_, h⟩
      rcases List.mem_cons.1 hv with rfl | hv
      · exact hlt
      · exact Nat.lt_trans hlt (hu v hv)

end Dimensions

namespace Quantity

/-- Terms of new categories are inserted one after the other, and nothing is
converted. -/
theorem absorbTerms_unitTerms {ts : List Term} {x : Decimal} {present : List Term}
    (hdistinct : ((present ++ ts).map Term.category).Nodup) (hordered : Dimensions.Ordered present)
    (hts : ∀ t ∈ ts, t.exponent ≠ 0 ∧ t.Resolves) (rates : RateTable) (offset : Nat) :
    ∃ all, absorbTerms { magnitude := x, dims := ⟨present⟩ } (Dimensions.unitTerms ts) rates offset =
        .ok { magnitude := x, dims := ⟨all⟩ } ∧
      all.Perm (present ++ ts) ∧ Dimensions.Ordered all := by
  induction ts generalizing present with
  | nil => exact ⟨present, rfl, by rw [List.append_nil], hordered⟩
  | cons t ts ih =>
    obtain ⟨⟨hne, d, hd, hcategory⟩, hts⟩ := List.forall_mem_cons.1 hts
    have hnew : t.category ∉ present.map Term.category := by
      rw [List.map_append, List.map_cons] at hdistinct
      intro hmem
      exact (List.nodup_append.1 hdistinct).2.2 _ hmem _ List.mem_cons_self rfl
    have hperm : (Dimensions.insertTerm t present ++ ts).Perm (present ++ t :: ts) :=
      ((Dimensions.insertTerm_perm t present).append_right ts).trans List.perm_middle.symm
    obtain ⟨all, hread, hall, horder⟩ := ih
      ((hperm.map Term.category).nodup_iff.2 hdistinct)
      (Dimensions.ordered_insertTerm hordered hnew) hts
    refine ⟨all, ?_, hall.trans hperm, horder⟩
    have hfind : Dimensions.find? ⟨present⟩ d.category = none := by
      rw [hcategory, Dimensions.find?, List.find?_eq_none]
      intro u hu heq
      exact hnew (List.mem_map.2 ⟨u, hu, by simpa using heq⟩)
    have hstep : absorb { magnitude := x, dims := ⟨present⟩ } d t.unit t.exponent rates offset =
        .ok { magnitude := x, dims := ⟨Dimensions.insertTerm t present⟩ } := by
      rw [absorb, hfind]
      dsimp only
      rw [if_neg hne, hcategory]
      rfl
    rw [← hread, absorbTerms, Dimensions.unitTerms, List.map_cons, List.foldlM_cons]
    simp only [Denomination.ofName, hd, orFail]
    dsimp only [bind, Except.bind]
    rw [hstep]
    rfl

/-- The terms that units are read as give these units again. -/
theorem ofTerms_factors {d : Dimensions} (h : d.WellFormed) (hordered : Dimensions.Ordered d.terms)
    (x : Decimal) (rates : RateTable) (offset : Nat) :
    ofTerms x (d.factors.map Factor.term) rates offset = .ok { magnitude := x, dims := d } := by
  have hperm := d.perm_front_back h.nonzero
  have hdistinct : (([] ++ (d.front ++ d.back)).map Term.category).Nodup :=
    (hperm.map Term.category).nodup_iff.2 h.distinct
  have hts : ∀ t ∈ d.front ++ d.back, t.exponent ≠ 0 ∧ t.Resolves := fun t ht =>
    ⟨h.nonzero t (hperm.mem_iff.1 ht), h.resolves t (hperm.mem_iff.1 ht)⟩
  obtain ⟨all, hread, hall, horder⟩ :=
    absorbTerms_unitTerms (x := x) hdistinct List.Pairwise.nil hts rates offset
  rw [Dimensions.map_term_factors, ofTerms]
  have heq : all = d.terms := by
    refine List.Perm.eq_of_pairwise (fun t u _ _ htu hut => ?_) horder hordered (hall.trans hperm)
    exact absurd hut (Nat.lt_asymm htu)
  rw [heq] at hread
  exact hread

end Quantity

end Reckoner
