import Reckoner.Text.Quoted
import Reckoner.Token.Reader

/-!
# What the lexer takes of a text

`Lexes text toks rest`: in front of `rest` a text is read as the tokens `toks`,
wherever it starts, and reading goes on with `rest` as if it stood alone.

* The lemmas on `Shape.scan` say how far a word, a number, a mark or a quoted
  text goes.  Each needs to know of `rest` only that it does not go on with the
  shape (`EndsNumber` for a number).
* `Shape.scans_of_scan`: what is scanned has been found by one part of the lexer (`Shape.Scans`).
* `lexes_word`, `lexes_number`, `lexes_mark`, `lexes_quoted` and `lexes_blank`
  are the pieces that longer texts are made of, by `Lexes.append`.
* A word may also be glued to what follows it; `lexes_word` asks that it is not
  (`glueZone?_eq_none`).
-/

namespace Reckoner

/-- A number that is no code point stands for the zero character. -/
theorem Text.toNat_ofNat (n : Nat) : (Char.ofNat n).toNat = n ∨ (Char.ofNat n).toNat = 0 := by
  by_cases h : n.isValidChar
  · exact .inl (by rw [Char.ofNat, dif_pos h]; rfl)
  · exact .inr (by rw [Char.ofNat, dif_neg h]; rfl)

namespace Shape

/-! ## Words -/

theorem isDigit_iff {c : Char} : c.isDigit = true ↔ 48 ≤ c.toNat ∧ c.toNat ≤ 57 := by
  simp [Char.isDigit, UInt32.le_iff_toNat_le, ← Char.toNat_val]

theorem isAlpha_iff {c : Char} :
    c.isAlpha = true ↔ 65 ≤ c.toNat ∧ c.toNat ≤ 90 ∨ 97 ≤ c.toNat ∧ c.toNat ≤ 122 := by
  have hupper : c.isUpper = decide (65 ≤ c.val ∧ c.val ≤ 90) := rfl
  have hlower : c.isLower = (97 ≤ c.val && c.val ≤ 122) := rfl
  show (c.isUpper || c.isLower) = true ↔ _
  simp [hupper, hlower, UInt32.le_iff_toNat_le, ← Char.toNat_val]

theorem isDigit_eq_false_of_isWordStart {c : Char} (h : Text.isWordStart c = true) :
    c.isDigit = false := by
  rw [Bool.eq_false_iff]
  intro hdigit
  rw [isDigit_iff] at hdigit
  rw [Text.isWordStart, Text.isLetter, if_pos (by omega), Bool.or_eq_true, beq_iff_eq,
    isAlpha_iff] at h
  rcases h with h | rfl
  · omega
  · exact absurd hdigit (by decide)

theorem takeWhile_of_head?_any {p : Char → Bool} {s : List Char} (h : s.head?.any p = false) :
    s.takeWhile p = [] := by
  cases s with
  | nil => rfl
  | cons c s => exact List.takeWhile_cons_of_neg (Bool.eq_false_iff.1 h)

theorem takeWhile_append_of_all {p : Char → Bool} {cs s : List Char} (hcs : ∀ c ∈ cs, p c = true)
    (hs : s.head?.any p = false) : (cs ++ s).takeWhile p = cs := by
  rw [List.takeWhile_append_of_pos hcs, takeWhile_of_head?_any hs, List.append_nil]

theorem scan_word {c : Char} {cs s : List Char} (hc : Text.isWordStart c = true)
    (hcs : ∀ d ∈ cs, Text.isWordPart d = true) (hs : s.head?.any Text.isWordPart = false) :
    scan c (cs ++ s) = (some .word, cs.length + 1) := by
  rw [scan, isDigit_eq_false_of_isWordStart hc, if_neg Bool.false_ne_true, if_pos hc,
    takeWhile_append_of_all hcs hs, Nat.add_comm]

/-! ## Numbers -/

/-- What can stand behind a number: nothing that goes on with it, nor with a day
or a time that it begins. -/
def EndsNumber (s : List Char) : Prop :=
  ∀ d rest, s = d :: rest → d.isDigit = false ∧ d ∉ ['.', ':', 'e', 'E'] ∧
    (d = '/' → Text.digitCount rest = 0)

/-- Digits, or digits with a point between them. -/
def IsNumeral (text : List Char) : Prop :=
  ∃ front back, front ≠ [] ∧ (∀ c ∈ front, c.isDigit = true) ∧ (∀ c ∈ back, c.isDigit = true) ∧
    (text = front ∨ back ≠ [] ∧ text = front ++ '.' :: back)

theorem digitCount_append {ds s : List Char} (hds : ∀ c ∈ ds, c.isDigit = true)
    (hs : s.head?.any Char.isDigit = false) : Text.digitCount (ds ++ s) = ds.length := by
  rw [Text.digitCount, takeWhile_append_of_all hds hs]

theorem EndsNumber.head?_any {s : List Char} (h : EndsNumber s) :
    s.head?.any Char.isDigit = false := by
  cases s with
  | nil => rfl
  | cons d rest => exact (h d rest rfl).1

/-- A day cannot go on behind a number. -/
theorem EndsNumber.separator {s : List Char} (h : EndsNumber s) {n : Nat}
    (hn : oneOf? ['.', '/'] s = some n) : Text.digitCount (s.drop n) = 0 := by
  cases s with
  | nil => cases hn
  | cons d rest =>
    obtain ⟨-, hmark, hslash⟩ := h d rest rfl
    rw [oneOf?] at hn
    split at hn
    · rename_i hd
      cases hn
      refine hslash ?_
      simp only [List.mem_cons, not_or] at hmark
      simpa [hmark.1] using hd
    · cases hn

theorem EndsNumber.colon {s : List Char} (h : EndsNumber s) : oneOf? [':'] s = none := by
  cases s with
  | nil => rfl
  | cons d rest =>
    obtain ⟨-, hmark, -⟩ := h d rest rfl
    refine if_neg ?_
    simp only [List.mem_cons, not_or] at hmark
    simpa using hmark.2.1

theorem EndsNumber.fraction {s : List Char} (h : EndsNumber s) : fractionLength s = 0 := by
  unfold fractionLength
  split
  · exact absurd List.mem_cons_self (h '.' _ rfl).2.1
  · rfl

theorem EndsNumber.exponent {s : List Char} (h : EndsNumber s) : exponentLength s = 0 := by
  cases s with
  | nil => rfl
  | cons d rest =>
    obtain ⟨-, hmark, -⟩ := h d rest rfl
    simp only [List.mem_cons, not_or] at hmark
    exact if_neg (by simp [hmark])

theorem sequence?_cons (part : List Char → Option Nat) (parts : List (List Char → Option Nat))
    (cs : List Char) :
    sequence? (part :: parts) cs =
      (part cs).bind fun n => (sequence? parts (cs.drop n)).map (n + ·) := by
  rw [sequence?]
  split <;> rename_i h <;> simp [h]

theorem sequence?_cons_eq_none {part : List Char → Option Nat}
    {parts : List (List Char → Option Nat)} {cs : List Char}
    (h : ∀ n, part cs = some n → sequence? parts (cs.drop n) = none) :
    sequence? (part :: parts) cs = none := by
  rw [sequence?_cons, Option.bind_eq_none_iff]
  exact fun n hn => by rw [h n hn, Option.map_none]

theorem digits?_eq_some {least most n : Nat} {cs : List Char} (h : digits? least most cs = some n) :
    n = Text.digitCount cs := by
  unfold digits? at h
  dsimp only at h
  split at h
  · cases h
    rfl
  · cases h

theorem digits?_eq_none {least most : Nat} {cs : List Char} (h : Text.digitCount cs < least) :
    digits? least most cs = none := if_neg (by omega)

theorem exactly?_eq_none {n : Nat} {cs : List Char} (h : Text.digitCount cs < n) :
    exactly? n cs = none := if_neg (by omega)

theorem dayLength?_eq_none {text s : List Char} (htext : IsNumeral text) (hs : EndsNumber s) :
    dayLength? (text ++ s) = none := by
  obtain ⟨front, back, -, hfront, hback, rfl | ⟨-, rfl⟩⟩ := htext
  · refine sequence?_cons_eq_none fun n hn => sequence?_cons_eq_none fun k hk => ?_
    rw [digits?_eq_some hn, digitCount_append hfront hs.head?_any, List.drop_left] at hk ⊢
    rw [sequence?_cons, digits?_eq_none (by rw [hs.separator hk]; decide), Option.bind_none]
  · rw [List.append_assoc]
    refine sequence?_cons_eq_none fun n hn => sequence?_cons_eq_none fun k hk => ?_
    rw [digits?_eq_some hn, digitCount_append hfront rfl, List.drop_left] at hk ⊢
    obtain rfl : 1 = k := by
      rw [List.cons_append, oneOf?] at hk
      exact Option.some.inj hk
    refine sequence?_cons_eq_none fun n hn => sequence?_cons_eq_none fun k hk => ?_
    simp only [List.cons_append, List.drop_succ_cons, List.drop_zero] at hn hk ⊢
    rw [digits?_eq_some hn, digitCount_append hback hs.head?_any, List.drop_left] at hk ⊢
    rw [sequence?_cons, exactly?_eq_none (by rw [hs.separator hk]; decide), Option.bind_none]

theorem timeLength?_eq_none {text s : List Char} (htext : IsNumeral text) (hs : EndsNumber s) :
    timeLength? (text ++ s) = none := by
  obtain ⟨front, back, -, hfront, hback, rfl | ⟨-, rfl⟩⟩ := htext
  · refine sequence?_cons_eq_none fun n hn => ?_
    rw [digits?_eq_some hn, digitCount_append hfront hs.head?_any, List.drop_left, sequence?_cons,
      hs.colon, Option.bind_none]
  · rw [List.append_assoc]
    refine sequence?_cons_eq_none fun n hn => ?_
    rw [digits?_eq_some hn, digitCount_append hfront rfl, List.drop_left]
    rfl

theorem numberLength_append {text s : List Char} (htext : IsNumeral text) (hs : EndsNumber s) :
    numberLength (text ++ s) = text.length := by
  obtain ⟨front, back, -, hfront, hback, rfl | ⟨hne, rfl⟩⟩ := htext
  · simp only [numberLength, digitCount_append hfront hs.head?_any, List.drop_left, hs.fraction,
      hs.exponent, Nat.add_zero]
  · rw [List.append_assoc]
    have hfraction : fractionLength ('.' :: back ++ s) = ('.' :: back).length := by
      have hpos : back.length ≠ 0 := fun h => hne (List.length_eq_zero_iff.1 h)
      simp only [List.cons_append, fractionLength, digitCount_append hback hs.head?_any,
        if_neg hpos, List.length_cons, Nat.add_comm]
    simp only [numberLength, digitCount_append hfront (s := '.' :: back ++ s) rfl, List.drop_left,
      hfraction, ← List.drop_drop, hs.exponent, Nat.add_zero, List.length_append]

theorem scan_number {c : Char} {cs s : List Char} (htext : IsNumeral (c :: cs))
    (hs : EndsNumber s) : scan c (cs ++ s) = (some .number, cs.length + 1) := by
  have hc : c.isDigit = true := by
    obtain ⟨front, back, hne, hfront, -, heq⟩ := htext
    obtain ⟨d, front, rfl⟩ := List.exists_cons_of_ne_nil hne
    have hd : c = d := by
      rcases heq with heq | ⟨-, heq⟩ <;> exact (List.cons.inj heq).1
    exact hd ▸ hfront d List.mem_cons_self
  have hday := dayLength?_eq_none htext hs
  have hdayTime : dayTimeLength? (c :: (cs ++ s)) = none :=
    sequence?_cons_eq_none fun n hn => by
      rw [List.cons_append] at hday
      rw [hday] at hn
      cases hn
  rw [scan, if_pos hc]
  have htime := timeLength?_eq_none htext hs
  have hlength := numberLength_append htext hs
  simp only [List.cons_append, List.length_cons] at hday htime hlength
  simp only [scanDigits, hdayTime, hday, htime, hlength]

/-! ## Marks and blanks -/

/-- A character that is a mark by itself. -/
def loneMark? (c : Char) : Option Mark := if c = '&' ∨ c = '|' then none else singleMark? c

theorem scan_mark {c : Char} {m : Mark} {s : List Char} (hc : loneMark? c = some m)
    (hs : s.head?.bind (doubleMark? c) = none) : scan c s = (some (.mark m), 1) := by
  have hmark : ¬ (c = '&' ∨ c = '|') ∧ singleMark? c = some m := by
    unfold loneMark? at hc
    split at hc
    · cases hc
    · exact ⟨‹_›, hc⟩
  obtain ⟨hne, hsingle⟩ := hmark
  have hscan : scan c s = scanMark c s := by
    unfold singleMark? at hsingle
    split at hsingle
    all_goals first | rfl | cases hsingle
  rw [hscan, scanMark]
  rw [if_neg fun h => hne (.inl h.1), if_neg fun h => hne (.inr h.1), hs]
  dsimp only
  rw [hsingle]

/-- No mark but the given ones begins a longer one. -/
theorem doubleMark?_eq_none {c : Char} (hc : c ∉ ['<', '>', '*', '=', '!', '+', '-']) (d : Char) :
    doubleMark? c d = none := by
  unfold doubleMark?
  split <;> simp_all

/-! ## Quoted texts -/

/-- A character that a quoted text holds as it is, or behind a backslash. -/
theorem scanQuoted_quoteChar {c : Char} (h : Text.quoteChar c ≠ Text.codePoint c) (rest : List Char) :
    scanQuoted '"' (Text.quoteChar c ++ rest) =
      ((scanQuoted '"' rest).1, (scanQuoted '"' rest).2 + (Text.quoteChar c).length) := by
  unfold Text.quoteChar at h ⊢
  repeat' split
  all_goals first | rfl | skip
  · rename_i hquote hslash _ _ _ _ _
    rw [List.singleton_append, scanQuoted]
    · simp only [beq_iff_eq] at hquote hslash
      rw [if_neg hquote]
      rfl
    · simp_all
    · simp_all
  · simp_all

theorem scanQuoted_quoted {cs : List Char}
    (h : ∀ c ∈ cs, Text.quoteChar c ≠ Text.codePoint c) (s : List Char) :
    scanQuoted '"' (cs.flatMap Text.quoteChar ++ '"' :: s) =
      (true, (cs.flatMap Text.quoteChar).length + 1) := by
  induction cs with
  | nil => rfl
  | cons c cs ih =>
    rw [List.flatMap_cons, List.append_assoc, scanQuoted_quoteChar (h c List.mem_cons_self),
      ih fun d hd => h d (List.mem_cons_of_mem _ hd), List.length_append]
    simp only [Prod.mk.injEq, true_and]
    omega

theorem scan_quoted {cs : List Char} (h : ∀ c ∈ cs, Text.quoteChar c ≠ Text.codePoint c)
    (s : List Char) :
    scan '"' (cs.flatMap Text.quoteChar ++ '"' :: s) =
      (some (.quoted .double), (cs.flatMap Text.quoteChar).length + 2) := by
  have hscan (rest : List Char) : scan '"' rest =
      (if (scanQuoted '"' rest).1 then some (.quoted .double) else none,
        (scanQuoted '"' rest).2 + 1) := rfl
  rw [hscan, scanQuoted_quoted h]
  rfl

/-! ## What is found -/

/-- What stands at the front of `c :: cs`, by the part of the lexer that finds it. -/
inductive Scans (c : Char) (cs : List Char) : Shape → Nat → Prop
  | dayTime {n : Nat} (hc : c.isDigit = true) (h : dayTimeLength? (c :: cs) = some n) :
      Scans c cs .dayTime n
  | day {n : Nat} (hc : c.isDigit = true) (h : dayLength? (c :: cs) = some n) : Scans c cs .day n
  | time {n : Nat} (hc : c.isDigit = true) (h : timeLength? (c :: cs) = some n) :
      Scans c cs .time n
  | number (hc : c.isDigit = true) : Scans c cs .number (numberLength (c :: cs))
  | word (hc : Text.isWordStart c = true) :
      Scans c cs .word (1 + (cs.takeWhile Text.isWordPart).length)
  | quoted {quote : Quote} {n : Nat} (hc : quoteOf? c = some quote)
      (h : scanQuoted c cs = (true, n)) : Scans c cs (.quoted quote) (n + 1)
  | currencySign (hcomment : c ≠ '#') (hc : quoteOf? c = none) : Scans c cs .currencySign 1
  | mark {m : Mark} {n : Nat} (hcomment : c ≠ '#') (hc : quoteOf? c = none)
      (h : scanMark c cs = (some (.mark m), n)) : Scans c cs (.mark m) n

theorem exists_mark_of_scanMark {c : Char} {cs : List Char} {shape : Shape} {n : Nat}
    (h : scanMark c cs = (some shape, n)) : ∃ m, shape = .mark m := by
  unfold scanMark at h
  dsimp only at h
  repeat' split at h
  all_goals
    cases h
    try exact ⟨_, rfl⟩

theorem scans_of_scanDigits {c : Char} {cs : List Char} {shape : Shape} {n : Nat}
    (hc : c.isDigit = true) (h : scanDigits (c :: cs) = (shape, n)) : Scans c cs shape n := by
  unfold scanDigits at h
  split at h
  · cases h
    exact .dayTime hc ‹_›
  split at h
  · cases h
    exact .day hc ‹_›
  split at h
  · cases h
    exact .time hc ‹_›
  · cases h
    exact .number hc

theorem scans_of_scan {c : Char} {cs : List Char} {shape : Shape} {n : Nat}
    (h : scan c cs = (some shape, n)) : Scans c cs shape n := by
  unfold scan at h
  split at h
  · rename_i hc
    obtain ⟨hshape, hlength⟩ := Prod.mk.inj h
    exact scans_of_scanDigits hc (Prod.ext (Option.some.inj hshape) hlength)
  split at h
  · cases h
    exact .word ‹_›
  split at h
  · cases h
  split at h
  · cases h
  rename_i hcomment
  cases hquote : quoteOf? c with
  | some quote =>
    rw [hquote] at h
    cases hread : scanQuoted c cs with
    | mk closed k =>
      rw [hread] at h
      cases closed <;> cases h
      exact .quoted hquote hread
  | none =>
    rw [hquote] at h
    dsimp only at h
    split at h
    · cases h
      exact .currencySign hcomment hquote
    · obtain ⟨m, rfl⟩ := exists_mark_of_scanMark h
      exact .mark hcomment hquote h

end Shape

/-! ## Pieces -/

namespace Piece

theorem splitFrom_skip (cs s : List Char) (offset : Nat) :
    ∃ offset', splitFrom offset cs.length (cs ++ s) = splitFrom offset' 0 s := by
  induction cs generalizing offset with
  | nil => exact ⟨offset, rfl⟩
  | cons c cs ih => exact ih (offset + c.utf8Size)

theorem splitFrom_of_scan {shape : Shape} {c : Char} {cs s : List Char}
    (h : Shape.scan c (cs ++ s) = (some shape, cs.length + 1)) (offset : Nat) :
    ∃ offset', splitFrom offset 0 (c :: cs ++ s) =
      { shape, text := c :: cs, offset } :: splitFrom offset' 0 s := by
  obtain ⟨offset', hskip⟩ := splitFrom_skip cs s (offset + c.utf8Size)
  refine ⟨offset', ?_⟩
  rw [List.cons_append, splitFrom, h]
  simp only [Nat.add_sub_cancel, hskip, List.take_succ_cons, List.take_left]

/-- Every piece is what a scan finds somewhere in the text. -/
theorem exists_scan_of_mem {p : Piece} {cs : List Char} {offset skip : Nat}
    (h : p ∈ splitFrom offset skip cs) :
    ∃ c rest n, c :: rest <:+ cs ∧ Shape.scan c rest = (some p.shape, n) ∧
      p.text = (c :: rest).take n := by
  induction cs generalizing offset skip with
  | nil => cases skip <;> cases h
  | cons c cs ih =>
    have hlater {offset skip : Nat} (hp : p ∈ splitFrom offset skip cs) :
        ∃ d rest n, d :: rest <:+ c :: cs ∧ Shape.scan d rest = (some p.shape, n) ∧
          p.text = (d :: rest).take n := by
      obtain ⟨d, rest, n, hsuffix, hscan, htext⟩ := ih hp
      exact ⟨d, rest, n, hsuffix.trans (List.suffix_cons c cs), hscan, htext⟩
    cases skip with
    | succ skip => exact hlater h
    | zero =>
      rw [splitFrom] at h
      split at h
      rename_i shape? n hscan
      split at h
      · rename_i shape
        rcases List.mem_cons.1 h with rfl | hp
        · exact ⟨c, cs, n, List.suffix_refl _, hscan, rfl⟩
        · exact hlater hp
      · exact hlater h

end Piece

namespace Token

/-! ## Tokens -/

/-- The tokens of a text that starts at `offset`. -/
abbrev tokensFrom (offset : Nat) (text : List Char) : List Placed :=
  ofPieces ofBroken 0 (Piece.splitFrom offset 0 text)

/-- In front of `rest` a text is read as the given tokens, wherever it starts. -/
def Lexes (text : List Char) (toks : List Token) (rest : List Char) : Prop :=
  ∀ offset, ∃ ts offset', ts.map (·.token) = toks ∧
    tokensFrom offset (text ++ rest) = ts ++ tokensFrom offset' rest

variable {text more rest : List Char} {toks toks' : List Token}

theorem lexes_nil (rest : List Char) : Lexes [] [] rest := fun offset => ⟨[], offset, rfl, rfl⟩

theorem Lexes.append (h : Lexes text toks (more ++ rest)) (h' : Lexes more toks' rest) :
    Lexes (text ++ more) (toks ++ toks') rest := by
  intro offset
  obtain ⟨ts, offset', rfl, heq⟩ := h offset
  obtain ⟨us, offset'', rfl, heq'⟩ := h' offset'
  refine ⟨ts ++ us, offset'', List.map_append, ?_⟩
  rw [List.append_assoc, heq, heq', List.append_assoc]

theorem lexes_blank (rest : List Char) : Lexes [' '] [] rest :=
  fun offset => ⟨[], offset + 1, rfl, rfl⟩

/-- A text that is one piece, which is neither a word nor a day with a time. -/
theorem lexes_of_scan {shape : Shape} {c : Char} {cs : List Char} {t : Token}
    (h : Shape.scan c (cs ++ rest) = (some shape, cs.length + 1)) (hword : shape ≠ .word)
    (hdayTime : shape ≠ .dayTime)
    (ht : ∀ offset, ofPiece { shape, text := c :: cs, offset } = [⟨t, offset⟩]) :
    Lexes (c :: cs) [t] rest := by
  intro offset
  obtain ⟨offset', hsplit⟩ := Piece.splitFrom_of_scan h offset
  refine ⟨[⟨t, offset⟩], offset', rfl, ?_⟩
  rw [tokensFrom, hsplit, ofPieces.eq_def]
  dsimp only
  rw [← ht offset]
  cases shape with
  | word => exact absurd rfl hword
  | dayTime => exact absurd rfl hdayTime
  | _ => rfl

theorem lexes_mark {c : Char} {m : Mark} (hc : Shape.loneMark? c = some m)
    (hs : rest.head?.bind (Shape.doubleMark? c) = none) : Lexes [c] [.mark m] rest :=
  lexes_of_scan (Shape.scan_mark hc hs) (by simp) (by simp) fun _ => rfl

theorem lexes_number (htext : Shape.IsNumeral text) (hs : Shape.EndsNumber rest) :
    Lexes text [.number (String.ofList text)] rest := by
  cases text with
  | nil =>
    obtain ⟨front, back, hne, -, -, rfl | ⟨-, heq⟩⟩ := htext
    · exact absurd rfl hne
    · simp at heq
  | cons c cs =>
    exact lexes_of_scan (Shape.scan_number htext hs) (by simp) (by simp) fun _ => rfl

/-- The two characters behind a backslash in a quoted text are read as one. -/
theorem unescape_quoteChar {c : Char} (h : Text.quoteChar c ≠ Text.codePoint c)
    (rest : List Char) : unescape (Text.quoteChar c ++ rest) = c :: unescape rest := by
  unfold Text.quoteChar at h ⊢
  split
  · simp_all [unescape, escaped]
  split
  · simp_all [unescape, escaped]
  split
  · simp_all [unescape, escaped]
  split
  · simp_all [unescape, escaped]
  split
  · simp_all [unescape, escaped]
  split
  · rename_i hnul
    have hc : c = '\x00' := Char.toNat_inj.1 (by simpa using hnul)
    simp [hc, unescape, escaped]
  split
  · rename_i hslash _ _ _ _ _
    rw [List.singleton_append, unescape]
    intro d ds hd
    simp_all
  · simp_all

theorem unescape_quoted {cs : List Char} (h : ∀ c ∈ cs, Text.quoteChar c ≠ Text.codePoint c) :
    unescape (cs.flatMap Text.quoteChar) = cs := by
  induction cs with
  | nil => rfl
  | cons c cs ih =>
    rw [List.flatMap_cons, unescape_quoteChar (h c List.mem_cons_self),
      ih fun d hd => h d (List.mem_cons_of_mem _ hd)]

/-- A quoted text is read back. -/
theorem lexes_quoted {s : String} (h : ∀ c ∈ s.toList, Text.quoteChar c ≠ Text.codePoint c)
    (rest : List Char) : Lexes (Text.quote s).toList [.string .double [.text s]] rest := by
  rw [Text.quote, String.toList_ofList]
  have hscan : Shape.scan '"' (s.toList.flatMap Text.quoteChar ++ ['"'] ++ rest) =
      (some (.quoted .double), (s.toList.flatMap Text.quoteChar ++ ['"']).length + 1) := by
    rw [List.append_assoc, List.singleton_append, Shape.scan_quoted h, List.length_append]
    rfl
  refine lexes_of_scan hscan (by simp) (by simp) fun offset => ?_
  simp [ofPiece, ofQuoted, textSegment, unescape_quoted h]

/-- A word that is not glued to what follows it. -/
theorem lexes_word {c : Char} {cs : List Char} (hc : Text.isWordStart c = true)
    (hcs : ∀ d ∈ cs, Text.isWordPart d = true) (hs : rest.head?.any Text.isWordPart = false)
    (hglue : ∀ offset offset', glueZone? { shape := .word, text := c :: cs, offset }
      (Piece.splitFrom offset' 0 rest) = none) :
    Lexes (c :: cs) [ofWord (String.ofList (c :: cs))] rest := by
  intro offset
  obtain ⟨offset', hsplit⟩ := Piece.splitFrom_of_scan (Shape.scan_word hc hcs hs) offset
  generalize hword : ofWord (String.ofList (c :: cs)) = t
  refine ⟨[⟨t, offset⟩], offset', rfl, ?_⟩
  rw [tokensFrom, hsplit, ofPieces.eq_def]
  simp only [hglue, ofPiece, hword]

/-- A word is no part of a longer name if it is neither universal time nor the
first word of a city's name, and begins no region. -/
theorem glueZone?_eq_none {p : Piece} {following : List Piece}
    (huniversal : isUniversal (String.ofList p.text) = false)
    (hcity : Zone.cityOpeners.contains (Text.toLower (String.ofList p.text)) = false)
    (hregion : glueRegion? p.text p.stop 0 none following = none) :
    glueZone? p following = none := by
  simp only [glueZone?, glueOffset?, huniversal, Bool.false_eq_true, if_false, hregion, glueCity?,
    hcity]

/-- No region goes on without a slash. -/
theorem glueRegion?_eq_none {following : List Piece}
    (hslash : ∀ q rest, following = q :: rest → q.shape ≠ .mark .slash) (word : List Char)
    (stop taken : Nat) : glueRegion? word stop taken none following = none := by
  unfold glueRegion?
  split
  · rename_i q part rest
    rw [if_neg]
    simp [hslash q _ rfl]
  · rfl

end Token

end Reckoner
