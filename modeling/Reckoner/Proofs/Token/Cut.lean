import Reckoner.Proofs.Token.Scan

/-!
# A colon cuts a text

A text with neither a comment nor a quote in it is read the same whether it
stands alone or in front of a colon with a blank behind it.

* `Shape.scan_append` says so of the shape at the front of the text,
  `Piece.splitFrom_append` of its pieces and `Token.ofPieces_append` of its
  tokens.
* No name in a source can hold a comment or a quote (`bareNames_tokenize`), and
  the place where a text starts is seen in the places of its tokens only
  (`tokensOf_tokensFrom`).
* So the key of an entry is read in front of its colon as the one token that
  it is by itself (`lexes_key`).
-/

namespace Reckoner

namespace Shape

/-- A colon with a blank behind it. -/
def Cut (s : List Char) : Prop := ∃ rest, s = ':' :: ' ' :: rest

/-- A character that opens neither a comment nor a quoted text. -/
def isBare (c : Char) : Bool := c != '#' && (quoteOf? c).isNone

variable {s : List Char}

theorem Cut.head?_any (h : Cut s) {p : Char → Bool} (hp : p ':' = false) : s.head?.any p = false := by
  obtain ⟨rest, rfl⟩ := h
  exact hp

theorem takeWhile_append_of_head? {p : Char → Bool} (hs : s.head?.any p = false) (cs : List Char) :
    (cs ++ s).takeWhile p = cs.takeWhile p := by
  rw [List.takeWhile_append]
  split
  · rename_i hall
    rw [takeWhile_of_head?_any hs, List.append_nil]
    exact (List.takeWhile_prefix p).eq_of_length hall |>.symm
  · rfl

theorem mem_take_takeWhile {p : Char → Bool} {cs : List Char} {c : Char}
    (h : c ∈ cs.take (cs.takeWhile p).length) : p c = true := by
  have hprefix := List.prefix_iff_eq_take.1 (List.takeWhile_prefix (l := cs) p)
  rw [← hprefix] at h
  exact List.all_eq_true.1 List.all_takeWhile c h

/-! ## Parts of days and times -/

/-- The characters of days and times. -/
def isStamp (c : Char) : Bool := c.isDigit || ['.', '/', ':', 'T'].contains c

/-- A part takes no more than there is, and nothing but characters of days and
times. -/
def Takes (part : List Char → Option Nat) : Prop :=
  ∀ cs n, part cs = some n → n ≤ cs.length ∧ ∀ c ∈ cs.take n, isStamp c = true

/-- What follows is not looked at. -/
def Steady (s : List Char) (part : List Char → Option Nat) : Prop := ∀ cs, part (cs ++ s) = part cs

theorem digitCount_append_cut (h : Cut s) (cs : List Char) :
    Text.digitCount (cs ++ s) = Text.digitCount cs := by
  rw [Text.digitCount, takeWhile_append_of_head? (h.head?_any rfl), Text.digitCount]

theorem digitCount_le (cs : List Char) : Text.digitCount cs ≤ cs.length :=
  (List.takeWhile_prefix _).length_le

theorem isBare_of_isDigit {c : Char} (h : c.isDigit = true) : isBare c = true := by
  have hne {d : Char} (hd : d.isDigit = false) : c ≠ d := by
    rintro rfl
    rw [h] at hd
    cases hd
  simp [isBare, quoteOf?, hne]

theorem isBare_of_isStamp {c : Char} (h : isStamp c = true) : isBare c = true := by
  simp only [isStamp, Bool.or_eq_true, List.contains_iff_mem] at h
  rcases h with h | h
  · exact isBare_of_isDigit h
  · exact List.all_eq_true.1 (by decide : List.all ['.', '/', ':', 'T'] isBare = true) c h

theorem isStamp_of_mem_digits {cs : List Char} {c : Char} {n : Nat} (hn : n ≤ Text.digitCount cs)
    (h : c ∈ cs.take n) : isStamp c = true :=
  Bool.or_eq_true_iff.2 (.inl (mem_take_takeWhile ((List.take_sublist_take_left hn).mem h)))

theorem takes_digits (least most : Nat) : Takes (digits? least most) := by
  intro cs n hn
  obtain rfl := digits?_eq_some hn
  exact ⟨digitCount_le cs, fun c hc => isStamp_of_mem_digits (Nat.le_refl _) hc⟩

theorem takes_exactly (k : Nat) : Takes (exactly? k) := by
  intro cs n hn
  unfold exactly? at hn
  split at hn
  · rename_i hle
    cases hn
    exact ⟨Nat.le_trans hle (digitCount_le cs), fun c hc => isStamp_of_mem_digits hle hc⟩
  · cases hn

theorem oneOf?_eq_some {marks cs : List Char} {n : Nat} (h : oneOf? marks cs = some n) :
    ∃ c rest, cs = c :: rest ∧ c ∈ marks ∧ n = 1 := by
  cases cs with
  | nil => cases h
  | cons c rest =>
    rw [oneOf?] at h
    split at h
    · rename_i hc
      exact ⟨c, rest, rfl, by simpa using hc, (Option.some.inj h).symm⟩
    · cases h

theorem takes_oneOf {marks : List Char} (hmarks : marks.all isStamp = true) :
    Takes (oneOf? marks) := by
  intro cs n hn
  obtain ⟨c, rest, rfl, hc, rfl⟩ := oneOf?_eq_some hn
  exact ⟨by simp, fun d hd => List.mem_singleton.1 hd ▸ List.all_eq_true.1 hmarks c hc⟩

theorem takes_nil : Takes (sequence? []) := by
  intro cs n hn
  cases hn
  exact ⟨Nat.zero_le _, fun c hc => by cases hc⟩

theorem Takes.cons {part : List Char → Option Nat} {parts : List (List Char → Option Nat)}
    (hpart : Takes part) (hparts : Takes (sequence? parts)) :
    Takes (sequence? (part :: parts)) := by
  intro cs n hn
  rw [sequence?_cons] at hn
  obtain ⟨k, hk, hrest⟩ := Option.bind_eq_some_iff.1 hn
  obtain ⟨m, hm, rfl⟩ := Option.map_eq_some_iff.1 hrest
  obtain ⟨hle, hstamp⟩ := hpart cs k hk
  obtain ⟨hle', hstamp'⟩ := hparts _ m hm
  rw [List.length_drop] at hle'
  refine ⟨by omega, fun c hc => ?_⟩
  rw [List.take_add, List.mem_append] at hc
  exact hc.elim (hstamp c) (hstamp' c)

theorem steady_digits (h : Cut s) (least most : Nat) : Steady s (digits? least most) :=
  fun cs => by simp only [digits?, digitCount_append_cut h]

theorem steady_exactly (h : Cut s) (k : Nat) : Steady s (exactly? k) :=
  fun cs => by simp only [exactly?, digitCount_append_cut h]

theorem steady_oneOf (h : Cut s) {marks : List Char} (hmarks : ':' ∉ marks) :
    Steady s (oneOf? marks) := by
  intro cs
  cases cs with
  | nil =>
    obtain ⟨rest, rfl⟩ := h
    exact if_neg (by simpa using hmarks)
  | cons c cs => rfl

theorem Steady.cons {part : List Char → Option Nat} {parts : List (List Char → Option Nat)}
    (htakes : Takes part) (hpart : Steady s part) (hparts : Steady s (sequence? parts)) :
    Steady s (sequence? (part :: parts)) := by
  intro cs
  rw [sequence?_cons, sequence?_cons, hpart]
  cases hn : part cs with
  | none => rfl
  | some n =>
    rw [Option.bind_some, Option.bind_some, List.drop_append_of_le_length (htakes cs n hn).1, hparts]

theorem steady_nil : Steady s (sequence? []) := fun _ => rfl

theorem takes_day : Takes dayLength? :=
  .cons (takes_digits 1 2) <| .cons (takes_oneOf (by decide)) <| .cons (takes_digits 1 2) <|
    .cons (takes_oneOf (by decide)) <| .cons (takes_exactly 4) takes_nil

theorem takes_time : Takes timeLength? :=
  .cons (takes_digits 1 2) <| .cons (takes_oneOf (by decide)) <| .cons (takes_exactly 2) takes_nil

theorem takes_dayTime : Takes dayTimeLength? :=
  .cons takes_day <| .cons (takes_oneOf (by decide)) <| .cons takes_time takes_nil

theorem steady_day (h : Cut s) : Steady s dayLength? :=
  .cons (takes_digits 1 2) (steady_digits h 1 2) <|
    .cons (takes_oneOf (by decide)) (steady_oneOf h (by decide)) <|
    .cons (takes_digits 1 2) (steady_digits h 1 2) <|
    .cons (takes_oneOf (by decide)) (steady_oneOf h (by decide)) <|
    .cons (takes_exactly 4) (steady_exactly h 4) steady_nil

/-- No digit follows the colon that cuts, so that it is not the one of a
time. -/
theorem steady_minutes (h : Cut s) : Steady s (sequence? [oneOf? [':'], exactly? 2]) := by
  intro cs
  cases cs with
  | nil =>
    obtain ⟨rest, rfl⟩ := h
    rfl
  | cons c cs =>
    have hminutes : Steady s (sequence? [exactly? 2]) :=
      .cons (takes_exactly 2) (steady_exactly h 2) steady_nil
    rw [sequence?_cons, sequence?_cons]
    cases hn : oneOf? [':'] (c :: cs) with
    | none =>
      have hsame : oneOf? [':'] (c :: cs ++ s) = none := hn
      rw [hsame]
      rfl
    | some n =>
      have hsame : oneOf? [':'] (c :: cs ++ s) = some n := hn
      obtain ⟨_, _, -, -, rfl⟩ := oneOf?_eq_some hn
      rw [hsame, Option.bind_some, Option.bind_some]
      exact congrArg (Option.map (1 + ·)) (hminutes cs)

theorem steady_time (h : Cut s) : Steady s timeLength? :=
  .cons (takes_digits 1 2) (steady_digits h 1 2) (steady_minutes h)

theorem steady_dayTime (h : Cut s) : Steady s dayTimeLength? :=
  .cons takes_day (steady_day h) <|
    .cons (takes_oneOf (by decide)) (steady_oneOf h (by decide)) <|
    .cons takes_time (steady_time h) steady_nil

/-! ## Numbers -/

theorem fractionLength_of_ne {c : Char} (hc : c ≠ '.') (cs : List Char) :
    fractionLength (c :: cs) = 0 := by
  unfold fractionLength
  split
  · rename_i heq
    exact absurd (List.cons.inj heq).1 hc
  · rfl

theorem fractionLength_append_cut (h : Cut s) (cs : List Char) :
    fractionLength (cs ++ s) = fractionLength cs := by
  cases cs with
  | nil =>
    obtain ⟨rest, rfl⟩ := h
    rfl
  | cons c cs =>
    by_cases hc : c = '.'
    · simp only [hc, List.cons_append, fractionLength, digitCount_append_cut h]
    · rw [List.cons_append, fractionLength_of_ne hc, fractionLength_of_ne hc]

/-- The characters of numbers. -/
def isNumeric (c : Char) : Bool := c.isDigit || ['.', 'e', 'E', '+', '-'].contains c

theorem isNumeric_of_mem_digits {cs : List Char} {c : Char} {n : Nat} (hn : n ≤ Text.digitCount cs)
    (h : c ∈ cs.take n) : isNumeric c = true :=
  Bool.or_eq_true_iff.2 (.inl (mem_take_takeWhile ((List.take_sublist_take_left hn).mem h)))

theorem isBare_of_isNumeric {c : Char} (h : isNumeric c = true) : isBare c = true := by
  simp only [isNumeric, Bool.or_eq_true, List.contains_iff_mem] at h
  rcases h with h | h
  · exact isBare_of_isDigit h
  · exact List.all_eq_true.1 (by decide : List.all ['.', 'e', 'E', '+', '-'] isBare = true) c h

theorem fractionLength_spec (cs : List Char) :
    fractionLength cs ≤ cs.length ∧ ∀ c ∈ cs.take (fractionLength cs), isNumeric c = true := by
  unfold fractionLength
  split
  · rename_i rest
    split
    · exact ⟨Nat.zero_le _, fun c hc => by cases hc⟩
    · refine ⟨?_, fun c hc => ?_⟩
      · have := digitCount_le rest
        simp only [List.length_cons]
        omega
      · rw [Nat.add_comm, List.take_succ_cons, List.mem_cons] at hc
        rcases hc with rfl | hc
        · rfl
        · exact isNumeric_of_mem_digits (Nat.le_refl _) hc
  · exact ⟨Nat.zero_le _, fun c hc => by cases hc⟩

theorem exponentLength_append_cut (h : Cut s) (cs : List Char) :
    exponentLength (cs ++ s) = exponentLength cs := by
  obtain ⟨rest, rfl⟩ := h
  have hcut : Cut (':' :: ' ' :: rest) := ⟨rest, rfl⟩
  cases cs with
  | nil => rfl
  | cons c cs =>
    cases cs with
    | nil =>
      simp only [List.cons_append, List.nil_append, exponentLength]
      split
      · rfl
      · rfl
    | cons d cs =>
      have hdigits : Text.digitCount (d :: (cs ++ ':' :: ' ' :: rest)) =
          Text.digitCount (d :: cs) := digitCount_append_cut hcut (d :: cs)
      simp only [List.cons_append, exponentLength, digitCount_append_cut hcut, hdigits]

theorem exponentLength_spec (cs : List Char) :
    exponentLength cs ≤ cs.length ∧ ∀ c ∈ cs.take (exponentLength cs), isNumeric c = true := by
  have hnone (cs : List Char) : 0 ≤ cs.length ∧ ∀ c ∈ cs.take 0, isNumeric c = true :=
    ⟨Nat.zero_le _, fun c hc => by cases hc⟩
  unfold exponentLength
  split
  · rename_i c rest
    split
    · rename_i hmark
      have hc : isNumeric c = true := by
        rcases hmark with rfl | rfl <;> rfl
      split
      · rename_i d digits
        split
        · rename_i hsign
          have hd : isNumeric d = true := by
            rcases hsign with rfl | rfl <;> rfl
          split
          · exact hnone _
          · have := digitCount_le digits
            refine ⟨by simp only [List.length_cons]; omega, fun x hx => ?_⟩
            rw [Nat.add_comm, List.take_succ_cons, List.take_succ_cons] at hx
            rcases List.mem_cons.1 hx with rfl | hx
            · exact hc
            rcases List.mem_cons.1 hx with rfl | hx
            · exact hd
            · exact isNumeric_of_mem_digits (Nat.le_refl _) hx
        · split
          · exact hnone _
          · have := digitCount_le (d :: digits)
            refine ⟨by simp only [List.length_cons] at this ⊢; omega, fun x hx => ?_⟩
            rw [Nat.add_comm, List.take_succ_cons] at hx
            rcases List.mem_cons.1 hx with rfl | hx
            · exact hc
            · exact isNumeric_of_mem_digits (Nat.le_refl _) hx
      · exact hnone _
    · exact hnone _
  · exact hnone _

theorem numberLength_append_cut (h : Cut s) (cs : List Char) :
    numberLength (cs ++ s) = numberLength cs := by
  have hle := digitCount_le cs
  have hle' := (fractionLength_spec (cs.drop (Text.digitCount cs))).1
  rw [List.length_drop] at hle'
  simp only [numberLength, digitCount_append_cut h, List.drop_append_of_le_length hle,
    fractionLength_append_cut h]
  rw [List.drop_append_of_le_length (by omega), exponentLength_append_cut h]

theorem numberLength_spec (cs : List Char) :
    numberLength cs ≤ cs.length ∧ ∀ c ∈ cs.take (numberLength cs), isNumeric c = true := by
  obtain ⟨hfraction, hchars⟩ := fractionLength_spec (cs.drop (Text.digitCount cs))
  obtain ⟨hexponent, hchars'⟩ := exponentLength_spec
    (cs.drop (Text.digitCount cs + fractionLength (cs.drop (Text.digitCount cs))))
  have hle := digitCount_le cs
  rw [List.length_drop] at hfraction hexponent
  dsimp only [numberLength]
  refine ⟨by omega, fun c hc => ?_⟩
  rw [List.take_add, List.take_add, List.mem_append, List.mem_append] at hc
  rcases hc with (hc | hc) | hc
  · exact isNumeric_of_mem_digits (Nat.le_refl _) hc
  · exact hchars c hc
  · exact hchars' c hc

theorem scanDigits_append (h : Cut s) (cs : List Char) : scanDigits (cs ++ s) = scanDigits cs := by
  simp only [scanDigits, steady_dayTime h cs, steady_day h cs, steady_time h cs,
    numberLength_append_cut h]

theorem scanDigits_spec (cs : List Char) :
    (scanDigits cs).2 ≤ cs.length ∧ ∀ c ∈ cs.take (scanDigits cs).2, isBare c = true := by
  have hstamps {part : List Char → Option Nat} {n : Nat} (hpart : Takes part)
      (hn : part cs = some n) : n ≤ cs.length ∧ ∀ c ∈ cs.take n, isBare c = true :=
    ⟨(hpart cs n hn).1, fun c hc => isBare_of_isStamp ((hpart cs n hn).2 c hc)⟩
  unfold scanDigits
  split
  · exact hstamps takes_dayTime ‹_›
  split
  · exact hstamps takes_day ‹_›
  split
  · exact hstamps takes_time ‹_›
  · obtain ⟨hle, hchars⟩ := numberLength_spec cs
    exact ⟨hle, fun c hc => isBare_of_isNumeric (hchars c hc)⟩

/-! ## All shapes -/

theorem doubleMark?_colon (c : Char) : doubleMark? c ':' = none := by
  unfold doubleMark?
  split <;> simp_all

theorem isBare_of_doubleMark? {c d : Char} {m : Mark} (h : doubleMark? c d = some m) :
    isBare d = true := by
  unfold doubleMark? at h
  split at h
  all_goals first | rfl | cases h

theorem isBare_of_isWordPart {c : Char} (h : Text.isWordPart c = true) : isBare c = true := by
  have hne {d : Char} (hd : Text.isWordPart d = false) : c ≠ d := by
    rintro rfl
    rw [h] at hd
    cases hd
  have hquotes : Text.isWordPart '#' = false ∧ Text.isWordPart '"' = false ∧
      Text.isWordPart '\'' = false ∧ Text.isWordPart '\x60' = false := ⟨rfl, rfl, rfl, rfl⟩
  obtain ⟨hhash, hdouble, hsingle, hback⟩ := hquotes
  simp [isBare, quoteOf?, hne hhash, hne hdouble, hne hsingle, hne hback]

theorem scanMark_append (h : Cut s) (c : Char) (cs : List Char) :
    scanMark c (cs ++ s) = scanMark c cs := by
  have hhead : (cs ++ s).head?.bind (doubleMark? c) = cs.head?.bind (doubleMark? c) := by
    cases cs with
    | nil =>
      obtain ⟨rest, rfl⟩ := h
      exact doubleMark?_colon c
    | cons d cs => rfl
  unfold scanMark
  rw [hhead]
  by_cases hc : c = ':'
  · simp [hc]
  · rw [takeWhile_append_of_head? (h.head?_any (by simpa using Ne.symm hc))]

theorem scan_append (h : Cut s) {c : Char} (hc : isBare c = true) (cs : List Char) :
    scan c (cs ++ s) = scan c cs := by
  simp only [isBare, Bool.and_eq_true, bne_iff_ne, Option.isNone_iff_eq_none] at hc
  have hword : Text.isWordPart ':' = false := rfl
  have hdigits : scanDigits (c :: (cs ++ s)) = scanDigits (c :: cs) := scanDigits_append h (c :: cs)
  unfold scan
  simp only [hdigits, takeWhile_append_of_head? (h.head?_any hword), if_neg hc.1, hc.2,
    scanMark_append h]

theorem scanMark_spec {c : Char} (hc : isBare c = true) (cs : List Char) :
    (scanMark c cs).2 ≤ cs.length + 1 ∧
      ∀ d ∈ (c :: cs).take (scanMark c cs).2, isBare d = true := by
  have hone : 1 ≤ cs.length + 1 ∧ ∀ d ∈ (c :: cs).take 1, isBare d = true :=
    ⟨by simp, fun d hd => List.mem_singleton.1 hd ▸ hc⟩
  have hrun : 1 + (cs.takeWhile (· == c)).length ≤ cs.length + 1 ∧
      ∀ d ∈ (c :: cs).take (1 + (cs.takeWhile (· == c)).length), isBare d = true := by
    have hle := (List.takeWhile_prefix (l := cs) (· == c)).length_le
    refine ⟨by omega, fun d hd => ?_⟩
    rw [Nat.add_comm, List.take_succ_cons, List.mem_cons] at hd
    rcases hd with rfl | hd
    · exact hc
    · have heq : (d == c) = true := mem_take_takeWhile (p := (· == c)) hd
      exact beq_iff_eq.1 heq ▸ hc
  unfold scanMark
  dsimp only
  split
  · exact hrun
  split
  · exact hrun
  split
  · rename_i m hdouble
    obtain ⟨d, hd, hmark⟩ := Option.bind_eq_some_iff.1 hdouble
    obtain ⟨rest, rfl⟩ := List.head?_eq_some_iff.1 hd
    refine ⟨by simp, fun x hx => ?_⟩
    rcases List.mem_cons.1 hx with rfl | hx
    · exact hc
    · exact List.mem_singleton.1 hx ▸ isBare_of_doubleMark? hmark
  split <;> exact hone

theorem scan_spec {c : Char} (hc : isBare c = true) (cs : List Char) :
    (scan c cs).2 ≤ cs.length + 1 ∧ ∀ d ∈ (c :: cs).take (scan c cs).2, isBare d = true := by
  have hone : 1 ≤ cs.length + 1 ∧ ∀ d ∈ (c :: cs).take 1, isBare d = true :=
    ⟨by simp, fun d hd => List.mem_singleton.1 hd ▸ hc⟩
  have hopen : c ≠ '#' ∧ quoteOf? c = none := by
    simpa only [isBare, Bool.and_eq_true, bne_iff_ne, Option.isNone_iff_eq_none] using hc
  unfold scan
  split
  · exact scanDigits_spec (c :: cs)
  split
  · have hle := (List.takeWhile_prefix (l := cs) Text.isWordPart).length_le
    refine ⟨by omega, fun d hd => ?_⟩
    rw [Nat.add_comm, List.take_succ_cons, List.mem_cons] at hd
    rcases hd with rfl | hd
    · exact hc
    · exact isBare_of_isWordPart (mem_take_takeWhile hd)
  split
  · exact hone
  rw [if_neg hopen.1, hopen.2]
  dsimp only
  split
  · exact hone
  · exact scanMark_spec hc cs

theorem isBare_of_scan {c : Char} {rest : List Char} {shape : Shape} {n : Nat}
    (h : scan c rest = (some shape, n)) (hshape : ∀ quote, shape ≠ .quoted quote) :
    isBare c = true := by
  cases scans_of_scan h with
  | dayTime hc | day hc | time hc | number hc => exact isBare_of_isDigit hc
  | word hc =>
    refine isBare_of_isWordPart ?_
    simp only [Text.isWordStart, Bool.or_eq_true] at hc
    simp only [Text.isWordPart, Bool.or_eq_true]
    exact hc.imp_left .inl
  | quoted => exact absurd rfl (hshape _)
  | currencySign hcomment hc | mark hcomment hc => simp [isBare, hc, hcomment]

theorem ne_quoted_of_scan {c : Char} (hc : isBare c = true) {rest : List Char} {shape : Shape}
    {n : Nat} (h : scan c rest = (some shape, n)) (quote : Quote) : shape ≠ .quoted quote := by
  rintro rfl
  cases scans_of_scan h with
  | quoted hquote =>
    rw [isBare, hquote] at hc
    simp at hc

end Shape

/-! ## Pieces -/

namespace Piece

variable {s cs : List Char}

theorem splitFrom_append (h : Shape.Cut s) (hcs : ∀ c ∈ cs, Shape.isBare c = true) {skip : Nat}
    (hskip : skip ≤ cs.length) (offset : Nat) :
    ∃ offset', splitFrom offset skip (cs ++ s) =
      splitFrom offset skip cs ++ splitFrom offset' 0 s := by
  induction cs generalizing offset skip with
  | nil =>
    obtain rfl : skip = 0 := by simpa using hskip
    exact ⟨offset, rfl⟩
  | cons c cs ih =>
    obtain ⟨hc, hcs⟩ := List.forall_mem_cons.1 hcs
    cases skip with
    | succ skip => exact ih hcs (by simpa using hskip) _
    | zero =>
      have hle := (Shape.scan_spec hc cs).1
      have hskip : (Shape.scan c cs).2 - 1 ≤ cs.length := by omega
      obtain ⟨offset', hread⟩ := ih hcs hskip (offset + c.utf8Size)
      refine ⟨offset', ?_⟩
      have htake : (c :: cs ++ s).take (Shape.scan c cs).2 = (c :: cs).take (Shape.scan c cs).2 :=
        List.take_append_of_le_length (by simpa using hle)
      rw [List.cons_append] at htake
      rw [List.cons_append, splitFrom, splitFrom, Shape.scan_append h hc]
      dsimp only
      rw [hread, htake]
      split <;> rfl

/-- What is no quoted text holds nothing that opens one, and no comment. -/
def Bare (p : Piece) : Prop :=
  (∀ quote, p.shape ≠ .quoted quote) → ∀ c ∈ p.text, Shape.isBare c = true

theorem bare_of_mem {p : Piece} {offset skip : Nat} (h : p ∈ splitFrom offset skip cs) : p.Bare := by
  intro hquoted
  obtain ⟨c, rest, n, -, hscan, htext⟩ := exists_scan_of_mem h
  have hspec := (Shape.scan_spec (Shape.isBare_of_scan hscan hquoted) rest).2
  rw [hscan] at hspec
  rw [htext]
  exact hspec

theorem shape_ne_quoted (hcs : ∀ c ∈ cs, Shape.isBare c = true) {p : Piece} {offset skip : Nat}
    (h : p ∈ splitFrom offset skip cs) (quote : Quote) : p.shape ≠ .quoted quote := by
  obtain ⟨c, rest, n, hsuffix, hscan, -⟩ := exists_scan_of_mem h
  exact Shape.ne_quoted_of_scan (hcs c (hsuffix.subset List.mem_cons_self)) hscan quote

end Piece

namespace Token

/-! ## Names hold nothing that opens a comment or a quoted text -/

/-- No name among some tokens holds anything that opens a comment or a quoted
text. -/
def BareNames (ts : List Placed) : Prop :=
  ∀ t ∈ ts, ∀ name, t.token.wordText? = some name → ∀ c ∈ name.toList, Shape.isBare c = true

theorem bareNames_append {ts us : List Placed} (hts : BareNames ts) (hus : BareNames us) :
    BareNames (ts ++ us) := fun t ht => (List.mem_append.1 ht).elim (hts t) (hus t)

theorem bareNames_nil : BareNames [] := fun t ht => by cases ht

theorem bareNames_cons {t : Placed} {ts : List Placed}
    (ht : ∀ name, t.token.wordText? = some name → ∀ c ∈ name.toList, Shape.isBare c = true)
    (hts : BareNames ts) : BareNames (t :: ts) := by
  intro u hu
  rcases List.mem_cons.1 hu with rfl | hu
  · exact ht
  · exact hts u hu

/-- A token that is no name. -/
theorem bareNames_cons_of_none {t : Placed} {ts : List Placed} (ht : t.token.wordText? = none)
    (hts : BareNames ts) : BareNames (t :: ts) :=
  bareNames_cons (fun name hname => by rw [ht] at hname; cases hname) hts

theorem wordText?_ofWord {word name : String} (h : (ofWord word).wordText? = some name) :
    name = word := by
  unfold ofWord at h
  split at h
  · exact (Option.some.inj h).symm
  split at h
  · rename_i k hk
    have hname : k.name = word := by simpa using List.find?_some hk
    exact (Option.some.inj h).symm.trans hname
  split at h
  · exact (Option.some.inj h).symm
  split at h
  · exact (Option.some.inj h).symm
  split at h
  · exact (Option.some.inj h).symm
  split at h
  · exact (Option.some.inj h).symm
  split at h
  all_goals first | exact (Option.some.inj h).symm | cases h

theorem bareNames_fragments (cs : List Char) (offset skip : Nat) :
    BareNames (fragments offset skip cs) := by
  induction cs generalizing offset skip with
  | nil => cases skip <;> exact bareNames_nil
  | cons c cs ih =>
    cases skip with
    | succ skip => exact ih _ _
    | zero =>
      rw [fragments]
      split
      · exact bareNames_cons_of_none rfl (ih _ _)
      · split
        · exact bareNames_cons_of_none rfl (ih _ _)
        · exact ih _ _

theorem bareNames_ofDay (cs : List Char) (offset : Nat) : BareNames (ofDay cs offset) := by
  unfold ofDay
  split
  · exact bareNames_cons_of_none rfl bareNames_nil
  · exact bareNames_fragments _ _ _

theorem bareNames_ofTime (cs : List Char) (offset : Nat) : BareNames (ofTime cs offset) := by
  unfold ofTime
  split
  · exact bareNames_cons_of_none rfl bareNames_nil
  · exact bareNames_fragments _ _ _

theorem bareNames_ofWord {word : String} (hword : ∀ c ∈ word.toList, Shape.isBare c = true)
    (offset : Nat) : BareNames [⟨ofWord word, offset⟩] := by
  have hname {name : String} : (ofWord word).wordText? = some name → name = word := wordText?_ofWord
  generalize ofWord word = t at hname
  refine bareNames_cons (fun name h => ?_) bareNames_nil
  rw [hname h]
  exact hword

theorem bareNames_ofPiece {p : Piece} (hp : p.Bare) : BareNames (ofPiece p) := by
  unfold ofPiece
  split
  · exact bareNames_ofDay _ _
  · exact bareNames_ofTime _ _
  · exact bareNames_cons_of_none rfl bareNames_nil
  · rename_i quote _
    refine bareNames_cons_of_none ?_ bareNames_nil
    cases quote <;> rfl
  · rename_i hshape
    refine bareNames_ofWord (fun c hc => ?_) _
    rw [String.toList_ofList] at hc
    exact hp (by simp [hshape]) c hc
  · split
    · rename_i code hcode
      refine bareNames_cons (fun name hname => ?_) bareNames_nil
      obtain rfl : code = name := Option.some.inj hname
      unfold Currency.ofSign? at hcode
      split at hcode
      all_goals first | cases hcode; exact List.all_eq_true.1 (by decide) | cases hcode
    · exact bareNames_nil
  · exact bareNames_cons_of_none rfl bareNames_nil
  · exact bareNames_nil

/-- A text of which nothing opens a comment or a quoted text. -/
abbrev BareText (text : String) : Prop := ∀ c ∈ text.toList, Shape.isBare c = true

theorem bare_glueOffset? {p : Piece} {following : List Piece} {found : String} {taken : Nat}
    (hp : ∀ c ∈ p.text, Shape.isBare c = true) (hfollowing : ∀ q ∈ following, q.Bare)
    (h : glueOffset? p following = some (found, taken)) : BareText found := by
  have hword : BareText (String.ofList p.text) := by
    rw [BareText, String.toList_ofList]
    exact hp
  unfold glueOffset? at h
  split at h
  · split at h
    · rename_i sign amount rest
      dsimp only at h
      split at h
      · rename_i hglue
        simp only [Bool.and_eq_true, Bool.or_eq_true, beq_iff_eq] at hglue
        obtain ⟨rfl, -⟩ := Prod.mk.inj (Option.some.inj h)
        have hsign := hfollowing sign (by simp) (by
          rcases hglue.1.1.1.1 with hs | hs <;> simp [hs])
        have hamount := hfollowing amount (by simp) (by
          have := hglue.1.1.1.2
          intro quote hquote
          rw [hquote] at this
          cases this)
        rw [BareText, String.toList_ofList]
        simp only [List.mem_append]
        rintro c ((hc | hc) | hc)
        · exact hp c hc
        · exact hsign c hc
        · exact hamount c hc
      · obtain ⟨rfl, -⟩ := Prod.mk.inj (Option.some.inj h)
        exact hword
    · obtain ⟨rfl, -⟩ := Prod.mk.inj (Option.some.inj h)
      exact hword
  · cases h

theorem bare_glueRegion? {text : List Char} {stop taken k : Nat} {best : Option (String × Nat)}
    {pieces : List Piece} {found : String} (htext : ∀ c ∈ text, Shape.isBare c = true)
    (hbest : ∀ name k, best = some (name, k) → BareText name) (hpieces : ∀ q ∈ pieces, q.Bare)
    (h : glueRegion? text stop taken best pieces = some (found, k)) : BareText found := by
  induction hn : pieces.length using Nat.strongRecOn
      generalizing pieces text stop taken best with
  | ind n ih =>
    unfold glueRegion? at h
    split at h
    · rename_i slash part rest
      split at h
      · rename_i hglue
        simp only [Bool.and_eq_true, beq_iff_eq] at hglue
        have hslash := hpieces slash (by simp) (by simp [hglue.1.1.1])
        have hpart := hpieces part (by simp) (by simp [hglue.1.1.2])
        have hcandidate : ∀ c ∈ text ++ slash.text ++ part.text, Shape.isBare c = true := by
          simp only [List.mem_append]
          rintro c ((hc | hc) | hc)
          · exact htext c hc
          · exact hslash c hc
          · exact hpart c hc
        refine ih rest.length (by simp only [List.length_cons] at hn; omega) hcandidate ?_
          (fun q hq => hpieces q (by simp [hq])) h rfl
        intro name k hname
        split at hname
        · obtain ⟨rfl, -⟩ := Prod.mk.inj (Option.some.inj hname)
          rw [BareText, String.toList_ofList]
          exact hcandidate
        · exact hbest name k hname
      · exact hbest _ _ h
    · exact hbest _ _ h

theorem bare_glueCity? {p : Piece} {following : List Piece} {found : String} {taken : Nat}
    (hp : ∀ c ∈ p.text, Shape.isBare c = true) (hfollowing : ∀ q ∈ following, q.Bare)
    (h : glueCity? p following = some (found, taken)) : BareText found := by
  unfold glueCity? at h
  dsimp only at h
  split at h
  · split at h
    · rename_i next rest
      split at h
      · rename_i hglue
        simp only [Bool.and_eq_true, beq_iff_eq] at hglue
        obtain ⟨rfl, -⟩ := Prod.mk.inj (Option.some.inj h)
        have hnext := hfollowing next (by simp) (by simp [hglue.1])
        simp only [BareText, String.toList_append, String.toList_ofList, List.mem_append]
        rintro c ((hc | hc) | hc)
        · exact hp c hc
        · have hblank : " ".toList.all Shape.isBare = true := by decide
          exact List.all_eq_true.1 hblank c hc
        · exact hnext c hc
      · cases h
    · cases h
  · cases h

theorem bare_glueZone? {p : Piece} {following : List Piece} {found : String} {taken : Nat}
    (hp : ∀ c ∈ p.text, Shape.isBare c = true) (hfollowing : ∀ q ∈ following, q.Bare)
    (h : glueZone? p following = some (found, taken)) : BareText found := by
  unfold glueZone? at h
  split at h
  · rename_i hoffset
    exact bare_glueOffset? hp hfollowing (hoffset.trans h)
  split at h
  · rename_i hregion
    exact bare_glueRegion? hp (by simp) hfollowing (hregion.trans h)
  · exact bare_glueCity? hp hfollowing h

theorem bareNames_ofPieces {broken : Piece → List Placed} {ps : List Piece} {skip : Nat}
    (hps : ∀ p ∈ ps, p.Bare) (hbroken : ∀ p, BareNames (broken p)) :
    BareNames (ofPieces broken skip ps) := by
  induction ps generalizing skip with
  | nil => cases skip <;> exact bareNames_nil
  | cons p rest ih =>
    obtain ⟨hp, hrest⟩ := List.forall_mem_cons.1 hps
    cases skip with
    | succ skip => exact ih hrest
    | zero =>
      rw [ofPieces.eq_def]
      dsimp only
      split
      · rename_i hshape
        have htext := hp (by simp [hshape])
        split
        · rename_i found taken hglue
          refine bareNames_cons (fun name hname => ?_) (ih hrest)
          obtain rfl : found = name := Option.some.inj hname
          exact bare_glueZone? htext hrest hglue
        · exact bareNames_append (bareNames_ofPiece hp) (ih hrest)
      · split
        · split
          · exact bareNames_cons_of_none rfl (ih hrest)
          · exact bareNames_append (hbroken p) (ih hrest)
        · exact ih hrest
      · exact bareNames_append (bareNames_ofPiece hp) (ih hrest)

theorem bareNames_ofBroken (p : Piece) : BareNames (ofBroken p) :=
  bareNames_append (bareNames_ofDay _ _)
    (bareNames_ofPieces (fun _ hq => Piece.bare_of_mem hq) fun _ => bareNames_nil)

/-- No name in a source holds anything that opens a comment or a quoted
text. -/
theorem bareNames_tokenize (source : String) : BareNames (tokenize source) :=
  bareNames_append (bareNames_ofPieces (fun _ hq => Piece.bare_of_mem hq) bareNames_ofBroken)
    (bareNames_cons_of_none rfl bareNames_nil)

/-! ## Pieces in front of a colon -/

section

variable {p colon : Piece} {following more : List Piece}

theorem glueOffset?_append (hcolon : colon.shape = .mark .colon) :
    glueOffset? p (following ++ colon :: more) = glueOffset? p following := by
  unfold glueOffset?
  split
  · cases following with
    | nil =>
      cases more with
      | nil => rfl
      | cons q more => simp [hcolon]
    | cons q following =>
      cases following with
      | nil => simp [hcolon, isOffsetAmount]
      | cons r following => rfl
  · rfl

theorem glueRegion?_append (hcolon : colon.shape = .mark .colon) (text : List Char)
    (stop taken : Nat) (best : Option (String × Nat)) :
    glueRegion? text stop taken best (following ++ colon :: more) =
      glueRegion? text stop taken best following := by
  induction hn : following.length using Nat.strongRecOn
      generalizing following text stop taken best with
  | ind n ih =>
    cases following with
    | nil =>
      cases more with
      | nil => rfl
      | cons q more => simp [glueRegion?, hcolon]
    | cons q following =>
      cases following with
      | nil => simp [glueRegion?, hcolon]
      | cons r following =>
        rw [List.cons_append, List.cons_append, glueRegion?, glueRegion?]
        split
        · exact ih following.length (by simp only [List.length_cons] at hn; omega) _ _ _ _ rfl
        · rfl

theorem glueCity?_append (hcolon : colon.shape = .mark .colon) :
    glueCity? p (following ++ colon :: more) = glueCity? p following := by
  unfold glueCity?
  dsimp only
  split
  · cases following with
    | nil => simp [hcolon]
    | cons q following => rfl
  · rfl

theorem glueZone?_append (hcolon : colon.shape = .mark .colon) :
    glueZone? p (following ++ colon :: more) = glueZone? p following := by
  simp only [glueZone?, glueOffset?_append hcolon, glueRegion?_append hcolon,
    glueCity?_append hcolon]

theorem taken_le_of_glueRegion? {text : List Char} {stop taken k : Nat}
    {best : Option (String × Nat)} {found : String}
    (hbest : ∀ name n, best = some (name, n) → n ≤ taken)
    (h : glueRegion? text stop taken best following = some (found, k)) :
    k ≤ taken + following.length := by
  induction hn : following.length using Nat.strongRecOn
      generalizing following text stop taken best with
  | ind n ih =>
    unfold glueRegion? at h
    split at h
    · rename_i slash part rest
      simp only [List.length_cons] at hn
      split at h
      · have hle := ih rest.length (by omega) (fun name n hname => ?_) h rfl
        · omega
        · split at hname
          · obtain ⟨-, rfl⟩ := Prod.mk.inj (Option.some.inj hname)
            exact Nat.le_refl _
          · exact Nat.le_add_right_of_le (hbest name n hname)
      · exact Nat.le_add_right_of_le (hbest _ _ h)
    · exact Nat.le_add_right_of_le (hbest _ _ h)

/-- No more pieces are glued to a word than there are. -/
theorem taken_le_of_glueZone? {found : String} {taken : Nat}
    (h : glueZone? p following = some (found, taken)) : taken ≤ following.length := by
  unfold glueZone? at h
  split at h
  · rename_i hoffset
    rw [h] at hoffset
    unfold glueOffset? at hoffset
    split at hoffset
    · split at hoffset
      · dsimp only at hoffset
        split at hoffset
        all_goals
          obtain ⟨-, rfl⟩ := Prod.mk.inj (Option.some.inj hoffset)
          simp
      · obtain ⟨-, rfl⟩ := Prod.mk.inj (Option.some.inj hoffset)
        exact Nat.zero_le _
    · cases hoffset
  split at h
  · rename_i hregion
    have hle := taken_le_of_glueRegion? (by simp) (hregion.trans h)
    rwa [Nat.zero_add] at hle
  · unfold glueCity? at h
    dsimp only at h
    split at h
    · split at h
      · split at h
        · obtain ⟨-, rfl⟩ := Prod.mk.inj (Option.some.inj h)
          simp
        · cases h
      · cases h
    · cases h

/-- Nothing in front of a colon is glued to what follows it. -/
theorem ofPieces_append (broken : Piece → List Placed) (hcolon : colon.shape = .mark .colon)
    {front : List Piece} {skip : Nat} (hskip : skip ≤ front.length) :
    ofPieces broken skip (front ++ colon :: more) =
      ofPieces broken skip front ++ ofPieces broken 0 (colon :: more) := by
  induction front generalizing skip with
  | nil =>
    obtain rfl : skip = 0 := by simpa using hskip
    rfl
  | cons p front ih =>
    cases skip with
    | succ skip => exact ih (by simpa using hskip)
    | zero =>
      have hrest := ih (Nat.zero_le _)
      rw [List.cons_append, ofPieces.eq_def, ofPieces.eq_def broken 0 (p :: front)]
      dsimp only
      rw [glueZone?_append hcolon]
      cases hshape : p.shape with
      | word =>
        dsimp only
        cases hglue : glueZone? p front with
        | none =>
          dsimp only
          rw [hrest, List.append_assoc]
        | some zone =>
          obtain ⟨found, taken⟩ := zone
          dsimp only
          rw [ih (taken_le_of_glueZone? hglue), List.cons_append]
      | dayTime =>
        dsimp only
        split
        · split
          · rw [hrest, List.cons_append]
          · rw [hrest, List.append_assoc]
        · exact hrest
      | _ =>
        dsimp only
        rw [hrest, List.append_assoc]

end

end Token

/-! ## Texts that start elsewhere -/

/-- A piece moved further. -/
def Piece.moved (distance : Nat) (p : Piece) : Piece := { p with offset := p.offset + distance }

theorem Piece.splitFrom_moved (distance : Nat) (cs : List Char) (offset skip : Nat) :
    splitFrom (offset + distance) skip cs = (splitFrom offset skip cs).map (moved distance) := by
  induction cs generalizing offset skip with
  | nil => cases skip <;> rfl
  | cons c cs ih =>
    cases skip with
    | succ skip =>
      rw [splitFrom, splitFrom, Nat.add_right_comm, ih]
    | zero =>
      rw [splitFrom, splitFrom, Nat.add_right_comm]
      dsimp only
      rw [ih]
      split <;> rfl

namespace Token

variable {distance : Nat}

/-- Some tokens, wherever they stand. -/
abbrev tokensOf (ts : List Placed) : List Token := ts.map (·.token)

theorem tokensOf_fragments (cs : List Char) (offset offset' skip : Nat) :
    tokensOf (fragments offset skip cs) = tokensOf (fragments offset' skip cs) := by
  induction cs generalizing offset offset' skip with
  | nil => cases skip <;> rfl
  | cons c cs ih =>
    cases skip with
    | succ skip => exact ih _ _ _
    | zero =>
      rw [fragments, fragments]
      split
      · exact congrArg (_ :: ·) (ih _ _ _)
      · split
        · exact congrArg (_ :: ·) (ih _ _ _)
        · exact ih _ _ _

theorem tokensOf_ofDay (cs : List Char) (offset offset' : Nat) :
    tokensOf (ofDay cs offset) = tokensOf (ofDay cs offset') := by
  unfold ofDay
  split
  · rfl
  · exact tokensOf_fragments _ _ _ _

theorem tokensOf_ofTime (cs : List Char) (offset offset' : Nat) :
    tokensOf (ofTime cs offset) = tokensOf (ofTime cs offset') := by
  unfold ofTime
  split
  · rfl
  · exact tokensOf_fragments _ _ _ _

theorem tokensOf_ofPiece {p : Piece} (hp : ∀ quote, p.shape ≠ .quoted quote) :
    tokensOf (ofPiece (p.moved distance)) = tokensOf (ofPiece p) := by
  unfold ofPiece Piece.moved
  dsimp only
  split
  · exact tokensOf_ofDay _ _ _
  · exact tokensOf_ofTime _ _ _
  · rfl
  · exact absurd ‹_› (hp _)
  · rw [tokensOf, List.map_singleton, tokensOf, List.map_singleton]
  · split <;> rfl
  · rfl
  · rfl

theorem stop_moved (p : Piece) : (p.moved distance).stop = p.stop + distance :=
  Nat.add_right_comm _ _ _

theorem beq_moved (m n : Nat) : (m + distance == n + distance) = (m == n) := by
  rw [Bool.eq_iff_iff, beq_iff_eq, beq_iff_eq, Nat.add_right_cancel_iff]

theorem glueOffset?_moved (p : Piece) (following : List Piece) :
    glueOffset? (p.moved distance) (following.map (Piece.moved distance)) =
      glueOffset? p following := by
  obtain _ | ⟨sign, _ | ⟨amount, rest⟩⟩ := following
  · rfl
  · rfl
  · simp only [glueOffset?, List.map_cons, stop_moved]
    simp only [Piece.moved, beq_moved]

theorem glueRegion?_moved (text : List Char) (stop taken : Nat) (best : Option (String × Nat))
    (following : List Piece) :
    glueRegion? text (stop + distance) taken best (following.map (Piece.moved distance)) =
      glueRegion? text stop taken best following := by
  induction hn : following.length using Nat.strongRecOn
      generalizing following text stop taken best with
  | ind n ih =>
    obtain _ | ⟨slash, _ | ⟨part, rest⟩⟩ := following
    · rfl
    · rfl
    · have hshape (q : Piece) : (q.moved distance).shape = q.shape := rfl
      have htext (q : Piece) : (q.moved distance).text = q.text := rfl
      have hoffset (q : Piece) : (q.moved distance).offset = q.offset + distance := rfl
      simp only [List.length_cons] at hn
      rw [List.map_cons, List.map_cons, glueRegion?, glueRegion?]
      simp only [hshape, htext, hoffset, stop_moved, beq_moved]
      split
      · exact ih rest.length (by omega) _ _ _ _ _ rfl
      · rfl

theorem glueZone?_moved (p : Piece) (following : List Piece) :
    glueZone? (p.moved distance) (following.map (Piece.moved distance)) =
      glueZone? p following := by
  have hcity : glueCity? (p.moved distance) (following.map (Piece.moved distance)) =
      glueCity? p following := by
    cases following <;> rfl
  rw [glueZone?, glueOffset?_moved, stop_moved, glueRegion?_moved, hcity, glueZone?, Piece.moved]

theorem tokensOf_append (ts us : List Placed) : tokensOf (ts ++ us) = tokensOf ts ++ tokensOf us :=
  List.map_append

theorem tokensOf_ofPieces {broken : Piece → List Placed} {ps : List Piece} {skip : Nat}
    (hps : ∀ p ∈ ps, ∀ quote, p.shape ≠ .quoted quote)
    (hbroken : ∀ p ∈ ps, tokensOf (broken (p.moved distance)) = tokensOf (broken p)) :
    tokensOf (ofPieces broken skip (ps.map (Piece.moved distance))) =
      tokensOf (ofPieces broken skip ps) := by
  induction ps generalizing skip with
  | nil => cases skip <;> rfl
  | cons p ps ih =>
    obtain ⟨hp, hps⟩ := List.forall_mem_cons.1 hps
    obtain ⟨hbroken, hlater⟩ := List.forall_mem_cons.1 hbroken
    cases skip with
    | succ skip => exact ih hps hlater
    | zero =>
      have hpiece (skip : Nat) : tokensOf (ofPiece (p.moved distance) ++
          ofPieces broken skip (ps.map (Piece.moved distance))) =
          tokensOf (ofPiece p ++ ofPieces broken skip ps) := by
        rw [tokensOf_append, tokensOf_append, tokensOf_ofPiece hp, ih hps hlater]
      rw [List.map_cons, ofPieces.eq_def, ofPieces.eq_def broken 0 (p :: ps)]
      dsimp only
      rw [glueZone?_moved]
      have hshape : (p.moved distance).shape = p.shape := rfl
      have htext : (p.moved distance).text = p.text := rfl
      rw [hshape, htext]
      split
      · split
        · exact congrArg (_ :: ·) (ih hps hlater)
        · exact hpiece 0
      · split
        · split
          · exact congrArg (_ :: ·) (ih hps hlater)
          · rw [tokensOf_append, tokensOf_append, hbroken, ih hps hlater]
        · exact ih hps hlater
      · exact hpiece 0

theorem tokensOf_ofBroken {p : Piece} (hp : ∀ c ∈ p.text, Shape.isBare c = true) :
    tokensOf (ofBroken (p.moved distance)) = tokensOf (ofBroken p) := by
  have hrest : ∀ c ∈ p.text.drop (p.text.takeWhile (· ≠ 'T')).length, Shape.isBare c = true :=
    fun c hc => hp c (List.mem_of_mem_drop hc)
  unfold ofBroken Piece.moved
  dsimp only
  rw [tokensOf_append, tokensOf_append, tokensOf_ofDay _ _ p.offset, Nat.add_right_comm,
    Piece.split, Piece.splitFrom_moved]
  exact congrArg (_ ++ ·)
    (tokensOf_ofPieces (fun _ hq => Piece.shape_ne_quoted hrest hq) fun _ _ => rfl)

/-- Where a text without quotes starts is seen in the places of its tokens
only. -/
theorem tokensOf_tokensFrom {cs : List Char} (hcs : ∀ c ∈ cs, Shape.isBare c = true)
    (offset : Nat) : tokensOf (tokensFrom offset cs) = tokensOf (tokensFrom 0 cs) := by
  have hshape {p : Piece} (hp : p ∈ Piece.splitFrom 0 0 cs) := Piece.shape_ne_quoted hcs hp
  rw [← Nat.zero_add offset, tokensFrom, Piece.splitFrom_moved]
  exact tokensOf_ofPieces (fun _ hp => hshape hp) fun _ hp =>
    tokensOf_ofBroken (Piece.bare_of_mem hp (hshape hp))

/-! ## Keys -/

/-- The token that a key is read as, if it is one. -/
def keyToken (key : String) : Token := (tokensOf (tokenize key)).headD .finish

/-- What stands for itself in front of the colon of an entry: a text that is
read as one token, whose name is the whole text. -/
def IsKey (key : String) : Prop :=
  tokensOf (tokenize key) = [keyToken key, .finish] ∧ (keyToken key).wordText? = some key

instance (key : String) : Decidable (IsKey key) :=
  inferInstanceAs (Decidable (tokensOf (tokenize key) = [keyToken key, .finish] ∧ _))

variable {key : String}

theorem IsKey.isBare (h : IsKey key) : ∀ c ∈ key.toList, Shape.isBare c = true := by
  obtain ⟨htokens, hname⟩ := h
  have hmem : keyToken key ∈ tokensOf (tokenize key) := by rw [htokens]; exact List.mem_cons_self
  obtain ⟨placed, hplaced, htoken⟩ := List.mem_map.1 hmem
  exact bareNames_tokenize key placed hplaced key (htoken ▸ hname)

/-- A key is read as its one token also in front of its colon. -/
theorem lexes_key (h : IsKey key) (rest : List Char) :
    Lexes key.toList [keyToken key] (':' :: ' ' :: rest) := by
  intro offset
  obtain ⟨offset', hsplit⟩ :=
    Piece.splitFrom_append ⟨rest, rfl⟩ h.isBare (Nat.zero_le _) offset
  have hcolon : Piece.splitFrom offset' 0 (':' :: ' ' :: rest) =
      { shape := .mark .colon, text := [':'], offset := offset' } ::
        Piece.splitFrom (offset' + 1) 0 (' ' :: rest) := rfl
  refine ⟨tokensFrom offset key.toList, offset', ?_, ?_⟩
  · have hall : tokensOf (tokenize key) = [keyToken key] ++ [.finish] := h.1
    have halone : tokensOf (tokensFrom 0 key.toList) ++ [.finish] = [keyToken key] ++ [.finish] := by
      rw [← hall, tokenize, tokensOf_append]
      rfl
    exact (tokensOf_tokensFrom h.isBare offset).trans (List.append_cancel_right halone)
  · rw [tokensFrom, hsplit, hcolon, ofPieces_append ofBroken rfl (Nat.zero_le _), ← hcolon]

end Token

end Reckoner
