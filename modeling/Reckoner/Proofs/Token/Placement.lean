import Reckoner.Proofs.Token.Cut

/-!
# Where pieces stand

A piece of a source says at which byte it starts.  That its text stands there,
and that the pieces follow one another, are proved here for every source.

* `Text.Stands`: a text stands in another one at a byte.
* `Shape.scan_pos`, `Shape.isStamp_of_scan`, `Shape.exists_content`: what a
  shape takes from the front of a text.
* `Piece.laid_splitFrom`: the pieces of a text stand in order and apart.
-/

namespace Reckoner

/-! ## Bytes -/

namespace Text

variable {source text more : List Char} {offset : Nat}

theorem foldl_utf8Size (cs : List Char) (n : Nat) :
    cs.foldl (fun n c => n + c.utf8Size) n = n + byteLength cs := by
  induction cs generalizing n with
  | nil => rfl
  | cons c cs ih =>
    rw [byteLength, List.foldl_cons, List.foldl_cons, ih, ih]
    omega

@[simp] theorem byteLength_nil : byteLength [] = 0 := rfl

@[simp] theorem byteLength_cons (c : Char) (cs : List Char) :
    byteLength (c :: cs) = c.utf8Size + byteLength cs := by
  rw [byteLength, List.foldl_cons, foldl_utf8Size]
  omega

@[simp] theorem byteLength_append (cs ds : List Char) :
    byteLength (cs ++ ds) = byteLength cs + byteLength ds := by
  rw [byteLength, List.foldl_append, foldl_utf8Size, ← byteLength]

theorem byteLength_pos {cs : List Char} (h : cs ≠ []) : 0 < byteLength cs := by
  obtain ⟨c, cs, rfl⟩ := List.exists_cons_of_ne_nil h
  have := c.utf8Size_pos
  rw [byteLength_cons]
  omega

theorem eq_nil_of_byteLength {cs : List Char} (h : byteLength cs = 0) : cs = [] := by
  cases cs with
  | nil => rfl
  | cons c cs =>
    have := byteLength_pos (List.cons_ne_nil c cs)
    omega

theorem utf8ByteSize_ofList (cs : List Char) : (String.ofList cs).utf8ByteSize = byteLength cs := by
  induction cs with
  | nil => rfl
  | cons c cs ih =>
    have hone : (String.ofList [c]).utf8ByteSize = c.utf8Size := by
      rw [← String.singleton_eq_ofList, String.utf8ByteSize_singleton]
    rw [← List.singleton_append, String.ofList_append, String.utf8ByteSize_append, ih, hone,
      List.singleton_append, byteLength_cons]

theorem utf8ByteSize_eq (s : String) : s.utf8ByteSize = byteLength s.toList := by
  rw [← utf8ByteSize_ofList, String.ofList_toList]

/-- Beginnings of a text with as many bytes are the same. -/
theorem eq_of_byteLength_eq {cs ds cs' ds' : List Char} (h : cs ++ ds = cs' ++ ds')
    (hbytes : byteLength cs = byteLength cs') : cs = cs' ∧ ds = ds' := by
  rcases List.append_eq_append_iff.1 h with ⟨es, rfl, rfl⟩ | ⟨es, rfl, rfl⟩
  all_goals
    rw [byteLength_append] at hbytes
    obtain rfl : es = [] := eq_nil_of_byteLength (by omega)
    simp

/-- `text` stands in `source` at the byte `offset`, which is the boundary of a
character. -/
def Stands (source text : List Char) (offset : Nat) : Prop :=
  ∃ front back, source = front ++ (text ++ back) ∧ byteLength front = offset

theorem stands_self (source : List Char) : Stands source source 0 := ⟨[], [], by simp, rfl⟩

theorem Stands.left (h : Stands source (text ++ more) offset) : Stands source text offset := by
  obtain ⟨front, back, rfl, rfl⟩ := h
  exact ⟨front, more ++ back, by simp, rfl⟩

theorem Stands.right (h : Stands source (text ++ more) offset) :
    Stands source more (offset + byteLength text) := by
  obtain ⟨front, back, rfl, rfl⟩ := h
  exact ⟨front ++ text, back, by simp, byteLength_append _ _⟩

theorem Stands.behind {c : Char} (h : Stands source (c :: text) offset) :
    Stands source text (offset + c.utf8Size) := by
  rw [← List.singleton_append] at h
  simpa using h.right

/-- Where a text stands, a character starts. -/
theorem Stands.boundary (h : Stands source text offset) : Stands source [] offset := Stands.left h

/-- Texts that stand one behind the other stand together. -/
theorem Stands.append (h : Stands source text offset)
    (hmore : Stands source more (offset + byteLength text)) :
    Stands source (text ++ more) offset := by
  obtain ⟨front, back, rfl, rfl⟩ := h
  obtain ⟨front', back', heq, hbytes⟩ := hmore
  rw [← List.append_assoc] at heq
  obtain ⟨-, rfl⟩ := eq_of_byteLength_eq heq (by rw [byteLength_append, hbytes])
  exact ⟨front, back', by simp, rfl⟩

theorem Stands.trans {offset' : Nat} (h : Stands source text offset)
    (hmore : Stands text more offset') : Stands source more (offset + offset') := by
  obtain ⟨front, back, rfl, rfl⟩ := h
  obtain ⟨front', back', rfl, rfl⟩ := hmore
  exact ⟨front ++ front', back' ++ back, by simp, byteLength_append _ _⟩

end Text

/-! ## What a shape takes -/

namespace Shape

theorem sequence?_pos {part : List Char → Option Nat} {parts : List (List Char → Option Nat)}
    {cs : List Char} {n : Nat} (hpart : ∀ k, part cs = some k → 0 < k)
    (h : sequence? (part :: parts) cs = some n) : 0 < n := by
  rw [sequence?_cons] at h
  obtain ⟨k, hk, hrest⟩ := Option.bind_eq_some_iff.1 h
  obtain ⟨m, -, rfl⟩ := Option.map_eq_some_iff.1 hrest
  have := hpart k hk
  omega

theorem scanDigits_pos {c : Char} {cs : List Char} (hc : c.isDigit = true) :
    0 < (scanDigits (c :: cs)).2 := by
  have hcount : 0 < Text.digitCount (c :: cs) := by
    simp [Text.digitCount, hc]
  have hdigits (k : Nat) (hk : digits? 1 2 (c :: cs) = some k) : 0 < k := by
    rw [digits?_eq_some hk]
    exact hcount
  unfold scanDigits
  split
  · exact sequence?_pos (fun k => sequence?_pos hdigits) ‹_›
  split
  · exact sequence?_pos hdigits ‹_›
  split
  · exact sequence?_pos hdigits ‹_›
  · show 0 < numberLength (c :: cs)
    dsimp only [numberLength]
    omega

/-- A scan takes at least one character. -/
theorem scan_pos (c : Char) (cs : List Char) : 0 < (scan c cs).2 := by
  unfold scan
  split
  · exact scanDigits_pos ‹_›
  split
  · exact Nat.lt_of_lt_of_le Nat.one_pos (Nat.le_add_right _ _)
  split
  · exact Nat.one_pos
  split
  · exact Nat.lt_of_lt_of_le Nat.one_pos (Nat.le_add_right _ _)
  split
  · exact Nat.succ_pos _
  split
  · exact Nat.one_pos
  unfold scanMark
  dsimp only
  repeat' split
  all_goals first | exact Nat.one_pos | exact Nat.two_pos | omega

/-- Days and times are written in characters of their own. -/
theorem isStamp_of_scan {c : Char} {cs : List Char} {shape : Shape} {n : Nat}
    (h : scan c cs = (some shape, n)) (hshape : shape = .dayTime ∨ shape = .day ∨ shape = .time) :
    ∀ d ∈ (c :: cs).take n, isStamp d = true := by
  cases scans_of_scan h with
  | dayTime _ hlength => exact (takes_dayTime _ _ hlength).2
  | day _ hlength => exact (takes_day _ _ hlength).2
  | time _ hlength => exact (takes_time _ _ hlength).2
  | number | word | quoted | currencySign | mark => simp at hshape

/-- What stands between the quotes of a closed string: a backslash takes the
next character with it, and no other character is the quote. -/
inductive Enclosed (quote : Char) : List Char → Prop
  | nil : Enclosed quote []
  | pair {c : Char} {cs : List Char} (hcs : Enclosed quote cs) : Enclosed quote ('\\' :: c :: cs)
  | single {c : Char} {cs : List Char} (hquote : c ≠ quote) (hslash : c ≠ '\\')
      (hcs : Enclosed quote cs) : Enclosed quote (c :: cs)

/-- What is enclosed in quotes goes on so behind any character but a
backslash. -/
theorem Enclosed.behind {quote c : Char} {cs : List Char} (hc : c ≠ '\\') (h : Enclosed quote cs)
    {front back : List Char} (heq : cs = front ++ c :: back) : Enclosed quote back := by
  induction h generalizing front with
  | nil => simp at heq
  | @pair d cs hcs ih =>
    match front with
    | [] => exact absurd (List.cons.inj heq).1.symm hc
    | [_] =>
      obtain ⟨-, htail⟩ := List.cons.inj heq
      obtain ⟨-, rfl⟩ := List.cons.inj htail
      exact hcs
    | _ :: _ :: front =>
      obtain ⟨-, htail⟩ := List.cons.inj heq
      exact ih (List.cons.inj htail).2
  | single _ _ hcs ih =>
    match front with
    | [] => exact (List.cons.inj heq).2 ▸ hcs
    | _ :: front => exact ih (List.cons.inj heq).2

/-- What is enclosed in quotes is not closed earlier. -/
theorem Enclosed.not_append {quote : Char} {cs : List Char} (hquote : quote ≠ '\\')
    (h : Enclosed quote cs) (back : List Char) : ¬ Enclosed quote (cs ++ quote :: back) := by
  intro happend
  induction h with
  | nil =>
    rw [List.nil_append] at happend
    cases happend with
    | pair => exact hquote rfl
    | single hne => exact hne rfl
  | pair hcs ih =>
    rw [List.cons_append, List.cons_append] at happend
    cases happend with
    | pair happend => exact ih happend
    | single _ hslash => exact hslash rfl
  | @single _ cs _ hslash hcs ih =>
    rw [List.cons_append] at happend
    generalize cs ++ quote :: back = rest at happend ih
    cases happend with
    | pair => exact hslash rfl
    | single _ _ happend => exact ih happend

theorem exists_enclosed {quote : Char} {cs : List Char} {n : Nat}
    (h : scanQuoted quote cs = (true, n)) :
    ∃ content rest, cs = content ++ quote :: rest ∧ n = content.length + 1 ∧
      Enclosed quote content := by
  induction cs using scanQuoted.induct quote generalizing n with
  | case1 => cases h
  | case2 => cases h
  | case3 c cs hbreak closed m hread ih =>
    simp only [scanQuoted, hread, Prod.mk.injEq] at h
    obtain ⟨rfl, rfl⟩ := h
    obtain ⟨content, rest, rfl, rfl, hcontent⟩ := ih hread
    exact ⟨'\\' :: c :: content, rest, rfl, rfl, hcontent.pair⟩
  | case4 cs hbreak hpair =>
    rw [scanQuoted, if_pos rfl] at h
    · exact ⟨[], cs, rfl, (Prod.mk.inj h).2.symm, .nil⟩
    · exact hbreak
    · exact hpair
  | case5 c cs hbreak hpair hquote closed m hread ih =>
    rw [scanQuoted, if_neg hquote, hread] at h
    · obtain ⟨rfl, rfl⟩ := Prod.mk.inj h
      obtain ⟨content, rest, rfl, rfl, hcontent⟩ := ih hread
      refine ⟨c :: content, rest, rfl, rfl, hcontent.single hquote fun hslash => ?_⟩
      cases hcs : content ++ quote :: rest with
      | nil => simp at hcs
      | cons d ds => exact hpair d ds hslash hcs
    · exact hbreak
    · exact hpair

/-- A quoted text is its content between two quotes. -/
theorem exists_content {c : Char} {cs : List Char} {quote : Quote} {n : Nat}
    (h : scan c cs = (some (.quoted quote), n)) :
    quoteOf? c = some quote ∧ ∃ content, Enclosed c content ∧
      (c :: cs).take n = c :: content ++ [c] := by
  cases scans_of_scan h with
  | quoted hquote hread =>
    obtain ⟨content, rest, rfl, rfl, hcontent⟩ := exists_enclosed hread
    refine ⟨hquote, content, hcontent, ?_⟩
    rw [List.take_succ_cons, List.cons_append, List.take_append,
      List.take_of_length_le (Nat.le_succ _), Nat.add_sub_cancel_left]
    rfl

end Shape

/-! ## Pieces -/

namespace Piece

variable {source : List Char} {start start' stop : Nat} {p : Piece} {ps : List Piece}

/-- A piece is what a scan finds. -/
def Scanned (p : Piece) : Prop :=
  ∃ c cs n, Shape.scan c cs = (some p.shape, n) ∧ p.text = (c :: cs).take n

theorem Scanned.ne_nil (h : p.Scanned) : p.text ≠ [] := by
  obtain ⟨c, cs, n, hscan, htext⟩ := h
  have hpos := Shape.scan_pos c cs
  rw [hscan] at hpos
  obtain ⟨k, rfl⟩ := Nat.exists_eq_succ_of_ne_zero (Nat.ne_of_gt hpos)
  rw [htext, List.take_succ_cons]
  exact List.cons_ne_nil _ _

theorem Scanned.offset_lt_stop (h : p.Scanned) : p.offset < p.stop :=
  Nat.lt_add_of_pos_right (Text.byteLength_pos h.ne_nil)

theorem scanned_of_mem {cs : List Char} {offset : Nat} (h : p ∈ split offset cs) : p.Scanned := by
  obtain ⟨c, rest, n, -, hscan, htext⟩ := exists_scan_of_mem h
  exact ⟨c, rest, n, hscan, htext⟩

/-- Pieces that stand in `source` between `start` and `stop`, in order and
apart. -/
def Laid (source : List Char) (stop : Nat) : (start : Nat) → List Piece → Prop
  | start, [] => start ≤ stop
  | start, p :: ps =>
    start ≤ p.offset ∧ p.Scanned ∧ Text.Stands source p.text p.offset ∧ Laid source stop p.stop ps

theorem Laid.mono (h : Laid source stop start ps) (hle : start' ≤ start) :
    Laid source stop start' ps := by
  cases ps with
  | nil => exact Nat.le_trans hle h
  | cons p ps => exact ⟨Nat.le_trans hle h.1, h.2⟩

theorem Laid.le (h : Laid source stop start ps) : start ≤ stop := by
  induction ps generalizing start with
  | nil => exact h
  | cons p ps ih =>
    obtain ⟨hle, hscanned, -, hps⟩ := h
    exact Nat.le_trans hle (Nat.le_trans (Nat.le_of_lt hscanned.offset_lt_stop) (ih hps))

/-- The pieces of a text stand in it, in order and apart. -/
theorem laid_splitFrom {cs : List Char} {offset : Nat} (h : Text.Stands source cs offset)
    (skip : Nat) :
    Laid source (offset + Text.byteLength cs) (offset + Text.byteLength (cs.take skip))
      (splitFrom offset skip cs) := by
  induction cs generalizing offset skip with
  | nil => cases skip <;> exact Nat.le_refl _
  | cons c cs ih =>
    have hcs : Text.Stands source cs (offset + c.utf8Size) := h.behind
    have hlater (skip : Nat) : Laid source (offset + Text.byteLength (c :: cs))
        (offset + Text.byteLength ((c :: cs).take (skip + 1)))
        (splitFrom (offset + c.utf8Size) skip cs) := by
      have := ih hcs skip
      rwa [Nat.add_assoc, Nat.add_assoc, ← Text.byteLength_cons, ← Text.byteLength_cons,
        ← List.take_succ_cons] at this
    cases skip with
    | succ skip => exact hlater skip
    | zero =>
      obtain ⟨n, hn⟩ : ∃ n, (Shape.scan c cs).2 = n + 1 :=
        Nat.exists_eq_succ_of_ne_zero (Nat.ne_of_gt (Shape.scan_pos c cs))
      rw [splitFrom]
      split
      rename_i shape? k hscan
      obtain rfl : k = n + 1 := by rw [← hn, hscan]
      rw [Nat.add_sub_cancel]
      have hstands : Text.Stands source ((c :: cs).take (n + 1)) offset :=
        Text.Stands.left (by rwa [List.take_append_drop])
      split
      · exact ⟨Nat.le_refl _, ⟨c, cs, n + 1, hscan, rfl⟩, hstands, hlater n⟩
      · exact (hlater n).mono (Nat.le_add_right _ _)

end Piece

end Reckoner
