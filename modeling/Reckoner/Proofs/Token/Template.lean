import Mathlib.Data.List.Chain
import Reckoner.Proofs.Token.Placement

/-!
# Templates are read as they are written

A template is put together of texts and of code.  To write a text, a backslash is put before
each backslash, each backtick and the dollar sign of each `${`; code stands between `${` and
`}`.

* `segmentsFrom_escape`: what is gathered of a text that is written so.
* `segmentsFrom_code`: code whose braces are balanced is read up to its own brace.
* `tokenize_source_iff`: the reader gives back the parts if, and only if, no text that ends in
  a backslash stands right before code.  There the two backslashes that are written are read as
  an escape of the dollar sign behind them.
-/

namespace Reckoner

open Text (byteLength)

/-- A part of a template as its author means it. -/
inductive TemplatePart where
  | text (content : List Char)
  | code (source : List Char)
deriving DecidableEq, Repr

namespace TemplatePart

/-! ## Writing -/

/-- A text as it is written in a template. -/
def escape : List Char → List Char
  | [] => []
  | c :: rest =>
    if c = '\\' ∨ c = '\x60' ∨ (c = '$' ∧ rest.head? = some '\x7b') then '\\' :: c :: escape rest
    else c :: escape rest

/-- A part as it is written. -/
def written : TemplatePart → List Char
  | text content => escape content
  | code source => '$' :: '\x7b' :: source ++ ['\x7d']

/-- The template of parts, with its backticks. -/
def source (ps : List TemplatePart) : String :=
  String.ofList ('\x60' :: ps.flatMap written ++ ['\x60'])

/-- The segments of parts that are written from `offset` on. -/
def segments : (offset : Nat) → List TemplatePart → List Segment
  | _, [] => []
  | offset, p :: ps =>
    match p with
    | text content => .text (String.ofList content) :: segments (offset + byteLength p.written) ps
    | code source =>
      .code (String.ofList source) (offset + 2) :: segments (offset + byteLength p.written) ps

/-- How many braces are open behind `cs` if `depth` are before it; nothing if one is closed
that is not open. -/
def depthAfter? : (depth : Nat) → List Char → Option Nat
  | depth, [] => some depth
  | depth, c :: rest =>
    if c = '\x7b' then depthAfter? (depth + 1) rest
    else if c = '\x7d' then
      match depth with
      | 0 => none
      | depth + 1 => depthAfter? depth rest
    else depthAfter? depth rest

/-- Every brace that is opened is closed, and no other. -/
def Balanced (cs : List Char) : Prop := depthAfter? 0 cs = some 0

/-- Whether a part is text. -/
def isText : TemplatePart → Bool
  | text _ => true
  | code _ => false

/-- Parts that a template can have: no text is empty or stands next to another, and code has
balanced braces and neither a backtick nor a backslash. -/
structure Proper (ps : List TemplatePart) : Prop where
  nonempty : ps ≠ []
  texts : ∀ content, text content ∈ ps → content ≠ []
  apart : ps.IsChain fun p q => (p.isText && q.isText) = false
  codes : ∀ source, code source ∈ ps → Balanced source ∧ '\x60' ∉ source ∧ '\\' ∉ source

/-- Whether two neighbours are a text that ends in a backslash and code. -/
def collides : TemplatePart → TemplatePart → Bool
  | text content, code _ => content.getLast? = some '\\'
  | _, _ => false

/-- No text that ends in a backslash stands right before code. -/
def Clear (ps : List TemplatePart) : Prop := ps.IsChain fun p q => p.collides q = false

instance (cs : List Char) : Decidable (Balanced cs) := inferInstanceAs (Decidable (_ = _))

instance (ps : List TemplatePart) : Decidable (Clear ps) :=
  inferInstanceAs (Decidable (List.IsChain _ _))

/-! ## Where a template ends -/

/-- A quoted text does not end within `cs`. -/
def Passes (quote : Char) (cs : List Char) : Prop :=
  ∀ rest, Shape.scanQuoted quote (cs ++ rest) =
    ((Shape.scanQuoted quote rest).1, (Shape.scanQuoted quote rest).2 + cs.length)

section

variable {quote c : Char} {cs ds : List Char}

theorem passes_nil : Passes quote [] := fun _ => rfl

theorem Passes.append (h : Passes quote cs) (h' : Passes quote ds) : Passes quote (cs ++ ds) := by
  intro rest
  rw [List.append_assoc, h, h', List.length_append]
  simp only [Prod.mk.injEq, true_and]
  omega

theorem passes_single (hquote : c ≠ quote) (hslash : c ≠ '\\') : Passes quote [c] := by
  intro rest
  rw [List.singleton_append, Shape.scanQuoted]
  · rw [if_neg hquote]
    rfl
  · simp [hslash]
  · simp [hslash]

theorem passes_pair (hbreak : c ≠ '\n') : Passes quote ['\\', c] := by
  intro rest
  rw [List.cons_append, List.cons_append, List.nil_append, Shape.scanQuoted]
  · rfl
  · exact hbreak

theorem Passes.cons (h : Passes quote [c]) (hcs : Passes quote cs) : Passes quote (c :: cs) :=
  h.append hcs

theorem passes_of_not_mem (hquote : quote ∉ cs) (hslash : '\\' ∉ cs) : Passes quote cs := by
  induction cs with
  | nil => exact passes_nil
  | cons c cs ih =>
    simp only [List.mem_cons, not_or] at hquote hslash
    exact (passes_single (Ne.symm hquote.1) (Ne.symm hslash.1)).cons (ih hquote.2 hslash.2)

end

theorem passes_escape (content : List Char) : Passes '\x60' (escape content) := by
  induction content with
  | nil => exact passes_nil
  | cons c rest ih =>
    rw [escape]
    split
    · rename_i h
      have hbreak : c ≠ '\n' := by
        rintro rfl
        simp at h
      exact (passes_pair hbreak).append ih
    · rename_i h
      simp only [not_or] at h
      exact (passes_single h.2.1 h.1).cons ih

theorem passes_written {ps : List TemplatePart} (h : Proper ps) :
    Passes '\x60' (ps.flatMap written) := by
  have hpart (p : TemplatePart) (hp : p ∈ ps) : Passes '\x60' p.written := by
    cases p with
    | text content => exact passes_escape content
    | code source =>
      obtain ⟨-, hquote, hslash⟩ := h.codes source hp
      have hopen : Passes '\x60' ['$', '\x7b'] := passes_of_not_mem (by decide) (by decide)
      have hclose : Passes '\x60' ['\x7d'] := passes_of_not_mem (by decide) (by decide)
      exact hopen.append ((passes_of_not_mem hquote hslash).append hclose)
  clear h
  induction ps with
  | nil => exact passes_nil
  | cons p ps ih =>
    rw [List.flatMap_cons]
    exact (hpart p List.mem_cons_self).append
      (ih fun q hq => hpart q (List.mem_cons_of_mem _ hq))

/-- A template is one token. -/
theorem tokenize_source {ps : List TemplatePart} (h : Proper ps) :
    Token.tokenize (source ps) =
      [⟨.string .template (Token.templateSegments (ps.flatMap written) 1), 0⟩,
        ⟨.finish, (source ps).utf8ByteSize⟩] := by
  have hscan (rest : List Char) : Shape.scan '\x60' rest =
      (if (Shape.scanQuoted '\x60' rest).1 then some (.quoted .template) else none,
        (Shape.scanQuoted '\x60' rest).2 + 1) := rfl
  have hpiece : Shape.scan '\x60' (ps.flatMap written ++ ['\x60'] ++ []) =
      (some (.quoted .template), (ps.flatMap written ++ ['\x60']).length + 1) := by
    rw [hscan, List.append_nil, passes_written h, List.length_append]
    simp [Shape.scanQuoted, Nat.add_comm]
  obtain ⟨offset', hsplit⟩ := Piece.splitFrom_of_scan hpiece 0
  have hpieces : Piece.split 0 (source ps).toList =
      [{ shape := .quoted .template, text := '\x60' :: (ps.flatMap written ++ ['\x60']),
         offset := 0 }] := by
    rw [source, String.toList_ofList, Piece.split, ← List.append_nil ('\x60' :: _ ++ _)]
    exact hsplit
  rw [Token.tokenize, hpieces]
  simp [Token.ofPieces, Token.ofPiece, Token.ofQuoted, List.dropLast_append_of_ne_nil]

/-! ## Texts -/

/-- What is gathered of a text that is written: the backslash before a dollar sign is gone, the
other ones are still there. -/
def gathered : List Char → List Char
  | [] => []
  | c :: rest =>
    if c = '\\' ∨ c = '\x60' then '\\' :: c :: gathered rest else c :: gathered rest

theorem gathered_append (cs ds : List Char) : gathered (cs ++ ds) = gathered cs ++ gathered ds := by
  induction cs with
  | nil => rfl
  | cons c cs ih =>
    rw [List.cons_append, gathered, gathered, ih]
    split <;> rfl

theorem gathered_ne_nil {cs : List Char} (h : cs ≠ []) : gathered cs ≠ [] := by
  cases cs with
  | nil => exact absurd rfl h
  | cons c cs =>
    rw [gathered]
    split <;> exact List.cons_ne_nil _ _

theorem getLast?_gathered (cs : List Char) : (gathered cs).getLast? = cs.getLast? := by
  rcases List.eq_nil_or_concat cs with rfl | ⟨front, c, rfl⟩
  · rfl
  · rw [List.concat_eq_append, gathered_append, gathered, gathered]
    split <;> simp

/-- Escapes are read back, whatever follows. -/
theorem unescape_gathered (cs rest : List Char) :
    Token.unescape (gathered cs ++ rest) = cs ++ Token.unescape rest := by
  induction cs with
  | nil => rfl
  | cons c cs ih =>
    rw [gathered]
    split
    · rename_i h
      rw [List.cons_append, List.cons_append, Token.unescape, ih]
      rcases h with rfl | rfl <;> rfl
    · rename_i h
      simp only [not_or] at h
      rw [List.cons_append, Token.unescape, ih]
      · rfl
      · intro d ds hc
        exact absurd hc h.1

/-! ## Gathering -/

section

variable (offset : Nat) (pending : List Char)

/-- A character that opens no code is gathered. -/
theorem segmentsFrom_single {c : Char} {cs : List Char}
    (h : ¬(c = '$' ∧ cs.head? = some '\x7b')) :
    Token.segmentsFrom offset 0 pending (c :: cs) =
      Token.segmentsFrom (offset + c.utf8Size) 0 (c :: pending) cs := by
  rw [Token.segmentsFrom]
  rintro ds rfl rfl
  exact h ⟨rfl, rfl⟩

theorem head?_escape_append {content rest : List Char} (hrest : rest.head? ≠ some '\x7b')
    (h : content.head? ≠ some '\x7b') : (escape content ++ rest).head? ≠ some '\x7b' := by
  cases content with
  | nil => exact hrest
  | cons c content =>
    rw [escape]
    split
    · simp
    · simpa using h

/-- A text that is written is gathered. -/
theorem segmentsFrom_escape {content rest : List Char} (hrest : rest.head? ≠ some '\x7b') :
    Token.segmentsFrom offset 0 pending (escape content ++ rest) =
      Token.segmentsFrom (offset + byteLength (escape content)) 0
        ((gathered content).reverse ++ pending) rest := by
  induction content generalizing offset pending with
  | nil => rfl
  | cons c content ih =>
    rw [escape]
    split
    · rename_i h
      have hslash : ¬('\\' = '$' ∧ (c :: escape content ++ rest).head? = some '\x7b') := by simp
      rw [List.cons_append, segmentsFrom_single _ _ hslash]
      by_cases hdollar : c = '$' ∧ content.head? = some '\x7b'
      · -- The backslash is dropped together with `${`, and the brace is gathered as any other.
        obtain ⟨rfl, hbrace⟩ := hdollar
        obtain ⟨content, rfl⟩ : ∃ ds, content = '\x7b' :: ds := by
          cases content with
          | nil => cases hbrace
          | cons d ds => exact ⟨ds, by simpa using hbrace⟩
        have hplain : escape ('\x7b' :: content) = '\x7b' :: escape content := by simp [escape]
        have hih := ih (offset + 2) ('$' :: pending)
        rw [hplain, List.cons_append, segmentsFrom_single _ _ (by simp)] at hih
        rw [hplain, List.cons_append, List.cons_append, Token.segmentsFrom]
        refine Eq.trans ?_ (hih.trans ?_)
        · rfl
        · rw [show gathered ('$' :: '\x7b' :: content) = '$' :: gathered ('\x7b' :: content) from
            by simp [gathered], List.reverse_cons, List.append_assoc, List.singleton_append]
          have hbytes : byteLength ('\\' :: '$' :: '\x7b' :: escape content) =
              2 + byteLength ('\x7b' :: escape content) := by
            rw [Text.byteLength_cons, Text.byteLength_cons, ← Nat.add_assoc]
            rfl
          rw [hbytes, Nat.add_assoc]
      · have hescaped : c = '\\' ∨ c = '\x60' := by
          rcases h with h | h | h
          · exact .inl h
          · exact .inr h
          · exact absurd h hdollar
        have hc : ¬(c = '$' ∧ (escape content ++ rest).head? = some '\x7b') := by
          rcases hescaped with rfl | rfl <;> simp
        rw [List.cons_append, segmentsFrom_single _ _ hc, ih, gathered, if_pos hescaped]
        simp [Nat.add_assoc]
    · rename_i h
      simp only [not_or, not_and] at h
      have hc : ¬(c = '$' ∧ (escape content ++ rest).head? = some '\x7b') := by
        rintro ⟨hdollar, hbrace⟩
        exact head?_escape_append hrest (h.2.2 hdollar) hbrace
      rw [List.cons_append, segmentsFrom_single _ _ hc, ih, gathered,
        if_neg (by simp [h.1, h.2.1])]
      simp [Nat.add_assoc]

end

/-! ## Code -/

/-- What is balanced does not close the braces that are open before it. -/
theorem untilClosed_append {depth depth' : Nat} {cs : List Char}
    (h : depthAfter? depth cs = some depth') (rest : List Char) :
    Token.untilClosed (depth + 1) (cs ++ rest) =
      (Token.untilClosed (depth' + 1) rest).map (cs ++ ·) := by
  induction cs generalizing depth with
  | nil =>
    obtain rfl : depth = depth' := by simpa [depthAfter?] using h
    simp
  | cons c cs ih =>
    rw [depthAfter?.eq_def] at h
    rw [List.cons_append, Token.untilClosed.eq_def]
    dsimp only at h ⊢
    split at h
    · rename_i hopen
      rw [if_pos hopen, ih h, Option.map_map]
      rfl
    · rename_i hopen
      rw [if_neg hopen]
      split at h
      · rename_i hclose
        rw [if_pos hclose]
        cases depth with
        | zero => cases h
        | succ depth =>
          dsimp only
          rw [ih h, Option.map_map]
          rfl
      · rename_i hclose
        rw [if_neg hclose, ih h, Option.map_map]
        rfl

theorem untilClosed_code {source : List Char} (h : Balanced source) (rest : List Char) :
    Token.untilClosed 1 (source ++ '\x7d' :: rest) = some source := by
  rw [untilClosed_append h]
  simp [Token.untilClosed]

theorem segmentsFrom_skip (offset : Nat) (pending cs rest : List Char) :
    Token.segmentsFrom offset cs.length pending (cs ++ rest) =
      Token.segmentsFrom (offset + byteLength cs) 0 pending rest := by
  induction cs generalizing offset with
  | nil => rfl
  | cons c cs ih =>
    rw [List.length_cons, List.cons_append, Token.segmentsFrom, ih, Text.byteLength_cons,
      Nat.add_assoc]

/-- Code behind something that does not end in a backslash. -/
theorem segmentsFrom_code (offset : Nat) {pending source : List Char}
    (hpending : pending.head? ≠ some '\\') (h : Balanced source) (rest : List Char) :
    Token.segmentsFrom offset 0 pending ((code source).written ++ rest) =
      Token.pendingSegment pending ++ .code (String.ofList source) (offset + 2) ::
        Token.segmentsFrom (offset + byteLength (code source).written) 0 [] rest := by
  have hwritten : (code source).written ++ rest = '$' :: '\x7b' :: (source ++ '\x7d' :: rest) := by
    simp [written]
  have hskip := segmentsFrom_skip (offset + 2) [] (source ++ ['\x7d']) rest
  rw [List.append_assoc, List.singleton_append, List.length_append] at hskip
  rw [hwritten, Token.segmentsFrom, untilClosed_code h]
  · have hbytes : byteLength (code source).written = 2 + byteLength (source ++ ['\x7d']) := by
      rw [written, List.cons_append, List.cons_append, Text.byteLength_cons, Text.byteLength_cons,
        ← Nat.add_assoc]
      rfl
    rw [hbytes, ← Nat.add_assoc, ← hskip]
    rfl
  · rintro earlier rfl
    exact hpending rfl

/-- What has been gathered up to a brace stays at the front of the next text. -/
theorem exists_text_of_pending (offset skip : Nat) {earlier pending cs : List Char}
    (h : ∃ front, pending = front ++ '\x7b' :: earlier) :
    ∃ more others, Token.segmentsFrom offset skip pending cs =
      Token.textSegment (earlier.reverse ++ '\x7b' :: more) :: others := by
  induction offset, skip, pending, cs using Token.segmentsFrom.induct with
  | case1 offset skip pending =>
    obtain ⟨front, rfl⟩ := h
    exact ⟨front.reverse, [], by simp [Token.segmentsFrom, Token.pendingSegment]⟩
  | case2 offset skip pending c rest ih =>
    rw [Token.segmentsFrom]
    exact ih h
  | case3 offset rest pending ih =>
    obtain ⟨front, hfront⟩ := h
    rw [Token.segmentsFrom]
    cases front with
    | nil => simp at hfront
    | cons c front =>
      obtain ⟨-, rfl⟩ := List.cons.inj hfront
      exact ih ⟨'\x7b' :: '$' :: front, rfl⟩
  | case4 offset pending rest body hbody hescape ih =>
    obtain ⟨front, rfl⟩ := h
    rw [Token.segmentsFrom, hbody]
    · exact ⟨front.reverse, _, by simp [Token.pendingSegment]; rfl⟩
    · exact hescape
  | case5 offset pending rest hbody hescape =>
    obtain ⟨front, rfl⟩ := h
    rw [Token.segmentsFrom, hbody]
    · exact ⟨front.reverse ++ '$' :: '\x7b' :: rest, [], by simp⟩
    · exact hescape
  | case6 offset pending c rest hdollar ih =>
    obtain ⟨front, rfl⟩ := h
    rw [Token.segmentsFrom]
    · exact ih ⟨c :: front, rfl⟩
    · exact hdollar

/-! ## Whole templates -/

theorem Proper.tail {p q : TemplatePart} {ps : List TemplatePart} (h : Proper (p :: q :: ps)) :
    Proper (q :: ps) where
  nonempty := List.cons_ne_nil _ _
  texts content hcontent := h.texts content (List.mem_cons_of_mem _ hcontent)
  apart := h.apart.tail
  codes source hsource := h.codes source (List.mem_cons_of_mem _ hsource)

theorem head?_flatMap_written {q : TemplatePart} {ps : List TemplatePart} (h : q.isText = false) :
    ((q :: ps).flatMap written).head? ≠ some '\x7b' := by
  cases q with
  | text content => cases h
  | code source => simp [written]

theorem pendingSegment_gathered {content : List Char} (h : content ≠ []) :
    Token.pendingSegment (gathered content).reverse = [.text (String.ofList content)] := by
  have hread := unescape_gathered content []
  rw [List.append_nil, Token.unescape, List.append_nil] at hread
  have hne : (gathered content).reverse.isEmpty = false := by simp [gathered_ne_nil h]
  rw [Token.pendingSegment, hne, if_neg Bool.false_ne_true, List.reverse_reverse,
    Token.textSegment, hread]

/-- Behind a text that ends in a backslash no code is read. -/
theorem segmentsFrom_collision (offset : Nat) (front rest : List Char) (segments : List Segment) :
    Token.segmentsFrom offset 0 ((gathered (front ++ ['\\'])).reverse) ('$' :: '\x7b' :: rest) ≠
      .text (String.ofList (front ++ ['\\'])) :: segments := by
  have hgathered : (gathered (front ++ ['\\'])).reverse =
      '\\' :: ('\\' :: (gathered front).reverse) := by
    rw [gathered_append]
    simp [gathered]
  rw [hgathered, Token.segmentsFrom]
  have hbrace : ∃ more, '\x7b' :: '$' :: '\\' :: (gathered front).reverse =
      more ++ '\x7b' :: '$' :: '\\' :: (gathered front).reverse := ⟨[], rfl⟩
  obtain ⟨more, others, heq⟩ := exists_text_of_pending (offset + 2) 0 hbrace
  rw [heq]
  intro h
  have htext := (List.cons.inj h).1
  rw [Token.textSegment, Segment.text.injEq, String.ofList_inj] at htext
  have hearlier : ('$' :: '\\' :: (gathered front).reverse).reverse ++ '\x7b' :: more =
      gathered front ++ ('\\' :: '$' :: '\x7b' :: more) := by simp
  rw [hearlier, unescape_gathered, List.append_cancel_left_eq] at htext
  simp [Token.unescape, Token.escaped] at htext

theorem segmentsFrom_written_iff {ps : List TemplatePart} (h : Proper ps) (offset : Nat) :
    Token.segmentsFrom offset 0 [] (ps.flatMap written) = segments offset ps ↔ Clear ps := by
  match ps, h with
  | [], h => exact absurd rfl h.nonempty
  | [.code source], h =>
    obtain ⟨hbalanced, -⟩ := h.codes source (List.mem_singleton_self _)
    rw [List.flatMap_cons, segmentsFrom_code offset (by simp) hbalanced]
    simp [segments, Clear, Token.pendingSegment, Token.segmentsFrom]
  | .code source :: q :: ps, h =>
    obtain ⟨hbalanced, -⟩ := h.codes source List.mem_cons_self
    have ih := segmentsFrom_written_iff h.tail (offset + byteLength (code source).written)
    rw [List.flatMap_cons, segmentsFrom_code offset (by simp) hbalanced, Clear,
      List.isChain_cons_cons, ← Clear, ← ih]
    simp [segments, collides, Token.pendingSegment]
  | [.text content], h =>
    have hcontent := h.texts content (List.mem_singleton_self _)
    rw [List.flatMap_cons, written, segmentsFrom_escape _ _ (by simp), List.append_nil,
      List.flatMap_nil, Token.segmentsFrom, pendingSegment_gathered hcontent]
    simp [segments, Clear]
  | .text content :: .text _ :: _, h =>
    exact absurd (List.isChain_cons_cons.1 h.apart).1 (by simp [isText])
  | .text content :: .code source :: ps, h =>
    have hcontent := h.texts content List.mem_cons_self
    obtain ⟨hbalanced, -⟩ := h.codes source (List.mem_cons_of_mem _ List.mem_cons_self)
    have ih := segmentsFrom_written_iff h.tail (offset + byteLength (escape content))
    rw [List.flatMap_cons, written,
      segmentsFrom_escape _ _ (head?_flatMap_written rfl), List.append_nil, Clear,
      List.isChain_cons_cons, ← Clear, ← ih]
    by_cases hslash : content.getLast? = some '\\'
    · obtain ⟨front, rfl⟩ : ∃ front, content = front ++ ['\\'] :=
        ⟨_, (List.dropLast_append_getLast? _ hslash).symm⟩
      refine iff_of_false ?_ (by simp [collides])
      exact segmentsFrom_collision _ front _ _
    · have hpending : (gathered content).reverse.head? ≠ some '\\' := by
        rwa [List.head?_reverse, getLast?_gathered]
      rw [List.flatMap_cons, segmentsFrom_code _ hpending hbalanced,
        pendingSegment_gathered hcontent, segmentsFrom_code _ (by simp) hbalanced]
      simp [segments, collides, hslash, Token.pendingSegment, written]

/-- A template is never without segments. -/
theorem templateSegments_eq_iff {ps : List TemplatePart} (h : Proper ps) (offset : Nat) :
    Token.templateSegments (ps.flatMap written) offset = segments offset ps ↔
      Token.segmentsFrom offset 0 [] (ps.flatMap written) = segments offset ps := by
  obtain ⟨p, ps, rfl⟩ := List.exists_cons_of_ne_nil h.nonempty
  rw [Token.templateSegments]
  cases hsegments : Token.segmentsFrom offset 0 [] ((p :: ps).flatMap written) with
  | nil =>
    cases p with
    | text content =>
      have hcontent := h.texts content List.mem_cons_self
      have hne : String.ofList content ≠ "" := by simpa [String.ofList_eq_empty_iff] using hcontent
      refine iff_of_false (fun heq => hne ?_) (by simp [segments])
      exact (Segment.text.inj (List.cons.inj heq).1).symm
    | code source => simp [segments]
  | cons segment rest => rfl

/-- A template is read as the one string of its parts, code standing where it is written,
exactly if no text that ends in a backslash stands right before code. -/
theorem tokenize_source_iff {ps : List TemplatePart} (h : Proper ps) :
    Token.tokenize (source ps) =
        [⟨.string .template (segments 1 ps), 0⟩, ⟨.finish, (source ps).utf8ByteSize⟩] ↔
      Clear ps := by
  rw [tokenize_source h, ← segmentsFrom_written_iff h 1, ← templateSegments_eq_iff h 1]
  simp

/-- Text with all that is escaped, nested braces, code without anything in it, and a text that
ends in a backslash behind code. -/
def tangled : List TemplatePart :=
  [.text ['\\', '\x60', '$', '\x7b', '$', '$'], .code ['\x7b', 'a', ':', '1', '\x7d', '.', 'a'],
    .code [], .text ['\x7d', 'n', '\\']]

theorem proper_tangled : Proper tangled := by
  refine ⟨by decide, ?_, by decide, ?_⟩
  · simp [tangled]
  · simp only [tangled, List.mem_cons, List.not_mem_nil, or_false, reduceCtorEq, false_or,
      code.injEq]
    rintro source (rfl | rfl) <;> decide

theorem tokenize_source_iff_tangled : Proper tangled ∧ Clear tangled ∧
    Token.tokenize (source tangled) =
      [⟨.string .template (segments 1 tangled), 0⟩, ⟨.finish, (source tangled).utf8ByteSize⟩] :=
  ⟨proper_tangled, by decide, (tokenize_source_iff proper_tangled).2 (by decide)⟩

/-- A backslash and then code: what is written as two backslashes before `${` is read as text to
the end. -/
theorem tokenize_source_backslash : Proper [.text ['\\'], .code ['x']] ∧
    Token.tokenize (source [.text ['\\'], .code ['x']]) =
      [⟨.string .template [.text "$\x7bx\x7d"], 0⟩, ⟨.finish, 8⟩] ∧
    Token.tokenize (source [.text ['\\'], .code ['x']]) ≠
      [⟨.string .template (segments 1 [.text ['\\'], .code ['x']]), 0⟩,
        ⟨.finish, (source [.text ['\\'], .code ['x']]).utf8ByteSize⟩] := by
  have hproper : Proper [.text ['\\'], .code ['x']] := by
    refine ⟨by decide, by simp, by decide, ?_⟩
    simp only [List.mem_cons, List.not_mem_nil, or_false, reduceCtorEq, false_or, code.injEq]
    rintro source rfl
    decide
  have hread : Token.tokenize (source [.text ['\\'], .code ['x']]) =
      [⟨.string .template [.text "$\x7bx\x7d"], 0⟩, ⟨.finish, 8⟩] := by
    rw [tokenize_source hproper]
    decide
  refine ⟨hproper, hread, ?_⟩
  rw [hread]
  simp [segments]

end TemplatePart

end Reckoner
