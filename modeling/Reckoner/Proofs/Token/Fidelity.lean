import Reckoner.Grammar.Primary
import Reckoner.Proofs.Token.Placement

/-!
# Tokens are true to their source

Whatever the source, its tokens stand in it in strictly increasing order, and
each one has the text that stands at its offset; so has the code in a template.

* `Token.Faithful`: what a token has to do with the text at its offset.
* `Token.Within`: tokens between two bytes of a source, kept by every function
  that makes tokens of pieces.
* `Token.Relexed`: the texts that are read when a source is parsed, with the
  code in strings at any depth.
* `Token.faithful_tokensAt`: the tokens of all of them are faithful to the
  source.

The reader does not move the code in the strings of a text that is read on its
own.  It need not: a backtick in a template has a backslash before it, so that
no template is closed in the code of a template (`Shape.Enclosed.not_append`).
-/

namespace Reckoner

namespace Token

open Text (Stands byteLength)

/-! ## Faithful tokens -/

/-- A token has the text that stands in `source` at its offset.  A currency may
be written with its sign; a city of two words has one blank between them; a
string stands there with its quotes, and the code in it where it says, between
these quotes. -/
def Faithful (source : List Char) (t : Placed) : Prop :=
  match t.token with
  | .number text | .day text | .time text | .dayTime text | .name text | .function text
  | .unit text | .constant text => Stands source text.toList t.offset
  | .keyword k => Stands source k.name.toList t.offset
  | .zone text =>
    Stands source text.toList t.offset ∨
      ∃ first second offset, text = first ++ " " ++ second ∧
        Zone.isTwoWordCity first second = true ∧ Stands source first.toList t.offset ∧
        Stands source second.toList offset ∧ t.offset + byteLength first.toList ≤ offset
  | .currency code =>
    Stands source code.toList t.offset ∨
      ∃ sign, Currency.ofSign? sign = some code ∧ Stands source sign.toList t.offset
  | .string quote segments =>
    ∃ mark content, Shape.quoteOf? mark = some quote ∧ Shape.Enclosed mark content ∧
      Stands source (mark :: content ++ [mark]) t.offset ∧
      t.token = ofQuoted quote (mark :: content ++ [mark]) t.offset ∧
      ∀ inner offset, .code inner offset ∈ segments → Stands source inner.toList offset ∧
        t.offset < offset ∧
        offset + byteLength inner.toList < t.offset + byteLength (mark :: content ++ [mark])
  | .mark _ | .finish => Stands source [] t.offset

variable {source : List Char} {start middle stop : Nat} {ts us : List Placed}

theorem Faithful.boundary {t : Placed} (h : Faithful source t) : Stands source [] t.offset := by
  unfold Faithful at h
  split at h
  case h_10 =>
    rcases h with h | ⟨first, second, offset, -, -, h, -⟩
    · exact h.boundary
    · exact h.boundary
  case h_11 =>
    rcases h with h | ⟨sign, -, h⟩
    · exact h.boundary
    · exact h.boundary
  case h_12 =>
    obtain ⟨mark, content, -, -, h, -⟩ := h
    exact h.boundary
  all_goals exact Stands.boundary h

/-- Tokens that stand in `source` between `start` and `stop`, in strictly
increasing order; none of them is the end. -/
structure Within (source : List Char) (start stop : Nat) (ts : List Placed) : Prop where
  ordered : ts.Pairwise fun t u => t.offset < u.offset
  inside : ∀ t ∈ ts, start ≤ t.offset ∧ t.offset < stop
  faithful : ∀ t ∈ ts, Faithful source t
  unfinished : ∀ t ∈ ts, t.token ≠ .finish

theorem within_nil : Within source start stop [] :=
  ⟨.nil, by simp, by simp, by simp⟩

theorem within_single {t : Placed} (hstart : start ≤ t.offset) (hstop : t.offset < stop)
    (h : Faithful source t) (hfinish : t.token ≠ .finish) : Within source start stop [t] :=
  ⟨List.pairwise_singleton _ _, by simp [hstart, hstop], by simp [h], by simp [hfinish]⟩

theorem Within.mono {start' stop' : Nat} (h : Within source start stop ts) (hstart : start' ≤ start)
    (hstop : stop ≤ stop') : Within source start' stop' ts :=
  ⟨h.ordered, fun t ht => ⟨Nat.le_trans hstart (h.inside t ht).1,
    Nat.lt_of_lt_of_le (h.inside t ht).2 hstop⟩, h.faithful, h.unfinished⟩

theorem Within.append (h : Within source start middle ts) (h' : Within source middle stop us)
    (hstart : start ≤ middle) (hstop : middle ≤ stop) : Within source start stop (ts ++ us) := by
  have hts := h.mono (Nat.le_refl _) hstop
  have hus := h'.mono hstart (Nat.le_refl _)
  refine ⟨List.pairwise_append.2 ⟨h.ordered, h'.ordered, fun t ht u hu => ?_⟩, ?_, ?_, ?_⟩
  · exact Nat.lt_of_lt_of_le (h.inside t ht).2 (h'.inside u hu).1
  · exact List.forall_mem_append.2 ⟨hts.inside, hus.inside⟩
  · exact List.forall_mem_append.2 ⟨h.faithful, h'.faithful⟩
  · exact List.forall_mem_append.2 ⟨h.unfinished, h'.unfinished⟩

/-! ## Days and times -/

theorem utf8Size_of_isStamp {c : Char} (h : Shape.isStamp c = true) : c.utf8Size = 1 := by
  simp only [Shape.isStamp, Bool.or_eq_true, List.contains_iff_mem] at h
  rcases h with h | h
  · rw [Shape.isDigit_iff] at h
    rw [Char.utf8Size_eq_one_iff, UInt32.le_iff_toNat_le, Char.toNat_val]
    exact Nat.le_trans h.2 (by decide)
  · have hmarks : List.all ['.', '/', ':', 'T'] (fun c => c.utf8Size = 1) = true := by decide
    exact of_decide_eq_true (List.all_eq_true.1 hmarks c h)

/-- The numbers and marks of digits that are neither a day nor a time. -/
theorem within_fragments {cs : List Char} {offset : Nat} (h : Stands source cs offset)
    (hcs : ∀ c ∈ cs, Shape.isStamp c = true) (skip : Nat) :
    Within source offset (offset + byteLength cs) (fragments offset skip cs) := by
  induction cs generalizing offset skip with
  | nil => cases skip <;> exact within_nil
  | cons c cs ih =>
    obtain ⟨hc, hcs⟩ := List.forall_mem_cons.1 hcs
    have hsize := utf8Size_of_isStamp hc
    have hstands : Stands source cs (offset + 1) := hsize ▸ h.behind
    have hrest (skip : Nat) : Within source (offset + 1) (offset + byteLength (c :: cs))
        (fragments (offset + 1) skip cs) := by
      have := ih hstands hcs skip
      rwa [Nat.add_assoc, ← hsize, ← Text.byteLength_cons, hsize] at this
    have hcons {t : Placed} (ht : t.offset = offset) (hfaithful : Faithful source t)
        (hfinish : t.token ≠ .finish) (skip : Nat) :
        Within source offset (offset + byteLength (c :: cs))
          (t :: fragments (offset + 1) skip cs) := by
      refine (within_single (ht ▸ Nat.le_refl _) (ht ▸ Nat.lt_succ_self _) hfaithful hfinish).append
        (hrest skip) (Nat.le_succ _) ?_
      rw [Text.byteLength_cons, hsize]
      omega
    cases skip with
    | succ skip => exact (hrest skip).mono (Nat.le_succ _) (Nat.le_refl _)
    | zero =>
      rw [fragments]
      split
      · refine hcons rfl ?_ (by simp) _
        show Stands source (String.ofList _).toList offset
        rw [String.toList_ofList]
        exact Stands.left (by rwa [List.take_append_drop])
      split
      · rename_i m hmark
        exact hcons (t := ⟨.mark m, offset⟩) rfl h.boundary (by simp) _
      · exact (hrest 0).mono (Nat.le_succ _) (Nat.le_refl _)

theorem within_ofDay {cs : List Char} {offset : Nat} (h : Stands source cs offset)
    (hcs : ∀ c ∈ cs, Shape.isStamp c = true) :
    Within source offset (offset + byteLength cs) (ofDay cs offset) := by
  unfold ofDay
  split
  · rename_i hday
    have hne : cs ≠ [] := by
      rintro rfl
      cases hday
    refine within_single (Nat.le_refl _) (Nat.lt_add_of_pos_right (Text.byteLength_pos hne)) ?_
      (by simp)
    show Stands source (String.ofList cs).toList offset
    rwa [String.toList_ofList]
  · exact within_fragments h hcs 0

theorem within_ofTime {cs : List Char} {offset : Nat} (h : Stands source cs offset)
    (hcs : ∀ c ∈ cs, Shape.isStamp c = true) :
    Within source offset (offset + byteLength cs) (ofTime cs offset) := by
  unfold ofTime
  split
  · rename_i htime
    have hne : cs ≠ [] := by
      rintro rfl
      cases htime
    refine within_single (Nat.le_refl _) (Nat.lt_add_of_pos_right (Text.byteLength_pos hne)) ?_
      (by simp)
    show Stands source (String.ofList cs).toList offset
    rwa [String.toList_ofList]
  · exact within_fragments h hcs 0

/-! ## Strings -/

theorem exists_untilClosed {cs body : List Char} {depth : Nat}
    (h : untilClosed depth cs = some body) : ∃ more, cs = body ++ '\x7d' :: more := by
  induction cs generalizing depth body with
  | nil => cases h
  | cons c cs ih =>
    have hlater {depth : Nat} (h : (untilClosed depth cs).map (c :: ·) = some body) :
        ∃ more, c :: cs = body ++ '\x7d' :: more := by
      obtain ⟨body, hbody, rfl⟩ := Option.map_eq_some_iff.1 h
      obtain ⟨more, rfl⟩ := ih hbody
      exact ⟨more, rfl⟩
    unfold untilClosed at h
    split at h
    · exact hlater h
    split at h
    · rename_i hbrace
      subst hbrace
      split at h
      · cases h
        exact ⟨cs, rfl⟩
      · cases h
        exact ⟨cs, rfl⟩
      · exact hlater h
    · exact hlater h

/-- The source `inner` stands at `place` between the braces of a template whose
rest `cs` starts at `offset`. -/
def CodeIn (cs : List Char) (offset : Nat) (inner : String) (place : Nat) : Prop :=
  ∃ front back, cs = front ++ '\x7b' :: (inner.toList ++ '\x7d' :: back) ∧
    place = offset + byteLength front + 1

section

variable {inner : String} {place offset skip : Nat} {pending cs : List Char}

theorem CodeIn.cons {c : Char} (h : CodeIn cs (offset + c.utf8Size) inner place) :
    CodeIn (c :: cs) offset inner place := by
  obtain ⟨front, back, rfl, rfl⟩ := h
  exact ⟨c :: front, back, rfl, by rw [Text.byteLength_cons, Nat.add_assoc offset]⟩

theorem not_code_pendingSegment (pending : List Char) :
    .code inner place ∉ pendingSegment pending := by
  unfold pendingSegment
  split <;> simp [textSegment]

/-- The code in a template stands between the braces that enclose it. -/
theorem codeIn_segmentsFrom (h : .code inner place ∈ segmentsFrom offset skip pending cs) :
    CodeIn cs offset inner place := by
  induction offset, skip, pending, cs using segmentsFrom.induct with
  | case1 offset skip pending =>
    rw [segmentsFrom] at h
    exact absurd h (not_code_pendingSegment _)
  | case2 offset skip pending c rest ih =>
    rw [segmentsFrom] at h
    exact (ih h).cons
  | case3 offset rest earlier ih =>
    rw [segmentsFrom] at h
    exact (ih h).cons.cons
  | case4 offset pending rest body hbody hescape ih =>
    rw [segmentsFrom, hbody] at h
    · rcases List.mem_append.1 h with h | h
      · exact absurd h (not_code_pendingSegment _)
      rcases List.mem_cons.1 h with h | h
      · obtain ⟨rfl, rfl⟩ := Segment.code.inj h
        obtain ⟨back, rfl⟩ := exists_untilClosed hbody
        exact ⟨['$'], back, by rw [String.toList_ofList]; rfl, rfl⟩
      · exact (ih h).cons.cons
    · exact hescape
  | case5 offset pending rest hbody hescape =>
    rw [segmentsFrom, hbody] at h
    · cases List.mem_singleton.1 h
    · exact hescape
  | case6 offset pending c rest hdollar ih =>
    rw [segmentsFrom] at h
    · exact (ih h).cons
    · exact hdollar

theorem codeIn_templateSegments (h : .code inner place ∈ templateSegments cs offset) :
    CodeIn cs offset inner place := by
  unfold templateSegments at h
  split at h
  · cases List.mem_singleton.1 h
  · exact codeIn_segmentsFrom h

theorem CodeIn.stands (h : CodeIn cs offset inner place) (hcs : Stands source cs offset) :
    Stands source inner.toList place ∧ offset < place ∧
      place + byteLength inner.toList < offset + byteLength cs := by
  obtain ⟨front, back, rfl, rfl⟩ := h
  refine ⟨hcs.right.behind.left, by omega, ?_⟩
  have hbrace : '\x7b'.utf8Size = 1 := rfl
  have hclosing : '\x7d'.utf8Size = 1 := rfl
  rw [Text.byteLength_append, Text.byteLength_cons, Text.byteLength_append, Text.byteLength_cons]
  omega

end

/-- What a quoted text is read as. -/
theorem faithful_ofQuoted {mark : Char} {quote : Quote} {content : List Char} {offset : Nat}
    (hquote : Shape.quoteOf? mark = some quote) (hcontent : Shape.Enclosed mark content)
    (h : Stands source (mark :: content ++ [mark]) offset) :
    Faithful source ⟨ofQuoted quote (mark :: content ++ [mark]) offset, offset⟩ := by
  have hmark : mark.utf8Size = 1 := by
    unfold Shape.quoteOf? at hquote
    split at hquote
    · subst mark; rfl
    split at hquote
    · subst mark; rfl
    split at hquote
    · subst mark; rfl
    · cases hquote
  have hinner : ((mark :: content ++ [mark]).drop 1).dropLast = content := by
    rw [List.cons_append, List.drop_succ_cons, List.drop_zero, List.dropLast_concat]
  have hstands : Stands source content (offset + 1) := hmark ▸ h.behind.left
  obtain ⟨segments, hsegments, hcode⟩ : ∃ segments,
      ofQuoted quote (mark :: content ++ [mark]) offset = .string quote segments ∧
        ∀ inner place, .code inner place ∈ segments → CodeIn content (offset + 1) inner place := by
    unfold ofQuoted
    rw [hinner]
    cases quote with
    | template => exact ⟨_, rfl, fun inner place => codeIn_templateSegments⟩
    | _ => exact ⟨_, rfl, fun inner place hmem => by cases List.mem_singleton.1 hmem⟩
  rw [hsegments]
  refine ⟨mark, content, hquote, hcontent, h, hsegments.symm, fun inner place hmem => ?_⟩
  obtain ⟨hat, hfirst, hlast⟩ := (hcode inner place hmem).stands hstands
  refine ⟨hat, by show offset < place; omega, ?_⟩
  show _ < offset + _
  rw [List.cons_append, Text.byteLength_cons, Text.byteLength_append, hmark]
  omega

/-! ## Words -/

theorem faithful_ofWord {word : String} {offset : Nat} (h : Stands source word.toList offset) :
    Faithful source ⟨ofWord word, offset⟩ ∧ ofWord word ≠ .finish := by
  generalize hword : ofWord word = t
  unfold ofWord at hword
  split at hword
  · exact hword ▸ ⟨.inl h, by simp⟩
  split at hword
  · rename_i k hk
    have hname : k.name = word := by simpa using List.find?_some hk
    exact hword ▸ ⟨by rw [← hname] at h; exact h, by simp⟩
  split at hword
  · exact hword ▸ ⟨h, by simp⟩
  split at hword
  · exact hword ▸ ⟨h, by simp⟩
  split at hword
  · exact hword ▸ ⟨h, by simp⟩
  split at hword
  · exact hword ▸ ⟨.inl h, by simp⟩
  split at hword
  all_goals first | exact hword ▸ ⟨h.boundary, by simp⟩ | exact hword ▸ ⟨h, by simp⟩

section

variable {p : Piece} {following : List Piece} {found : String} {taken : Nat}

theorem stands_glueOffset? (h : glueOffset? p following = some (found, taken))
    (hlaid : Piece.Laid source stop p.offset (p :: following)) :
    Stands source found.toList p.offset := by
  have hp := hlaid.2.2.1
  unfold glueOffset? at h
  split at h
  · split at h
    · rename_i sign amount rest
      dsimp only at h
      split at h
      · rename_i hglue
        simp only [Bool.and_eq_true, beq_iff_eq] at hglue
        obtain ⟨⟨⟨-, hsign⟩, hamount⟩, -⟩ := hglue
        obtain ⟨rfl, -⟩ := Prod.mk.inj (Option.some.inj h)
        obtain ⟨-, -, hstands, -, -, hstands', -⟩ := hlaid.2.2.2
        rw [String.toList_ofList]
        refine (hp.append (by rwa [hsign] at hstands)).append ?_
        rw [Text.byteLength_append, ← Nat.add_assoc]
        rw [hamount, Piece.stop, hsign] at hstands'
        exact hstands'
      · obtain ⟨rfl, -⟩ := Prod.mk.inj (Option.some.inj h)
        rwa [String.toList_ofList]
    · obtain ⟨rfl, -⟩ := Prod.mk.inj (Option.some.inj h)
      rwa [String.toList_ofList]
  · cases h

theorem stands_glueRegion? {text : List Char} {offset taken k : Nat}
    {best : Option (String × Nat)} (htext : Stands source text offset)
    (hbest : ∀ name n, best = some (name, n) → Stands source name.toList offset)
    (hlaid : Piece.Laid source stop (offset + byteLength text) following)
    (h : glueRegion? text (offset + byteLength text) taken best following = some (found, k)) :
    Stands source found.toList offset := by
  induction hn : following.length using Nat.strongRecOn
      generalizing following text taken best with
  | ind n ih =>
    unfold glueRegion? at h
    split at h
    · rename_i slash part rest
      split at h
      · rename_i hglue
        simp only [Bool.and_eq_true, beq_iff_eq] at hglue
        obtain ⟨⟨-, hslash⟩, hpart⟩ := hglue
        obtain ⟨-, -, hstands, -, -, hstands', hrest⟩ := hlaid
        have hcandidate : Stands source (text ++ slash.text ++ part.text) offset := by
          refine (htext.append (by rwa [hslash] at hstands)).append ?_
          rw [Text.byteLength_append, ← Nat.add_assoc]
          rw [hpart, Piece.stop, hslash] at hstands'
          exact hstands'
        have hstop : part.stop = offset + byteLength (text ++ slash.text ++ part.text) := by
          rw [Piece.stop, hpart, Piece.stop, hslash, Text.byteLength_append,
            Text.byteLength_append]
          omega
        rw [hstop] at h hrest
        refine ih rest.length (by simp only [List.length_cons] at hn; omega) hcandidate ?_ hrest h rfl
        intro name n hname
        split at hname
        · obtain ⟨rfl, -⟩ := Prod.mk.inj (Option.some.inj hname)
          rwa [String.toList_ofList]
        · exact hbest name n hname
      · exact hbest _ _ h
    · exact hbest _ _ h

/-- The name of a zone is true to the words and marks that are glued together. -/
theorem faithful_glueZone? (h : glueZone? p following = some (found, taken))
    (hlaid : Piece.Laid source stop p.offset (p :: following)) :
    Faithful source ⟨.zone found, p.offset⟩ := by
  have hp := hlaid.2.2.1
  unfold glueZone? at h
  split at h
  · rename_i hoffset
    exact .inl (stands_glueOffset? (hoffset.trans h) hlaid)
  split at h
  · rename_i hregion
    exact .inl (stands_glueRegion? hp (by simp) hlaid.2.2.2 (hregion.trans h))
  · unfold glueCity? at h
    dsimp only at h
    split at h
    · split at h
      · rename_i next rest _ _
        split at h
        · rename_i hcity
          simp only [Bool.and_eq_true, beq_iff_eq] at hcity
          obtain ⟨rfl, -⟩ := Prod.mk.inj (Option.some.inj h)
          obtain ⟨hle, -, hnext, -⟩ := hlaid.2.2.2
          refine .inr ⟨_, _, next.offset, rfl, hcity.2, ?_, ?_, ?_⟩
          · rwa [String.toList_ofList]
          · rwa [String.toList_ofList]
          · rwa [String.toList_ofList]
        · cases h
      · cases h
    · cases h

end

/-! ## Pieces -/

theorem within_ofPiece {p : Piece} (hp : p.Scanned) (h : Stands source p.text p.offset) :
    Within source p.offset p.stop (ofPiece p) := by
  have hsingle {tok : Token} (hfaithful : Faithful source ⟨tok, p.offset⟩) (hfinish : tok ≠ .finish) :
      Within source p.offset p.stop [⟨tok, p.offset⟩] :=
    within_single (Nat.le_refl _) hp.offset_lt_stop hfaithful hfinish
  have htext : Stands source (String.ofList p.text).toList p.offset := by
    rwa [String.toList_ofList]
  obtain ⟨c, cs, n, hscan, hcut⟩ := hp
  unfold ofPiece
  split
  · rename_i hshape
    exact within_ofDay h (hcut ▸ Shape.isStamp_of_scan hscan (.inr (.inl hshape)))
  · rename_i hshape
    exact within_ofTime h (hcut ▸ Shape.isStamp_of_scan hscan (.inr (.inr hshape)))
  · exact hsingle htext (by simp)
  · rename_i quote hshape
    rw [hshape] at hscan
    obtain ⟨hquote, content, hcontent, htake⟩ := Shape.exists_content hscan
    rw [hcut, htake] at h ⊢
    refine hsingle (faithful_ofQuoted hquote hcontent h) ?_
    cases quote <;> simp [ofQuoted]
  · have hword := faithful_ofWord htext
    generalize ofWord (String.ofList p.text) = tok at hword ⊢
    exact hsingle hword.1 hword.2
  · split
    · rename_i code hcode
      exact hsingle (.inr ⟨_, hcode, htext⟩) (by simp)
    · exact within_nil
  · exact hsingle (show Stands source [] p.offset from h.boundary) (by simp)
  · exact within_nil

/-- What makes tokens of a day with a time that cannot be keeps them within the
piece. -/
def KeepsWithin (source : List Char) (broken : Piece → List Placed) : Prop :=
  ∀ p, p.shape = .dayTime → p.Scanned → Stands source p.text p.offset →
    Within source p.offset p.stop (broken p)

theorem within_ofPieces {broken : Piece → List Placed} (hbroken : KeepsWithin source broken)
    {ps : List Piece} (h : Piece.Laid source stop start ps) (skip : Nat) :
    Within source start stop (ofPieces broken skip ps) := by
  induction ps generalizing start skip with
  | nil => cases skip <;> exact within_nil
  | cons p ps ih =>
    obtain ⟨hstart, hp, hstands, hps⟩ := h
    have hstop := Piece.Laid.le hps
    have hlt := hp.offset_lt_stop
    -- The tokens of one piece in front of those of the others.
    have hcons {ts : List Placed} (hts : Within source p.offset p.stop ts) (skip : Nat) :
        Within source start stop (ts ++ ofPieces broken skip ps) :=
      (hts.mono hstart (Nat.le_refl _)).append (ih hps skip) (by omega) hstop
    have hsingle {tok : Token} (hfaithful : Faithful source ⟨tok, p.offset⟩)
        (hfinish : tok ≠ .finish) : Within source p.offset p.stop [⟨tok, p.offset⟩] :=
      within_single (Nat.le_refl _) hlt hfaithful hfinish
    cases skip with
    | succ skip => exact (ih hps skip).mono (by omega) (Nat.le_refl _)
    | zero =>
      rw [ofPieces.eq_def]
      dsimp only
      split
      · split
        · rename_i found taken hglue
          refine hcons (hsingle (faithful_glueZone? hglue ⟨?_, hp, hstands, hps⟩) (by simp)) taken
          exact Nat.le_refl _
        · exact hcons (within_ofPiece hp hstands) 0
      · rename_i hshape
        split
        · split
          · refine hcons (hsingle ?_ (by simp)) 0
            show Stands source (String.ofList p.text).toList p.offset
            rwa [String.toList_ofList]
          · exact hcons (hbroken p hshape hp hstands) 0
        · exact (ih hps 0).mono (by omega) (Nat.le_refl _)
      · exact hcons (within_ofPiece hp hstands) 0

theorem keepsWithin_nil : KeepsWithin source fun _ => [] := fun _ _ _ _ => within_nil

theorem keepsWithin_ofBroken : KeepsWithin source ofBroken := by
  intro p hshape hp h
  have hsplit : p.text.takeWhile (· ≠ 'T') ++ p.text.drop (p.text.takeWhile (· ≠ 'T')).length =
      p.text := List.prefix_iff_eq_append.1 (List.takeWhile_prefix _)
  have hstop : p.stop = p.offset + byteLength (p.text.takeWhile (· ≠ 'T')) +
      byteLength (p.text.drop (p.text.takeWhile (· ≠ 'T')).length) := by
    rw [Nat.add_assoc, ← Text.byteLength_append, hsplit, Piece.stop]
  have hstamp : ∀ c ∈ p.text, Shape.isStamp c = true := by
    obtain ⟨c, cs, n, hscan, hcut⟩ := hp
    exact hcut ▸ Shape.isStamp_of_scan hscan (.inl hshape)
  rw [← hsplit] at h
  have hday := within_ofDay h.left fun c hc => hstamp c ((List.takeWhile_prefix _).mem hc)
  have hlaid := Piece.laid_splitFrom h.right 0
  rw [← hstop] at hlaid
  exact hday.append (within_ofPieces keepsWithin_nil hlaid 0) (Nat.le_add_right _ _) hlaid.le

/-- The tokens of a source stand in it, in strictly increasing order, and the
end is the last one. -/
theorem within_tokenize (source : String) :
    ∃ ts, tokenize source = ts ++ [⟨.finish, source.utf8ByteSize⟩] ∧
      Within source.toList 0 source.utf8ByteSize ts := by
  refine ⟨_, rfl, ?_⟩
  have hlaid := Piece.laid_splitFrom (Text.stands_self source.toList) 0
  rw [Nat.zero_add, ← Text.utf8ByteSize_eq] at hlaid
  exact within_ofPieces keepsWithin_ofBroken hlaid 0

/-! ## Code in strings -/

open Grammar (tokensAt)

/-- The texts that are read when `source` is parsed, and where they stand: the
source itself, and the code in the strings of what is read. -/
inductive Relexed (source : String) : (text : String) → (offset : Nat) → Prop
  | whole : Relexed source source 0
  | code {text inner : String} {offset place : Nat} {t : Placed} {quote : Quote}
      {segments : List Segment} (htext : Relexed source text offset) (ht : t ∈ tokensAt text offset)
      (hstring : t.token = .string quote segments) (hcode : .code inner place ∈ segments) :
      Relexed source inner place

variable {text inner : String} {offset place : Nat} {t : Placed} {quote : Quote}
  {segments : List Segment}

theorem tokensAt_zero (text : String) : tokensAt text 0 = tokenize text := List.map_id _

theorem faithful_of_mem_tokenize (h : t ∈ tokenize text) : Faithful text.toList t := by
  obtain ⟨ts, heq, hts⟩ := within_tokenize text
  rw [heq] at h
  rcases List.mem_append.1 h with h | h
  · exact hts.faithful t h
  · rw [List.mem_singleton.1 h]
    exact ⟨text.toList, [], by simp, (Text.utf8ByteSize_eq text).symm⟩

/-- What a string is read from. -/
theorem Faithful.string (h : Faithful source t) (hstring : t.token = .string quote segments) :
    ∃ mark content, Shape.quoteOf? mark = some quote ∧ Shape.Enclosed mark content ∧
      Stands source (mark :: content ++ [mark]) t.offset ∧
      ofQuoted quote (mark :: content ++ [mark]) t.offset = .string quote segments ∧
      ∀ inner place, .code inner place ∈ segments → Stands source inner.toList place := by
  obtain ⟨token, offset⟩ := t
  subst hstring
  obtain ⟨mark, content, hquote, hcontent, hstands, htoken, hcode⟩ := h
  exact ⟨mark, content, hquote, hcontent, hstands, htoken.symm, fun inner place hmem =>
    (hcode inner place hmem).1⟩

theorem eq_template_of_code {cs : List Char} (h : ofQuoted quote cs offset = .string quote segments)
    (hcode : .code inner place ∈ segments) :
    quote = .template ∧ CodeIn (cs.drop 1).dropLast (offset + 1) inner place := by
  cases quote with
  | template =>
    obtain ⟨-, rfl⟩ := Token.string.inj h
    exact ⟨rfl, codeIn_templateSegments hcode⟩
  | _ =>
    obtain ⟨-, rfl⟩ := Token.string.inj h
    cases List.mem_singleton.1 hcode

theorem eq_of_quoteOf?_template {mark : Char} (h : Shape.quoteOf? mark = some .template) :
    mark = '\x60' := by
  unfold Shape.quoteOf? at h
  repeat' split at h
  all_goals simp_all

/-- No template is closed in the code of a template. -/
theorem quote_ne_template {content : List Char} (hcontent : Shape.Enclosed '\x60' content)
    (hcode : CodeIn content offset inner place) (ht : t ∈ tokenize inner)
    (hstring : t.token = .string quote segments) : quote ≠ .template := by
  rintro rfl
  obtain ⟨front, back, rfl, -⟩ := hcode
  obtain ⟨mark, content', hquote, hcontent', ⟨front', back', heq, -⟩, -⟩ :=
    (faithful_of_mem_tokenize ht).string hstring
  obtain rfl := eq_of_quoteOf?_template hquote
  have hinner := hcontent.behind (by decide) rfl
  rw [heq] at hinner
  refine hcontent'.not_append (by decide) (back' ++ '\x7d' :: back) ?_
  have hrest : front' ++ ('\x60' :: content' ++ ['\x60'] ++ back') ++ '\x7d' :: back =
      front' ++ '\x60' :: (content' ++ '\x60' :: (back' ++ '\x7d' :: back)) := by simp
  exact hinner.behind (by decide) hrest

/-- A text that is read stands in the source; if it is code in a string, it
holds no template. -/
theorem Relexed.spec {source : String} (h : Relexed source text offset) :
    Stands source.toList text.toList offset ∧
      (text = source ∧ offset = 0 ∨ ∀ t ∈ tokenize text, ∀ quote segments,
        t.token = .string quote segments → quote ≠ .template) := by
  induction h with
  | whole => exact ⟨Text.stands_self _, .inl ⟨rfl, rfl⟩⟩
  | @code text inner offset place t quote segments htext ht hstring hcode ih =>
    obtain ⟨u, hu, rfl⟩ := List.mem_map.1 ht
    obtain ⟨mark, content, hquote, hcontent, -, htoken, hplace⟩ :=
      (faithful_of_mem_tokenize hu).string hstring
    obtain ⟨rfl, hin⟩ := eq_template_of_code htoken hcode
    rcases ih.2 with ⟨rfl, rfl⟩ | hplain
    · obtain rfl := eq_of_quoteOf?_template hquote
      rw [List.cons_append, List.drop_succ_cons, List.drop_zero, List.dropLast_concat] at hin
      exact ⟨hplace _ _ hcode, .inr fun t ht quote segments => quote_ne_template hcontent hin ht⟩
    · exact absurd rfl (hplain u hu _ _ hstring)

/-- A token is as faithful to the source as to the text that it was read from. -/
theorem Faithful.later {text : List Char} (h : Faithful text t) (htext : Stands source text offset)
    (hplain : ∀ quote segments, t.token = .string quote segments → quote ≠ .template) :
    Faithful source (Grammar.Placed.later offset t) := by
  obtain ⟨token, at'⟩ := t
  have hstands {more : List Char} {k : Nat} (hmore : Stands text more k) :
      Stands source more (k + offset) := Nat.add_comm offset k ▸ htext.trans hmore
  cases token with
  | string quote segments =>
    obtain ⟨mark, content, hquote, hcontent, hliteral, htoken, -⟩ := h
    have hother := hplain quote segments rfl
    refine ⟨mark, content, hquote, hcontent, hstands hliteral, ?_, fun inner place hcode => ?_⟩
    · cases quote with
      | template => exact absurd rfl hother
      | _ => exact htoken
    · exact absurd (eq_template_of_code htoken.symm hcode).1 hother
  | zone name =>
    rcases h with h | ⟨first, second, k, hname, hcity, hfirst, hsecond, hle⟩
    · exact .inl (hstands h)
    · exact .inr ⟨first, second, k + offset, hname, hcity, hstands hfirst, hstands hsecond, by
        show at' + offset + _ ≤ _
        have : at' + byteLength first.toList ≤ k := hle
        omega⟩
  | currency code =>
    rcases h with h | ⟨sign, hsign, h⟩
    · exact .inl (hstands h)
    · exact .inr ⟨sign, hsign, hstands h⟩
  | _ => exact hstands h

/-- The end is the last token of a text and no other, at the end of the text;
the tokens stand at boundaries of characters in strictly increasing order; and
each of them is faithful to the whole source. -/
theorem faithful_tokensAt {source : String} (h : Relexed source text offset) :
    (∃ ts, tokensAt text offset = ts ++ [⟨.finish, offset + text.utf8ByteSize⟩] ∧
      ∀ t ∈ ts, t.token ≠ .finish) ∧
    (tokensAt text offset).Pairwise (fun t u => t.offset < u.offset) ∧
    ∀ t ∈ tokensAt text offset, Stands source.toList [] t.offset ∧ Faithful source.toList t := by
  obtain ⟨hstands, hplain⟩ := h.spec
  have hfaithful : ∀ t ∈ tokensAt text offset, Faithful source.toList t := by
    rcases hplain with ⟨rfl, rfl⟩ | hplain
    · exact fun t ht => faithful_of_mem_tokenize (tokensAt_zero text ▸ ht)
    · intro t ht
      obtain ⟨u, hu, rfl⟩ := List.mem_map.1 ht
      exact (faithful_of_mem_tokenize hu).later hstands (hplain u hu)
  obtain ⟨ts, htokenize, hts⟩ := within_tokenize text
  refine ⟨⟨ts.map (Grammar.Placed.later offset), ?_, ?_⟩, ?_, fun t ht =>
    ⟨(hfaithful t ht).boundary, hfaithful t ht⟩⟩
  · rw [tokensAt, htokenize, List.map_append, Nat.add_comm offset]
    rfl
  · exact List.forall_mem_map.2 hts.unfinished
  · rw [tokensAt, List.pairwise_map, htokenize]
    refine List.pairwise_append.2 ⟨?_, List.pairwise_singleton _ _, fun t ht u hu => ?_⟩
    · exact hts.ordered.imp fun hlt => Nat.add_lt_add_right hlt offset
    · rw [List.mem_singleton.1 hu]
      exact Nat.add_lt_add_right (hts.inside t ht).2 offset

end Token

end Reckoner
