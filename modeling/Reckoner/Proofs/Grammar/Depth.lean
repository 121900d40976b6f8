import Mathlib.Algebra.Order.BigOperators.Group.List
import Mathlib.Algebra.Order.Group.Nat
import Mathlib.Algebra.Order.Ring.Nat
import Reckoner.Proofs.Grammar.Enclosed
import Reckoner.Proofs.Token.Fidelity

/-!
# How deep the tokens of a text nest

The reader of expressions is given the depth `Grammar.depthBound`, and what is filled in
into a string is read with the depth that is left where the string stands.  That this is
enough is a matter of counting: a string counts as deep as the code in it is long, and the
tokens of a text together count no more than the text has characters.

* `Grammar.depthOf`: how deep a list of tokens can nest, the sum of `tokenDepth`.
* `Token.depthOf_ofPieces`, `Token.depthOf_ofBroken`: the tokens of pieces count no more
  than the pieces have characters.
* `Token.depthBound_tokenize`: the bound for a whole text.
-/

namespace Reckoner

namespace Grammar

/-- How deep a list of tokens can nest. -/
def depthOf (ts : List Placed) : Nat := (ts.map fun t => tokenDepth t.token).sum

theorem depthOf_append (ts us : List Placed) : depthOf (ts ++ us) = depthOf ts + depthOf us := by
  simp [depthOf]

theorem depthOf_cons (t : Placed) (ts : List Placed) :
    depthOf (t :: ts) = tokenDepth t.token + depthOf ts := rfl

theorem depthBound_eq (ts : List Placed) : depthBound ts = depthOf ts + 1 := by
  induction ts with
  | nil => rfl
  | cons t ts ih => rw [depthBound_cons, ih, depthOf_cons, Nat.add_assoc]

theorem tokenDepth_string (quote : Quote) (segments : List Segment) :
    tokenDepth (.string quote segments) = (segments.map segmentDepth).sum + 1 := by
  have hfold (k : Nat) : segments.foldl (fun n segment => n + segmentDepth segment) k =
      (segments.map segmentDepth).sum + k := by
    induction segments generalizing k with
    | nil => simp
    | cons segment segments ih =>
      rw [List.foldl_cons, ih, List.map_cons, List.sum_cons]
      omega
  exact hfold 1

/-- The code in a string is less deep than the string. -/
theorem segmentDepth_lt (quote : Quote) {segments : List Segment} {segment : Segment}
    (h : segment ∈ segments) : segmentDepth segment < tokenDepth (.string quote segments) := by
  rw [tokenDepth_string, Nat.lt_succ_iff]
  exact List.le_sum_of_mem (List.mem_map_of_mem h)

end Grammar

namespace Token

open Grammar (depthOf tokenDepth segmentDepth)

/-! ## Strings -/

theorem depth_pendingSegment (pending : List Char) :
    ((pendingSegment pending).map segmentDepth).sum = 0 := by
  unfold pendingSegment
  split <;> rfl

/-- The code in a template is no deeper than the template is long. -/
theorem depth_segmentsFrom (offset skip : Nat) (pending cs : List Char) :
    ((segmentsFrom offset skip pending cs).map segmentDepth).sum ≤ cs.length - skip := by
  induction offset, skip, pending, cs using segmentsFrom.induct with
  | case1 offset skip pending =>
    rw [segmentsFrom, depth_pendingSegment]
    exact Nat.zero_le _
  | case2 offset skip pending c rest ih =>
    rw [segmentsFrom, List.length_cons, Nat.add_sub_add_right]
    exact ih
  | case3 offset rest earlier ih =>
    rw [segmentsFrom]
    exact ih.trans (Nat.le_add_right _ 2)
  | case4 offset pending rest body hbody hescape ih =>
    rw [segmentsFrom, hbody]
    · obtain ⟨more, rfl⟩ := exists_untilClosed hbody
      have hcode : segmentDepth (.code (String.ofList body) (offset + 2)) = body.length + 2 := by
        rw [segmentDepth, String.length_ofList]
      simp only [List.map_append, List.map_cons, List.sum_append, List.sum_cons,
        depth_pendingSegment, hcode, List.length_cons, List.length_append] at ih ⊢
      omega
    · exact hescape
  | case5 offset pending rest hbody hescape =>
    rw [segmentsFrom, hbody]
    · exact Nat.zero_le _
    · exact hescape
  | case6 offset pending c rest hdollar ih =>
    rw [segmentsFrom]
    · exact ih.trans (by simp)
    · exact hdollar

theorem depth_ofQuoted (quote : Quote) {text : List Char} (offset : Nat) (h : text ≠ []) :
    tokenDepth (ofQuoted quote text offset) ≤ text.length := by
  have hpos := List.length_pos_iff.2 h
  have hcontent : (text.drop 1).dropLast.length + 1 ≤ text.length := by
    rw [List.length_dropLast, List.length_drop]
    omega
  unfold ofQuoted
  cases quote with
  | template =>
    have htemplate : ((templateSegments (text.drop 1).dropLast (offset + 1)).map
        segmentDepth).sum ≤ (text.drop 1).dropLast.length := by
      have hsegments := depth_segmentsFrom (offset + 1) 0 [] (text.drop 1).dropLast
      unfold templateSegments
      split
      · exact Nat.zero_le _
      · exact hsegments
    rw [Grammar.tokenDepth_string]
    omega
  | _ => exact hpos

/-! ## Pieces -/

theorem depthOf_fragments (offset skip : Nat) (cs : List Char) :
    depthOf (fragments offset skip cs) ≤ cs.length := by
  fun_induction fragments offset skip cs with
  | case1 => exact Nat.le_refl _
  | case2 offset skip c rest ih => exact Nat.le_succ_of_le ih
  | case3 offset c rest hdigit whole n ih =>
    rw [Grammar.depthOf_cons, List.length_cons, Nat.add_comm]
    exact Nat.succ_le_succ ih
  | case4 offset c rest hdigit m hm ih =>
    rw [Grammar.depthOf_cons, List.length_cons, Nat.add_comm]
    exact Nat.succ_le_succ ih
  | case5 offset c rest hdigit hm ih => exact Nat.le_succ_of_le ih

theorem depthOf_ofDay (cs : List Char) (offset : Nat) : depthOf (ofDay cs offset) ≤ cs.length := by
  unfold ofDay
  split
  · rename_i hday
    cases cs with
    | nil => cases hday
    | cons c cs => exact Nat.le_add_left 1 _
  · exact depthOf_fragments offset 0 cs

theorem depthOf_ofTime (cs : List Char) (offset : Nat) :
    depthOf (ofTime cs offset) ≤ cs.length := by
  unfold ofTime
  split
  · rename_i htime
    cases cs with
    | nil => cases htime
    | cons c cs => exact Nat.le_add_left 1 _
  · exact depthOf_fragments offset 0 cs

theorem tokenDepth_ofWord (text : String) : tokenDepth (ofWord text) = 1 := by
  unfold ofWord
  repeat' split
  all_goals rfl

theorem depthOf_ofPiece {p : Piece} (hp : p.Scanned) : depthOf (ofPiece p) ≤ p.text.length := by
  have hpos : 1 ≤ p.text.length := List.length_pos_iff.2 hp.ne_nil
  have hsingle {t : Placed} (ht : tokenDepth t.token ≤ p.text.length) :
      depthOf [t] ≤ p.text.length := by
    simpa [depthOf] using ht
  unfold ofPiece
  split
  · exact depthOf_ofDay _ _
  · exact depthOf_ofTime _ _
  · exact hsingle hpos
  · exact hsingle (depth_ofQuoted _ _ hp.ne_nil)
  · refine hsingle ?_
    rw [tokenDepth_ofWord]
    exact hpos
  · split
    · exact hsingle hpos
    · exact Nat.zero_le _
  · exact hsingle hpos
  · exact Nat.zero_le _

/-- How many characters pieces have. -/
def lengthOf (ps : List Piece) : Nat := (ps.map fun p => p.text.length).sum

theorem depthOf_ofPieces {broken : Piece → List Placed}
    (hbroken : ∀ p, depthOf (broken p) ≤ p.text.length) (skip : Nat) {ps : List Piece}
    (hps : ∀ p ∈ ps, p.Scanned) : depthOf (ofPieces broken skip ps) ≤ lengthOf ps := by
  induction ps generalizing skip with
  | nil =>
    unfold ofPieces
    exact Nat.le_refl _
  | cons p rest ih =>
    obtain ⟨hp, hrest⟩ := List.forall_mem_cons.1 hps
    have hpos : 1 ≤ p.text.length := List.length_pos_iff.2 hp.ne_nil
    have hlength : lengthOf (p :: rest) = p.text.length + lengthOf rest := rfl
    -- The tokens of one piece in front of those of the others.
    have happend {ts : List Placed} (hts : depthOf ts ≤ p.text.length) (skip : Nat) :
        depthOf (ts ++ ofPieces broken skip rest) ≤ lengthOf (p :: rest) := by
      rw [Grammar.depthOf_append, hlength]
      exact Nat.add_le_add hts (ih skip hrest)
    cases skip with
    | succ skip => exact (ih skip hrest).trans (hlength ▸ Nat.le_add_left _ _)
    | zero =>
      rw [ofPieces.eq_def]
      dsimp only
      split
      · split
        · exact @happend [⟨.zone _, _⟩] hpos _
        · exact happend (depthOf_ofPiece hp) 0
      · split
        · split
          · exact @happend [⟨.dayTime _, _⟩] hpos 0
          · exact happend (hbroken p) 0
        · exact (ih 0 hrest).trans (hlength ▸ Nat.le_add_left _ _)
      · exact happend (depthOf_ofPiece hp) 0

/-- The pieces of a text have no more characters than the text. -/
theorem lengthOf_splitFrom (offset skip : Nat) (cs : List Char) :
    lengthOf (Piece.splitFrom offset skip cs) ≤ cs.length - skip := by
  induction cs generalizing offset skip with
  | nil =>
    cases skip with
    | _ => exact Nat.zero_le _
  | cons c cs ih =>
    cases skip with
    | succ skip =>
      rw [Piece.splitFrom, List.length_cons, Nat.add_sub_add_right]
      exact ih _ _
    | zero =>
      have hpos := Shape.scan_pos c cs
      rw [Piece.splitFrom]
      split
      rename_i shape? n hscan
      rw [hscan] at hpos
      have hlater := ih (offset + c.utf8Size) (n - 1)
      split
      · have hcut : ((c :: cs).take n).length ≤ n := List.length_take_le _ _
        have hall : ((c :: cs).take n).length ≤ (c :: cs).length := List.length_take_le' _ _
        rw [lengthOf, List.map_cons, List.sum_cons, ← lengthOf, List.length_cons]
        rw [List.length_cons] at hall
        dsimp only
        omega
      · rw [List.length_cons]
        dsimp only
        omega

theorem depthOf_ofBroken (p : Piece) : depthOf (ofBroken p) ≤ p.text.length := by
  have hsplit : p.text.takeWhile (· ≠ 'T') ++ p.text.drop (p.text.takeWhile (· ≠ 'T')).length =
      p.text := List.prefix_iff_eq_append.1 (List.takeWhile_prefix _)
  have hlength := congrArg List.length hsplit
  rw [List.length_append] at hlength
  unfold ofBroken
  rw [Grammar.depthOf_append, ← hlength]
  refine Nat.add_le_add (depthOf_ofDay _ _) ?_
  have hnil (p : Piece) : depthOf [] ≤ p.text.length := Nat.zero_le _
  exact (depthOf_ofPieces hnil 0 fun _ => Piece.scanned_of_mem).trans (lengthOf_splitFrom _ 0 _)

/-- The tokens of a text nest no deeper than it is long, but for the end. -/
theorem depthBound_tokenize (source : String) :
    Grammar.depthBound (tokenize source) ≤ source.length + 2 := by
  have hpieces : depthOf (ofPieces ofBroken 0 (Piece.split 0 source.toList)) ≤ source.length :=
    (depthOf_ofPieces depthOf_ofBroken 0 fun _ => Piece.scanned_of_mem).trans
      (lengthOf_splitFrom 0 0 source.toList)
  rw [Grammar.depthBound_eq, tokenize, Grammar.depthOf_append]
  exact Nat.add_le_add_right (Nat.add_le_add_right hpieces 1) 1

end Token

end Reckoner
