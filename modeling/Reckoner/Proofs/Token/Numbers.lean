import Reckoner.Proofs.Token.Placement

/-!
# Number tokens

Wherever in a source a number is read, it starts with a digit (`numbered_tokenize`), so that a
sign is never part of it.
-/

namespace Reckoner

open Token

namespace Token

/-- The text of a number. -/
def numberText? : Token → Option String
  | number text => some text
  | _ => none

/-- Numbers start with a digit. -/
def Numbered (ts : List Placed) : Prop :=
  ∀ t ∈ ts, ∀ text, t.token.numberText? = some text →
    ∃ c cs, text.toList = c :: cs ∧ c.isDigit = true

section

variable {ts us : List Placed} {t : Placed}

theorem numbered_nil : Numbered [] := fun t ht => by cases ht

theorem numbered_append (hts : Numbered ts) (hus : Numbered us) : Numbered (ts ++ us) :=
  List.forall_mem_append.2 ⟨hts, hus⟩

/-- A token that is no number in front of others. -/
theorem numbered_cons_of_none (ht : t.token.numberText? = none) (hts : Numbered ts) :
    Numbered (t :: ts) := by
  refine List.forall_mem_cons.2 ⟨fun text h => ?_, hts⟩
  rw [ht] at h
  cases h

/-- A number with at least its first digit in front of others. -/
theorem numbered_cons {c : Char} {rest : List Char} {n offset : Nat} (hc : c.isDigit = true)
    (hn : 0 < n) (hts : Numbered ts) :
    Numbered (⟨.number (String.ofList ((c :: rest).take n)), offset⟩ :: ts) := by
  refine List.forall_mem_cons.2 ⟨fun text h => ?_, hts⟩
  cases h
  obtain ⟨k, rfl⟩ := Nat.exists_eq_succ_of_ne_zero (Nat.ne_of_gt hn)
  exact ⟨c, rest.take k, by rw [String.toList_ofList, List.take_succ_cons], hc⟩

end

theorem numbered_fragments (offset skip : Nat) (cs : List Char) :
    Numbered (fragments offset skip cs) := by
  induction cs generalizing offset skip with
  | nil => cases skip <;> exact numbered_nil
  | cons c cs ih =>
    cases skip with
    | succ skip => exact ih _ _
    | zero =>
      rw [fragments]
      split
      · rename_i hc
        refine numbered_cons hc ?_ (ih _ _)
        have hcount : 0 < Text.digitCount (c :: cs) := by simp [Text.digitCount, hc]
        omega
      · split
        · exact numbered_cons_of_none rfl (ih _ _)
        · exact ih _ _

theorem numbered_ofDay (cs : List Char) (offset : Nat) : Numbered (ofDay cs offset) := by
  unfold ofDay
  split
  · exact numbered_cons_of_none rfl numbered_nil
  · exact numbered_fragments _ _ _

theorem numbered_ofTime (cs : List Char) (offset : Nat) : Numbered (ofTime cs offset) := by
  unfold ofTime
  split
  · exact numbered_cons_of_none rfl numbered_nil
  · exact numbered_fragments _ _ _

theorem numbered_ofWord (word : String) (offset : Nat) : Numbered [⟨ofWord word, offset⟩] := by
  have hnone : (ofWord word).numberText? = none := by
    unfold ofWord
    repeat' split
    all_goals rfl
  generalize ofWord word = t at hnone
  exact numbered_cons_of_none hnone numbered_nil

theorem isDigit_of_scan {c : Char} {rest : List Char} {n : Nat}
    (h : Shape.scan c rest = (some .number, n)) : c.isDigit = true := by
  cases Shape.scans_of_scan h with
  | number hc => exact hc

theorem numbered_ofPiece {p : Piece} {cs : List Char} {offset skip : Nat}
    (hp : p ∈ Piece.splitFrom offset skip cs) : Numbered (ofPiece p) := by
  unfold ofPiece
  split
  · exact numbered_ofDay _ _
  · exact numbered_ofTime _ _
  · rename_i hshape
    obtain ⟨c, rest, n, -, hscan, htext⟩ := Piece.exists_scan_of_mem hp
    rw [htext]
    rw [hshape] at hscan
    have hpos := Shape.scan_pos c rest
    rw [hscan] at hpos
    exact numbered_cons (isDigit_of_scan hscan) hpos numbered_nil
  · rename_i quote _
    refine numbered_cons_of_none ?_ numbered_nil
    cases quote <;> rfl
  · exact numbered_ofWord _ _
  · split
    · exact numbered_cons_of_none rfl numbered_nil
    · exact numbered_nil
  · exact numbered_cons_of_none rfl numbered_nil
  · exact numbered_nil

theorem numbered_ofPieces {broken : Piece → List Placed} {ps : List Piece} {skip : Nat}
    (hps : ∀ p ∈ ps, Numbered (ofPiece p)) (hbroken : ∀ p, Numbered (broken p)) :
    Numbered (ofPieces broken skip ps) := by
  induction ps generalizing skip with
  | nil => cases skip <;> exact numbered_nil
  | cons p rest ih =>
    obtain ⟨hp, hrest⟩ := List.forall_mem_cons.1 hps
    cases skip with
    | succ skip => exact ih hrest
    | zero =>
      rw [ofPieces.eq_def]
      dsimp only
      split
      · split
        · exact numbered_cons_of_none rfl (ih hrest)
        · exact numbered_append hp (ih hrest)
      · split
        · split
          · exact numbered_cons_of_none rfl (ih hrest)
          · exact numbered_append (hbroken p) (ih hrest)
        · exact ih hrest
      · exact numbered_append hp (ih hrest)

theorem numbered_ofBroken (p : Piece) : Numbered (ofBroken p) :=
  numbered_append (numbered_ofDay _ _)
    (numbered_ofPieces (fun _ => numbered_ofPiece) fun _ => numbered_nil)

theorem numbered_tokenize (source : String) : Numbered (tokenize source) :=
  numbered_append (numbered_ofPieces (fun _ => numbered_ofPiece) numbered_ofBroken)
    (numbered_cons_of_none rfl numbered_nil)

end Token

end Reckoner
