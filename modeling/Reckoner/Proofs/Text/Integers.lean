import Reckoner.Proofs.Decimal.Whole
import Reckoner.Proofs.Quantity.Text

/-!
# Integers in texts

`Text.word?` reads decimal digits, behind a sign of their own or without one, as long as a word of
32 bits has room for the integer (`word?_eq_some_iff`).  `Text.splitOnce` cuts a text at the first
of its marks (`splitOnce_cases`).
-/

namespace Reckoner.Text

/-- Decimal digits, one at least, and the number that they write. -/
structure Counts (cs : List Char) (n : Nat) : Prop where
  ne_nil : cs ≠ []
  isDigit : ∀ c ∈ cs, c.isDigit = true
  value_eq : Nat.ofDigitChars 10 cs 0 = n

/-- A sign and the factor that it stands for. -/
inductive Signs : Char → Int → Prop where
  | plus : Signs '+' 1
  | minus : Signs '-' (-1)

/-- Decimal digits with a sign of their own or without one, and the integer that they write. -/
inductive Integer : List Char → Int → Prop where
  | plain {cs : List Char} {n : Nat} (h : Counts cs n) : Integer cs n
  | signed {c : Char} {sign : Int} {cs : List Char} {n : Nat} (hc : Signs c sign)
    (h : Counts cs n) : Integer (c :: cs) (sign * n)

section

variable {cs before after : List Char} {c sep : Char} {n : Nat} {k sign : Int}

theorem nat?_eq_some_iff : nat? cs = some n ↔ Counts cs n := by
  rw [nat?, digitsValue_eq_ofDigitChars]
  split
  · rename_i h
    refine iff_of_false (fun hnone => by cases hnone) fun hcs => ?_
    rw [Bool.or_eq_true, List.isEmpty_iff, Bool.not_eq_true', ← Bool.not_eq_true,
      List.all_eq_true] at h
    exact h.elim hcs.ne_nil fun hdigit => hdigit hcs.isDigit
  · rename_i h
    rw [Bool.or_eq_true, not_or, List.isEmpty_iff, Bool.not_eq_true', Bool.not_eq_false,
      List.all_eq_true] at h
    exact ⟨fun heq => ⟨h.1, h.2, Option.some.inj heq⟩, fun hcs => congrArg some hcs.value_eq⟩

theorem Counts.head_isDigit (h : Counts (c :: cs) n) : c.isDigit = true :=
  h.isDigit c List.mem_cons_self

theorem Signs.eq_one_or (h : Signs c sign) : sign = 1 ∨ sign = -1 := by
  cases h with
  | plus => exact .inl rfl
  | minus => exact .inr rfl

/-- The bounds of a word, on what stands behind a sign or without one. -/
theorem bind_nat?_eq_some_iff {limit : Nat} {f : Nat → Int} :
    ((nat? cs).bind fun m => if m ≤ limit then some (f m) else none) = some k ↔
      ∃ m, Counts cs m ∧ m ≤ limit ∧ f m = k := by
  rw [Option.bind_eq_some_iff]
  refine exists_congr fun m => ?_
  rw [nat?_eq_some_iff, Option.ite_none_right_eq_some, Option.some.injEq]

/-- What is read is what is written, as long as a word has room for it. -/
theorem word?_eq_some_iff : word? cs = some k ↔ Integer cs k ∧ FitsInt32 k := by
  unfold FitsInt32
  constructor
  · intro h
    unfold word? at h
    split at h
    · obtain ⟨m, hm, hle, rfl⟩ := bind_nat?_eq_some_iff.1 h
      have hsigned := Integer.signed .plus hm
      rw [one_mul] at hsigned
      exact ⟨hsigned, by unfold maxWord at hle; omega⟩
    · obtain ⟨m, hm, hle, rfl⟩ := bind_nat?_eq_some_iff.1 h
      have hsigned := Integer.signed .minus hm
      rw [neg_one_mul] at hsigned
      exact ⟨hsigned, by unfold maxWord at hle; omega⟩
    · obtain ⟨m, hm, hle, rfl⟩ := bind_nat?_eq_some_iff.1 h
      exact ⟨.plain hm, by unfold maxWord at hle; omega⟩
  · rintro ⟨hinteger, hfits⟩
    cases hinteger with
    | @plain _ m hm =>
      have hplain : ((nat? cs).bind fun m => if m ≤ maxWord then some (m : Int) else none) =
          some (m : Int) := bind_nat?_eq_some_iff.2 ⟨m, hm, by unfold maxWord; omega, rfl⟩
      unfold word?
      split
      · exact absurd hm.head_isDigit (by decide)
      · exact absurd hm.head_isDigit (by decide)
      · exact hplain
    | @signed _ _ _ m hc hm =>
      cases hc with
      | plus =>
        rw [one_mul] at hfits ⊢
        exact bind_nat?_eq_some_iff.2 ⟨m, hm, by unfold maxWord; omega, rfl⟩
      | minus =>
        rw [neg_one_mul] at hfits ⊢
        exact bind_nat?_eq_some_iff.2 ⟨m, hm, by unfold maxWord; omega, rfl⟩

/-! ## Cutting at a mark -/

theorem splitOnce_of_not_mem (h : sep ∉ before) : splitOnce sep before = (before, none) := by
  induction before with
  | nil => rfl
  | cons d ds ih =>
    rw [List.mem_cons, not_or] at h
    obtain ⟨hd, hds⟩ := h
    rw [splitOnce, if_neg (Ne.symm hd), ih hds]

theorem splitOnce_append (h : sep ∉ before) (after : List Char) :
    splitOnce sep (before ++ sep :: after) = (before, some after) := by
  induction before with
  | nil => rw [List.nil_append, splitOnce, if_pos rfl]
  | cons d ds ih =>
    rw [List.mem_cons, not_or] at h
    obtain ⟨hd, hds⟩ := h
    rw [List.cons_append, splitOnce, if_neg (Ne.symm hd), ih hds]

/-- A text has none of the marks, or it is cut at the first of them. -/
theorem splitOnce_cases (sep : Char) (cs : List Char) :
    (sep ∉ cs ∧ splitOnce sep cs = (cs, none)) ∨
      ∃ before after, cs = before ++ sep :: after ∧ sep ∉ before ∧
        splitOnce sep cs = (before, some after) := by
  by_cases h : sep ∈ cs
  · obtain ⟨before, after, rfl, hbefore⟩ := List.eq_append_cons_of_mem h
    exact .inr ⟨before, after, rfl, hbefore, splitOnce_append hbefore after⟩
  · exact .inl ⟨h, splitOnce_of_not_mem h⟩

end

end Reckoner.Text
