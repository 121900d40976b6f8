import Mathlib.Data.Nat.Basic
import Reckoner.Decimal.Text

/-!
# Reading back what is written

A magnitude in plain notation is read as the decimal it was written from.

* `readDigits?_digits`: a run of digits that has room goes into the mantissa
  as a whole, and into the places behind a point.
* `ofDigitChars_padZeros`: zeros in front do not count.
* `parseNumber?_renderMagnitude`: the round trip.
-/

namespace Reckoner

namespace Decimal

theorem digit?_of_isDigit {c : Char} (h : c.isDigit = true) :
    digit? c = some (c.toNat - '0'.toNat) := by
  have hc : '0' ≤ c ∧ c ≤ '9' := by simpa [Char.isDigit, Char.le_def] using h
  simp [digit?, hc]

theorem isExponentMark_of_isDigit {c : Char} (h : c.isDigit = true) :
    isExponentMark c = false := by
  have hne {d : Char} (hd : d.isDigit = false) : c ≠ d := by
    rintro rfl
    simp [hd] at h
  simp [isExponentMark, hne (d := 'e') (by decide), hne (d := 'E') (by decide)]

theorem le_ofDigitChars (cs : List Char) (m : Nat) : m ≤ Nat.ofDigitChars 10 cs m := by
  induction cs generalizing m with
  | nil => simp
  | cons c cs ih =>
    rw [Nat.ofDigitChars_cons]
    exact le_trans (by omega) (ih _)

/-- Reads a run of digits for which there is room. -/
theorem readDigits?_digits (negative point : Bool) {cs : List Char}
    (hcs : ∀ c ∈ cs, c.isDigit = true) (rest : List Char) {m s : Nat} (any long : Bool)
    (hroom : Nat.ofDigitChars 10 cs m < capacity) (hs : point = false → s = 0)
    (hplaces : point = true → s + cs.length ≤ maxScale) :
    ∃ long', readDigits? negative m s point any long (cs ++ rest) =
      readDigits? negative (Nat.ofDigitChars 10 cs m) (if point then s + cs.length else 0) point
        (any || !cs.isEmpty) long' rest := by
  induction cs generalizing m s any long with
  | nil =>
    refine ⟨long, ?_⟩
    cases point with
    | false => simp [hs rfl]
    | true => simp
  | cons c cs ih =>
    rw [Nat.ofDigitChars_cons] at hroom
    have hstep : m * 10 + (c.toNat - '0'.toNat) < capacity := by
      rw [Nat.mul_comm]
      exact lt_of_le_of_lt (le_ofDigitChars cs _) hroom
    have hbound : (point && decide (maxScale ≤ s)) = false := by
      cases point with
      | false => rfl
      | true =>
        have := hplaces rfl
        simp only [List.length_cons] at this
        simp only [Bool.true_and, decide_eq_false_iff_not, not_le]
        omega
    obtain ⟨long', hrest⟩ := ih (fun d hd => hcs d (List.mem_cons_of_mem _ hd))
      (s := if point then s + 1 else 0) true (decide (longMantissa ≤ m)) hroom
      (fun h => by simp [h]) (fun h => by
        have := hplaces h
        simp only [List.length_cons] at this
        simp only [h, if_true]
        omega)
    refine ⟨long', ?_⟩
    rw [List.cons_append, readDigits?]
    simp only [hbound, Bool.false_eq_true, if_false, digit?_of_isDigit (hcs c List.mem_cons_self),
      if_pos hstep]
    rw [Nat.mul_comm m 10, hrest, Nat.ofDigitChars_cons]
    cases point with
    | false => simp
    | true => simp [Nat.add_assoc, Nat.add_comm 1]

/-- Text that starts with a digit has no sign in front. -/
theorem parse?_of_isDigit {c : Char} (hc : c.isDigit = true) (cs : List Char) :
    parse? (c :: cs) = readDigits? false 0 0 false false false (c :: cs) := by
  unfold parse?
  split
  · simp_all
  · simp_all
  · rfl

theorem parse?_digits {cs : List Char} (hcs : ∀ c ∈ cs, c.isDigit = true) (hne : cs ≠ [])
    (hroom : Nat.ofDigitChars 10 cs 0 < capacity) :
    parse? cs = ofParts? false (Nat.ofDigitChars 10 cs 0) 0 := by
  obtain ⟨c, rest, rfl⟩ := List.exists_cons_of_ne_nil hne
  obtain ⟨long', hread⟩ := readDigits?_digits false false hcs [] false
    false hroom (fun _ => rfl) (fun h => by simp at h)
  rw [List.append_nil] at hread
  rw [parse?_of_isDigit (hcs c List.mem_cons_self), hread]
  simp [readDigits?, ofRead?]

theorem parse?_point {front back : List Char} (hfront : ∀ c ∈ front, c.isDigit = true)
    (hback : ∀ c ∈ back, c.isDigit = true) (hne : front ≠ [])
    (hroom : Nat.ofDigitChars 10 (front ++ back) 0 < capacity) (hplaces : back.length ≤ maxScale) :
    parse? (front ++ '.' :: back) =
      ofParts? false (Nat.ofDigitChars 10 (front ++ back) 0) back.length := by
  rw [Nat.ofDigitChars_append] at hroom ⊢
  obtain ⟨long', hread⟩ := readDigits?_digits false false hfront
    ('.' :: back) false false (lt_of_le_of_lt (le_ofDigitChars back _) hroom) (fun _ => rfl)
    (fun h => by simp at h)
  obtain ⟨long'', hmore⟩ := readDigits?_digits false true hback []
    (m := Nat.ofDigitChars 10 front 0) (s := 0) true long' hroom (fun h => by simp at h)
    (fun _ => by omega)
  obtain ⟨c, rest, rfl⟩ := List.exists_cons_of_ne_nil hne
  rw [List.append_nil] at hmore
  rw [List.cons_append, parse?_of_isDigit (hfront c List.mem_cons_self), ← List.cons_append, hread]
  simp only [readDigits?]
  simp [digit?, hmore, readDigits?, ofRead?]

/-! ## Magnitudes -/

theorem isDigit_of_mem_toString {n : Nat} {c : Char} (h : c ∈ (toString n).toList) :
    c.isDigit = true := by
  rw [Nat.toString_eq_repr, Nat.repr_eq_ofList_toDigits, String.toList_ofList] at h
  exact Nat.isDigit_of_mem_toDigits (by decide) (by decide) h

theorem toList_toString_ne_nil (n : Nat) : (toString n).toList ≠ [] := by
  rw [Nat.toString_eq_repr, Nat.repr_eq_ofList_toDigits, String.toList_ofList]
  exact Nat.toDigits_ne_nil

theorem ofDigitChars_toString (n : Nat) : Nat.ofDigitChars 10 (toString n).toList 0 = n := by
  rw [Nat.toString_eq_repr, Nat.repr_eq_ofList_toDigits, String.toList_ofList]
  exact Nat.ofDigitChars_toDigits (by decide) (by decide)

/-- Zeros in front do not count. -/
theorem ofDigitChars_padZeros (width n : Nat) :
    Nat.ofDigitChars 10 (padZeros width (toString n)).toList 0 = n := by
  have hzeros (k : Nat) : Nat.ofDigitChars 10 (List.replicate k '0') 0 = 0 := by
    induction k with
    | zero => rfl
    | succ k ih => rw [List.replicate_succ, Nat.ofDigitChars_cons]; exact ih
  rw [padZeros, String.toList_append, String.toList_ofList, Nat.ofDigitChars_append, hzeros,
    ofDigitChars_toString]

theorem isDigit_of_mem_padZeros (width n : Nat) {c : Char}
    (h : c ∈ (padZeros width (toString n)).toList) : c.isDigit = true := by
  rw [padZeros, String.toList_append, String.toList_ofList, List.mem_append] at h
  rcases h with h | h
  · rw [List.eq_of_mem_replicate h]
    rfl
  · exact isDigit_of_mem_toString h

theorem le_length_padZeros (width n : Nat) :
    width ≤ (padZeros width (toString n)).toList.length := by
  rw [padZeros, String.toList_append, String.toList_ofList, List.length_append,
    List.length_replicate, String.length_toList]
  omega

theorem parseNumber?_of_digits {text : String} (h : ∀ c ∈ text.toList, isExponentMark c = false) :
    parseNumber? text = parse? text.toList := by
  unfold parseNumber?
  rw [if_neg]
  simpa using h

/-- A magnitude in plain notation is read as what it was written from. -/
theorem parseNumber?_renderMagnitude {m s : Nat} (hm : m < capacity) (hs : s ≤ maxScale) :
    parseNumber? (renderMagnitude m s) = ofParts? false m s := by
  unfold renderMagnitude
  split
  · rename_i hzero
    rw [beq_iff_eq] at hzero
    subst hzero
    rw [parseNumber?_of_digits fun c hc =>
        isExponentMark_of_isDigit (isDigit_of_mem_toString hc),
      parse?_digits (fun c hc => isDigit_of_mem_toString hc) (toList_toString_ne_nil m)
        (by rwa [ofDigitChars_toString]), ofDigitChars_toString]
  · dsimp only
    generalize hdigits : (padZeros (s + 1) (toString m)).toList = digits
    have hlength : s + 1 ≤ digits.length := hdigits ▸ le_length_padZeros (s + 1) m
    have hdigit : ∀ c ∈ digits, c.isDigit = true := fun c hc =>
      isDigit_of_mem_padZeros (s + 1) m (hdigits ▸ hc)
    have hvalue : Nat.ofDigitChars 10 digits 0 = m := hdigits ▸ ofDigitChars_padZeros (s + 1) m
    have hfront : ∀ c ∈ digits.take (digits.length - s), c.isDigit = true :=
      fun c hc => hdigit c (List.mem_of_mem_take hc)
    have hback : ∀ c ∈ digits.drop (digits.length - s), c.isDigit = true :=
      fun c hc => hdigit c (List.mem_of_mem_drop hc)
    have hplaces : (digits.drop (digits.length - s)).length = s := by
      rw [List.length_drop]
      omega
    have hjoin : digits.take (digits.length - s) ++ digits.drop (digits.length - s) = digits :=
      List.take_append_drop _ _
    rw [parseNumber?_of_digits]
    · simp only [String.toList_append, String.toList_ofList, List.append_assoc]
      have hread := parse?_point hfront hback (by
          intro h
          have := congrArg List.length h
          simp only [List.length_take, List.length_nil] at this
          omega)
        (by rwa [hjoin, hvalue]) (by omega)
      rw [hjoin, hvalue, hplaces] at hread
      exact hread
    · intro c hc
      simp only [String.toList_append, String.toList_ofList, List.append_assoc,
        List.mem_append] at hc
      rcases hc with hc | hc | hc
      · exact isExponentMark_of_isDigit (hfront c hc)
      · rw [List.mem_singleton.1 hc]
        rfl
      · exact isExponentMark_of_isDigit (hback c hc)

theorem parseNumber?_toString {n : Nat} (h : n < capacity) :
    parseNumber? (toString n) = some (ofNat n) := by
  have hread := parseNumber?_renderMagnitude h (Nat.zero_le maxScale)
  have hvalue : ofParts? false n 0 = some (ofNat n) := by
    have hlt : (Int.ofNat n).natAbs < capacity := h
    simp only [ofParts?, dif_pos h, dif_pos (Nat.zero_le maxScale), ofNat, ofInt, dif_pos hlt]
    simp
  rwa [hvalue] at hread

end Decimal

end Reckoner
