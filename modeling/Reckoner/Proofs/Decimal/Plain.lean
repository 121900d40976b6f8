import Mathlib.Data.List.Induction
import Mathlib.Data.Nat.Digits.Defs
import Reckoner.Proofs.Decimal.Shown

/-!
# Plain numerals

Of all the ways to write a number one is plain: digits without needless zeros, with at most as
many places as results show.

* `eq_of_ofDigitChars_eq`: digits are determined by their number and their value.
* `isPlain_shown`: results are shown as plain numerals, but for a sign.
* `exists_magnitude_of_isPlain` and `shown_of_isLean`: a plain numeral is a magnitude without zeros
  to take away, and such a magnitude is shown as it is written.
* `shown_eq_iff`: so what a text is read as is shown as the text exactly if the text is plain.
-/

namespace Reckoner

namespace Decimal

/-! ## Digits -/

section

variable {c d : Char} {cs ds : List Char}

theorem toNat_digit (h : c.isDigit = true) : ∃ n < 10, c.toNat = '0'.toNat + n := by
  have hbounds : '0'.toNat ≤ c.toNat ∧ c.toNat ≤ '9'.toNat := by
    simpa [Char.isDigit, Char.le_def, UInt32.le_iff_toNat_le] using h
  have hzero : '0'.toNat = 48 := rfl
  have hnine : '9'.toNat = 57 := rfl
  exact ⟨c.toNat - '0'.toNat, by omega, by omega⟩

theorem ofDigitChars_concat (cs : List Char) (c : Char) : Nat.ofDigitChars 10 (cs ++ [c]) 0 =
    10 * Nat.ofDigitChars 10 cs 0 + (c.toNat - '0'.toNat) := by
  rw [Nat.ofDigitChars_append, Nat.ofDigitChars_cons, Nat.ofDigitChars_nil]

theorem ofDigitChars_lt (hcs : ∀ c ∈ cs, c.isDigit = true) :
    Nat.ofDigitChars 10 cs 0 < 10 ^ cs.length := by
  induction cs using List.reverseRecOn with
  | nil => exact Nat.one_pos
  | append_singleton cs c ih =>
    have hlt := ih fun d hd => hcs d (List.mem_append_left _ hd)
    obtain ⟨n, hn, hc⟩ := toNat_digit (hcs c (by simp))
    rw [ofDigitChars_concat, List.length_append, List.length_singleton, pow_succ]
    omega

/-- Digits are determined by their number and their value. -/
theorem eq_of_ofDigitChars_eq (hcs : ∀ c ∈ cs, c.isDigit = true)
    (hds : ∀ d ∈ ds, d.isDigit = true) (hlength : cs.length = ds.length)
    (h : Nat.ofDigitChars 10 cs 0 = Nat.ofDigitChars 10 ds 0) : cs = ds := by
  induction cs using List.reverseRecOn generalizing ds with
  | nil => exact (List.length_eq_zero_iff.1 hlength.symm).symm
  | append_singleton cs c ih =>
    cases ds using List.reverseRecOn with
    | nil => simp at hlength
    | append_singleton ds d =>
      obtain ⟨m, hm, hc⟩ := toNat_digit (hcs c (by simp))
      obtain ⟨n, hn, hd⟩ := toNat_digit (hds d (by simp))
      rw [ofDigitChars_concat, ofDigitChars_concat] at h
      rw [ih (fun c hc => hcs c (List.mem_append_left _ hc))
        (fun d hd => hds d (List.mem_append_left _ hd)) (by simpa using hlength) (by omega)]
      have hsame : c = d := Char.toNat_inj.1 (by omega)
      rw [hsame]

end

/-! ## Plain numerals -/

/-- The digits in front of a point, without needless zeros. -/
structure IsWhole (front : List Char) : Prop where
  digits : ∀ c ∈ front, c.isDigit = true
  ne_nil : front ≠ []
  eq_of_zero : front.head? = some '0' → front = ['0']

/-- A numeral as results show it. -/
inductive IsPlain : List Char → Prop where
  | whole {front : List Char} (hfront : IsWhole front)
    (hroom : Nat.ofDigitChars 10 front 0 < capacity) : IsPlain front
  | point {front back : List Char} (hfront : IsWhole front)
    (hback : ∀ c ∈ back, c.isDigit = true) (hne : back ≠ []) (hlast : back.getLast? ≠ some '0')
    (hplaces : back.length ≤ shownPlaces)
    (hroom : Nat.ofDigitChars 10 (front ++ back) 0 < capacity) : IsPlain (front ++ '.' :: back)

section

variable {front back : List Char} {m s : Nat}

/-- The digits of a magnitude, of which the last `s` stand behind the point. -/
def digitsOf (m s : Nat) : List Char := (padZeros (s + 1) (toString m)).toList

theorem length_digitsOf (m s : Nat) : (digitsOf m s).length = max (s + 1) (toString m).length := by
  rw [digitsOf, padZeros, String.toList_append, String.toList_ofList, List.length_append,
    List.length_replicate, String.length_toList]
  omega

/-- The digits of what digits without needless zeros stand for. -/
theorem digitsOf_ofDigitChars (hfront : IsWhole front) (hback : ∀ c ∈ back, c.isDigit = true) :
    digitsOf (Nat.ofDigitChars 10 (front ++ back) 0) back.length = front ++ back := by
  have hdigits := List.forall_mem_append.2 ⟨hfront.digits, hback⟩
  refine eq_of_ofDigitChars_eq (fun c hc => isDigit_of_mem_padZeros _ _ hc) hdigits ?_
    (ofDigitChars_padZeros _ _)
  have hlt := ofDigitChars_lt hdigits
  generalize hm : Nat.ofDigitChars 10 (front ++ back) 0 = m at hlt ⊢
  obtain ⟨d, rest, rfl⟩ := List.exists_cons_of_ne_nil hfront.ne_nil
  have hle : (toString m).length ≤ _ := Nat.repr_length m _ (by simp) hlt
  rw [length_digitsOf]
  simp only [List.length_append, List.length_cons] at hle ⊢
  by_cases hd : d = '0'
  · have hrest : rest = [] := (List.cons.inj (hfront.eq_of_zero (by rw [hd]; rfl))).2
    rw [hrest, List.length_nil] at hle ⊢
    omega
  · -- A first digit that is no zero leaves no fewer digits.
    have hge : 10 ^ (rest.length + back.length) ≤ m := by
      obtain ⟨n, -, hn⟩ := toNat_digit (hfront.digits d List.mem_cons_self)
      have hpos : 1 ≤ n := by
        by_contra h
        exact hd (Char.toNat_inj.1 (by omega))
      rw [← hm, List.cons_append, Nat.ofDigitChars_cons, Nat.ofDigitChars_eq_ofDigitChars_zero,
        List.length_append]
      refine le_trans ?_ (Nat.le_add_right _ _)
      exact Nat.le_mul_of_pos_right _ (by omega)
    have hmore : rest.length + back.length < (toString m).length := by
      by_contra h
      have hshort : Nat.ofDigitChars 10 (toString m).toList 0 < 10 ^ (toString m).toList.length :=
        ofDigitChars_lt fun c => isDigit_of_mem_toString
      rw [ofDigitChars_toString, String.length_toList] at hshort
      have := Nat.pow_le_pow_right (n := 10) (by decide) (Nat.le_of_not_lt h)
      omega
    omega

theorem renderMagnitude_zero (m : Nat) : (renderMagnitude m 0).toList = digitsOf m 0 := by
  have hlength : 0 < (toString m).length := by
    rw [← String.length_toList]
    exact List.length_pos_iff.2 (toList_toString_ne_nil m)
  rw [digitsOf, padZeros, Nat.sub_eq_zero_of_le hlength, String.toList_append, String.toList_ofList]
  rfl

theorem renderMagnitude_pos (m : Nat) (hs : s ≠ 0) : (renderMagnitude m s).toList =
    (digitsOf m s).take ((digitsOf m s).length - s) ++
      '.' :: (digitsOf m s).drop ((digitsOf m s).length - s) := by
  rw [renderMagnitude, if_neg (by simpa using hs)]
  simp [digitsOf]

theorem isDigit_of_mem_digitsOf {c : Char} (h : c ∈ digitsOf m s) : c.isDigit = true :=
  isDigit_of_mem_padZeros _ _ h

theorem ofDigitChars_digitsOf (m s : Nat) : Nat.ofDigitChars 10 (digitsOf m s) 0 = m :=
  ofDigitChars_padZeros _ _

/-- In front of the point there are no needless zeros. -/
theorem isWhole_digitsOf (m s : Nat) :
    IsWhole ((digitsOf m s).take ((digitsOf m s).length - s)) := by
  have hlength := length_digitsOf m s
  have hvalue := ofDigitChars_digitsOf m s
  have hdigits : ∀ c ∈ digitsOf m s, c.isDigit = true := fun c => isDigit_of_mem_digitsOf
  generalize digitsOf m s = ds at hlength hvalue hdigits ⊢
  have htake : (ds.take (ds.length - s)).length = ds.length - s := by
    rw [List.length_take]
    omega
  refine ⟨fun c hc => hdigits c (List.mem_of_mem_take hc), fun h => ?_, fun hzero => ?_⟩
  · rw [h, List.length_nil] at htake
    omega
  · cases ds with
    | nil => simp at hzero
    | cons d rest =>
      obtain ⟨k, hk⟩ : ∃ k, (d :: rest).length - s = k + 1 := ⟨(d :: rest).length - s - 1, by omega⟩
      rw [hk, List.take_succ_cons] at hzero ⊢
      obtain rfl : d = '0' := Option.some.inj hzero
      -- More digits in front of the point are those of the value, which fewer would do for.
      suffices hnone : k = 0 by rw [hnone, List.take_zero]
      by_contra hmore
      have hlt : m < 10 ^ rest.length := by
        rw [← hvalue, Nat.ofDigitChars_cons]
        exact ofDigitChars_lt fun c hc => hdigits c (List.mem_cons_of_mem _ hc)
      rw [List.length_cons] at hlength hk
      have hle : (toString m).length ≤ rest.length := Nat.repr_length m _ (by omega) hlt
      omega

/-! ## What is shown -/

/-- A mantissa without needless zeros at its end. -/
def IsLean (m s : Nat) : Prop := s = 0 ∨ m % 10 ≠ 0

theorem isPlain_renderMagnitude (hm : m < capacity) (hs : s ≤ shownPlaces) (hlean : IsLean m s) :
    IsPlain (renderMagnitude m s).toList := by
  have hfront := isWhole_digitsOf m s
  have hlength := length_digitsOf m s
  by_cases hzero : s = 0
  · subst hzero
    rw [Nat.sub_zero, List.take_length] at hfront
    rw [renderMagnitude_zero]
    exact .whole hfront (by rwa [ofDigitChars_digitsOf])
  · have hback : ((digitsOf m s).drop ((digitsOf m s).length - s)).length = s := by
      rw [List.length_drop]
      omega
    rw [renderMagnitude_pos m hzero]
    refine .point hfront (fun c hc => isDigit_of_mem_digitsOf (List.mem_of_mem_drop hc)) ?_ ?_
      (hback.trans_le hs) (by rwa [List.take_append_drop, ofDigitChars_digitsOf])
    · intro h
      rw [h] at hback
      exact hzero hback.symm
    · intro hlast
      obtain ⟨init, hinit⟩ := List.getLast?_eq_some_iff.1 hlast
      have hvalue := ofDigitChars_digitsOf m s
      rw [← List.take_append_drop ((digitsOf m s).length - s) (digitsOf m s), hinit,
        ← List.append_assoc, ofDigitChars_concat] at hvalue
      have hten : m % 10 = 0 := by
        rw [← hvalue]
        simp
      exact hlean.elim hzero fun h => h hten

theorem stripZeros_of_isLean (h : IsLean m s) : stripZeros m s = (m, s) := by
  cases s with
  | zero => rfl
  | succ s => rw [stripZeros, if_neg (by simpa using h.resolve_left (Nat.succ_ne_zero s))]

theorem isLean_stripZeros (m s : Nat) : IsLean (stripZeros m s).1 (stripZeros m s).2 := by
  induction s generalizing m with
  | zero => exact .inl rfl
  | succ s ih =>
    rw [stripZeros]
    split
    · exact ih (m / 10)
    · rename_i hten
      exact .inr (by simpa using hten)

variable {x : Decimal}

theorem normalize_of_isLean (hsign : x.negative = false) (h : IsLean x.mantissa x.scale) :
    x.normalize = x := by
  cases hzero : x.isZero with
  | true =>
    have hmantissa : x.mantissa = 0 := eq_of_beq hzero
    have hscale : x.scale = 0 := h.resolve_right fun hten => hten (by rw [hmantissa])
    rw [normalize_of_isZero hzero]
    exact eq_of_parts hsign.symm hmantissa.symm hscale.symm
  | false =>
    have hstrip := stripZeros_of_isLean h
    refine eq_of_parts (normalize_negative hzero) ?_ ?_
    · rw [normalize_mantissa hzero, hstrip]
    · rw [normalize_scale hzero, hstrip]

theorem isLean_normalize (x : Decimal) : IsLean x.normalize.mantissa x.normalize.scale := by
  cases hzero : x.isZero with
  | true => exact .inl (by rw [normalize_of_isZero hzero]; rfl)
  | false =>
    rw [normalize_mantissa hzero, normalize_scale hzero]
    exact isLean_stripZeros _ _

theorem scale_normalize_le (x : Decimal) : x.normalize.scale ≤ x.scale := by
  cases hzero : x.isZero with
  | true =>
    rw [normalize_of_isZero hzero]
    exact Nat.zero_le _
  | false =>
    rw [normalize_scale hzero]
    exact stripZeros_snd_le _ _

theorem scale_roundPlaces_le (x : Decimal) (places : Nat) (tie : Tie) :
    (x.roundPlaces places tie).scale ≤ places := by
  rw [roundPlaces]
  split
  · exact Nat.min_le_left _ _
  · split
    · assumption
    · exact Nat.le_refl _

/-- Results that are not negative are shown as plain numerals. -/
theorem isPlain_shown (h : x.shown.toList.head? ≠ some '-') : IsPlain x.shown.toList := by
  have hplaces := (scale_normalize_le _).trans (scale_roundPlaces_le x shownPlaces .toEven)
  have hlean := isLean_normalize (x.roundPlaces shownPlaces .toEven)
  rw [shown, plain, render] at h ⊢
  generalize (x.roundPlaces shownPlaces .toEven).normalize = y at h hplaces hlean ⊢
  cases hsign : y.negative with
  | true => simp [hsign] at h
  | false =>
    rw [if_neg Bool.false_ne_true, String.empty_append]
    exact isPlain_renderMagnitude y.mantissa_lt hplaces hlean

theorem shown_of_isLean (hsign : x.negative = false) (h : IsLean x.mantissa x.scale)
    (hplaces : x.scale ≤ shownPlaces) : x.shown = renderMagnitude x.mantissa x.scale := by
  have hnormal := normalize_of_isLean hsign h
  rw [shown_eq_render (by rwa [hnormal]), hnormal, render, hsign, if_neg Bool.false_ne_true,
    String.empty_append]

/-- A plain numeral is what a magnitude is written as. -/
theorem exists_magnitude_of_isPlain {text : List Char} (h : IsPlain text) :
    ∃ m s, m < capacity ∧ s ≤ shownPlaces ∧ IsLean m s ∧ text = (renderMagnitude m s).toList := by
  cases h with
  | whole hfront hroom =>
    have hdigits := digitsOf_ofDigitChars hfront (List.forall_mem_nil (Char.isDigit · = true))
    rw [List.append_nil] at hdigits
    exact ⟨_, 0, hroom, Nat.zero_le _, .inl rfl, ((renderMagnitude_zero _).trans hdigits).symm⟩
  | @point front back hfront hback hne hlast hplaces hroom =>
    have hdigits := digitsOf_ofDigitChars hfront hback
    refine ⟨_, back.length, hroom, hplaces, .inr fun hten => hlast ?_, ?_⟩
    · obtain ⟨init, c, rfl⟩ : ∃ init c, back = init ++ [c] :=
        ⟨_, _, (List.dropLast_concat_getLast hne).symm⟩
      obtain ⟨n, hn, hc⟩ := toNat_digit (hback c (by simp))
      rw [← List.append_assoc, ofDigitChars_concat] at hten
      have hsame : c = '0' := Char.toNat_inj.1 (by omega)
      rw [List.getLast?_concat, hsame]
    · rw [renderMagnitude_pos _ (by simpa using hne), hdigits, List.length_append,
        Nat.add_sub_cancel, List.take_left, List.drop_left]

/-- What a text without a sign is read as is shown as the text exactly if the text is plain. -/
theorem shown_eq_iff {text : String} (hx : parseNumber? text = some x)
    (hsign : text.toList.head? ≠ some '-') : x.shown = text ↔ IsPlain text.toList := by
  constructor
  · rintro rfl
    exact isPlain_shown hsign
  · intro h
    obtain ⟨m, s, hm, hs, hlean, htext⟩ := exists_magnitude_of_isPlain h
    obtain rfl := String.toList_inj.1 htext
    have hscale : s ≤ maxScale := hs.trans (by decide)
    rw [parseNumber?_renderMagnitude hm hscale, ofParts?, dif_pos hm, dif_pos hscale] at hx
    cases hx
    exact shown_of_isLean rfl hlean hs

end

end Decimal

end Reckoner
