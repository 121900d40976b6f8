import Mathlib.Data.Int.Bitwise
import Reckoner.Eval.Arithmetic
import Reckoner.Proofs.Decimal.Whole
import Reckoner.Proofs.Outcome

/-!
# Operators on bits

Bits are those of words, which have room for the integers of 64 bits and leave out whole turns of
all others.

* `testBit_toInt`, `toInt_and`, `toInt_or` and `toInt_sshiftRight`: what words do is what two's
  complement does to integers.
* `wordOf_shiftLeft` and `floor_toInt_wordOf_eq_iff`: a shift to the left multiplies up to whole
  turns, and is undone exactly if there were none.
* `bits_of_integers` gives the results of the four operators for all integers.
-/

namespace Reckoner

/-! ## Words -/

theorem fitsInt64_iff {n : Int} : FitsInt64 n ↔ -2 ^ 63 ≤ n ∧ n < 2 ^ 63 := by
  rw [FitsInt64, Decimal.int64Min, Decimal.int64Max]
  omega

theorem fitsInt64_toInt (w : BitVec 64) : FitsInt64 w.toInt := by
  have hle := BitVec.le_toInt w
  have hlt := BitVec.toInt_lt (x := w)
  rw [fitsInt64_iff]
  omega

/-- Integers with the same bits are the same. -/
theorem eq_of_testBit_eq {m n : Int} (h : ∀ k, m.testBit k = n.testBit k) : m = n := by
  have hhigh (p q : Nat) : p.testBit (p + q) = false :=
    Nat.testBit_lt_two_pow (Nat.lt_of_le_of_lt (Nat.le_add_right p q) Nat.lt_two_pow_self)
  cases m with
  | ofNat p =>
    cases n with
    | ofNat q => exact congrArg Int.ofNat (Nat.eq_of_testBit_eq h)
    | negSucc q =>
      have hk : p.testBit (p + q) = !q.testBit (p + q) := h (p + q)
      rw [hhigh, Nat.add_comm, hhigh] at hk
      cases hk
  | negSucc p =>
    cases n with
    | ofNat q =>
      have hk : (!p.testBit (p + q)) = q.testBit (p + q) := h (p + q)
      rw [hhigh, Nat.add_comm, hhigh] at hk
      cases hk
    | negSucc q =>
      exact congrArg Int.negSucc (Nat.eq_of_testBit_eq fun k => Bool.not_inj (h k))

/-- The bits of the integer that a word stands for go on with its sign. -/
theorem testBit_toInt (w : BitVec 64) (k : Nat) :
    w.toInt.testBit k = if k < 64 then w.getLsbD k else w.msb := by
  cases hmsb : w.msb with
  | false =>
    have hvalue : w.toInt = (w.toNat : Int) := by
      rw [BitVec.toInt_eq_msb_cond, hmsb, if_neg Bool.false_ne_true]
    rw [hvalue]
    show w.toNat.testBit k = _
    rw [BitVec.testBit_toNat]
    split
    · rfl
    · exact BitVec.getLsbD_of_ge w k (by omega)
  | true =>
    have hvalue : w.toInt = Int.negSucc (~~~w).toNat := by
      rw [BitVec.toInt_eq_msb_cond, hmsb, if_pos rfl, BitVec.toNat_not, Int.negSucc_eq]
      have := w.isLt
      push_cast
      omega
    rw [hvalue]
    show (!(~~~w).toNat.testBit k) = _
    rw [BitVec.testBit_toNat, BitVec.getLsbD_not]
    by_cases hk : k < 64 <;> simp [hk]

theorem toInt_and (v w : BitVec 64) : (v &&& w).toInt = Int.land v.toInt w.toInt := by
  refine eq_of_testBit_eq fun k => ?_
  rw [Int.testBit_land, testBit_toInt, testBit_toInt, testBit_toInt, BitVec.getLsbD_and,
    BitVec.msb_and]
  split <;> rfl

theorem toInt_or (v w : BitVec 64) : (v ||| w).toInt = Int.lor v.toInt w.toInt := by
  refine eq_of_testBit_eq fun k => ?_
  rw [Int.testBit_lor, testBit_toInt, testBit_toInt, testBit_toInt, BitVec.getLsbD_or,
    BitVec.msb_or]
  split <;> rfl

theorem toInt_sshiftRight (w : BitVec 64) (k : Nat) :
    (w.sshiftRight k).toInt = ⌊(w.toInt : ℚ) / 2 ^ k⌋ := by
  rw [BitVec.toInt_sshiftRight, Int.shiftRight_eq_div_pow, ← Rat.floor_intCast_div_natCast]
  push_cast
  rfl

namespace Eval

variable {n a b : Int} {k : Nat}

theorem toInt_wordOf (h : FitsInt64 n) : (wordOf n).toInt = n := by
  rw [fitsInt64_iff] at h
  rw [wordOf, BitVec.toInt_ofInt]
  exact Int.bmod_eq_of_le (by omega) (by omega)

theorem toInt_wordOf_eq_iff : (wordOf n).toInt = n ↔ FitsInt64 n :=
  ⟨fun h => h ▸ fitsInt64_toInt _, toInt_wordOf⟩

/-- A word is one of the integers that differ by whole turns. -/
theorem dvd_sub_toInt_wordOf (n : Int) : 2 ^ 64 ∣ n - (wordOf n).toInt := by
  rw [wordOf, BitVec.toInt_ofInt]
  exact Int.dvd_self_sub_bmod

theorem wordOf_shiftLeft (n : Int) (k : Nat) : wordOf n <<< k = wordOf (n * 2 ^ k) := by
  have hpow : BitVec.twoPow 64 k = BitVec.ofInt 64 (2 ^ k) := by
    refine BitVec.eq_of_toNat_eq ?_
    rw [BitVec.toNat_twoPow, BitVec.toNat_ofInt]
    norm_cast
  rw [BitVec.shiftLeft_eq_mul_twoPow, hpow, wordOf, wordOf, BitVec.ofInt_mul]

/-- Shifting back gives the integer again only if no bit was lost. -/
theorem floor_toInt_wordOf_eq_iff (hk : k < 64) :
    ⌊((wordOf (a * 2 ^ k)).toInt : ℚ) / 2 ^ k⌋ = a ↔ FitsInt64 (a * 2 ^ k) := by
  have hpow : (0 : ℚ) < 2 ^ k := by positivity
  rw [← toInt_wordOf_eq_iff]
  generalize hr : (wordOf (a * 2 ^ k)).toInt = r
  -- What a word leaves out is whole turns, so `r` is still divisible by the power.
  obtain ⟨q, rfl⟩ : (2 : Int) ^ k ∣ r := by
    have hturns : (2 : Int) ^ k ∣ a * 2 ^ k - r :=
      (pow_dvd_pow 2 hk.le).trans (hr ▸ dvd_sub_toInt_wordOf _)
    exact (Int.dvd_iff_dvd_of_dvd_sub hturns).1 (Dvd.intro_left _ rfl)
  have hquotient : (((2 ^ k * q : Int) : ℚ)) / 2 ^ k = (q : Int) := by
    push_cast
    exact mul_div_cancel_left₀ _ (ne_of_gt hpow)
  rw [hquotient, Int.floor_intCast, mul_comm a, mul_right_inj' (by positivity)]

/-! ## Operators -/

/-- An operator gives a decimal for two others, in every session, and leaves it as it is. -/
def Computes (ctx : Context) (op : BinaryOp) (x y z : Decimal) : Prop :=
  ∀ o s, binary ctx op (.number x) (.number y) o s = .ok (.number z) s

/-- An operator fails for two decimals, in every session, and leaves it as it is. -/
def Refuses (ctx : Context) (op : BinaryOp) (x y : Decimal) (cause : Cause) : Prop :=
  ∀ o s, binary ctx op (.number x) (.number y) o s = .error (.fault { cause, offset := o }) s

/-- Whether an operator is one on bits. -/
def IsBitwise (op : BinaryOp) : Prop :=
  op = .bitAnd ∨ op = .bitOr ∨ op = .shiftLeft ∨ op = .shiftRight

variable {ctx : Context} {op : BinaryOp} {x y z : Decimal} {o : Nat} {cause : Cause}

theorem binary_bitwise (hop : IsBitwise op) (left right : Value) (o : Nat) :
    binary ctx op left right o = liftM (bitwise op left right o) := by
  rcases hop with rfl | rfl | rfl | rfl <;> rfl

theorem computes_of_bitwise (hop : IsBitwise op)
    (h : ∀ o, bitwise op (.number x) (.number y) o = .ok (.number z)) : Computes ctx op x y z := by
  intro o s
  rw [binary_bitwise hop, h]
  rfl

theorem refuses_of_bitwise (hop : IsBitwise op)
    (h : ∀ o, bitwise op (.number x) (.number y) o = failAt o cause) : Refuses ctx op x y cause := by
  intro o s
  rw [binary_bitwise hop, h]
  rfl

theorem bitwise_of_not_fits (hx : x.toRat = a) (hy : y.toRat = b)
    (hfits : ¬(FitsInt64 a ∧ FitsInt64 b)) :
    bitwise op (.number x) (.number y) o = failAt o (.domain .integerTooLarge) := by
  by_cases ha : FitsInt64 a
  · have hb : ¬FitsInt64 b := fun hb => hfits ⟨ha, hb⟩
    rw [bitwise, Decimal.toInteger_of_toRat hx ha, Decimal.toInteger_of_not_fits hy hb]
    rfl
  · rw [bitwise, Decimal.toInteger_of_not_fits hx ha]
    rfl

theorem bitwise_and (hx : x.IsWord a) (hy : y.IsWord b) :
    bitwise .bitAnd (.number x) (.number y) o =
      .ok (.number (.ofInt (wordOf a &&& wordOf b).toInt)) := by
  rw [bitwise, hx.toInteger, hy.toInteger]
  rfl

theorem bitwise_or (hx : x.IsWord a) (hy : y.IsWord b) :
    bitwise .bitOr (.number x) (.number y) o =
      .ok (.number (.ofInt (wordOf a ||| wordOf b).toInt)) := by
  rw [bitwise, hx.toInteger, hy.toInteger]
  rfl

theorem shiftAmount_ofNat (hk : k < 64) : shiftAmount k o = .ok k := by
  rw [shiftAmount, if_pos ⟨Int.natCast_nonneg k, by exact_mod_cast hk⟩, Int.toNat_natCast]

theorem bitwise_shiftLeft (hx : x.IsWord a) (hy : y.IsWord k) (hk : k < 64) :
    bitwise .shiftLeft (.number x) (.number y) o =
      .ok (.number (.ofInt (wordOf a <<< k).toInt)) := by
  rw [bitwise, hx.toInteger, hy.toInteger]
  dsimp only [bind, Except.bind]
  rw [shiftAmount_ofNat hk]
  rfl

theorem bitwise_shiftRight (hx : x.IsWord a) (hy : y.IsWord k) (hk : k < 64) :
    bitwise .shiftRight (.number x) (.number y) o =
      .ok (.number (.ofInt ((wordOf a).sshiftRight k).toInt)) := by
  rw [bitwise, hx.toInteger, hy.toInteger]
  dsimp only [bind, Except.bind]
  rw [shiftAmount_ofNat hk]
  rfl

theorem bitwise_of_amount (hx : x.IsWord a) (hy : y.IsWord b) (hb : ¬(0 ≤ b ∧ b < 64))
    (hop : op = .shiftLeft ∨ op = .shiftRight) :
    bitwise op (.number x) (.number y) o = failAt o (.domain (.shiftAmount b)) := by
  rw [bitwise, hx.toInteger, hy.toInteger]
  dsimp only [bind, Except.bind]
  have hamount : shiftAmount b o = failAt o (.domain (.shiftAmount b)) := if_neg hb
  rcases hop with rfl | rfl <;> rw [hamount] <;> rfl

/-- Whole numbers that words have room for have the bits of two's complement.  A shift to the
right divides and rounds down.  A shift to the left multiplies exactly if a word has room for
the product, and otherwise what is given is neither the product nor, shifted back, the number;
no shift fails for want of room. -/
theorem bits_of_integers (ctx : Context) (hx : x.toRat = a) (hy : y.toRat = b) :
    (¬(FitsInt64 a ∧ FitsInt64 b) →
      ∀ op, IsBitwise op → Refuses ctx op x y (.domain .integerTooLarge)) ∧
    (FitsInt64 a → FitsInt64 b →
      (∃ z, Computes ctx .bitAnd x y z ∧ z.toRat = Int.land a b) ∧
      (∃ z, Computes ctx .bitOr x y z ∧ z.toRat = Int.lor a b) ∧
      (¬(0 ≤ b ∧ b < 64) → ∀ op, op = .shiftLeft ∨ op = .shiftRight →
        Refuses ctx op x y (.domain (.shiftAmount b))) ∧
      ∀ k : Nat, b = k → k < 64 →
        (∃ z, Computes ctx .shiftRight x y z ∧ z.toRat = ⌊(a : ℚ) / 2 ^ k⌋) ∧
        ∃ z back, Computes ctx .shiftLeft x y z ∧
          (z.toRat = a * 2 ^ k ↔ FitsInt64 (a * 2 ^ k)) ∧
          Computes ctx .shiftRight z y back ∧ (back.toRat = a ↔ FitsInt64 (a * 2 ^ k))) := by
  refine ⟨fun hfits op hop => refuses_of_bitwise hop fun o => bitwise_of_not_fits hx hy hfits,
    fun ha hb => ?_⟩
  have hxword : x.IsWord a := ⟨hx, ha⟩
  have hyword : y.IsWord b := ⟨hy, hb⟩
  have hword (w : BitVec 64) : (Decimal.ofInt w.toInt).IsWord w.toInt :=
    Decimal.isWord_ofInt (fitsInt64_toInt w)
  refine ⟨⟨_, computes_of_bitwise (.inl rfl) fun o => bitwise_and hxword hyword, ?_⟩,
    ⟨_, computes_of_bitwise (.inr (.inl rfl)) fun o => bitwise_or hxword hyword, ?_⟩, ?_, ?_⟩
  · rw [(hword _).toRat_eq, toInt_and, toInt_wordOf ha, toInt_wordOf hb]
  · rw [(hword _).toRat_eq, toInt_or, toInt_wordOf ha, toInt_wordOf hb]
  · intro hamount op hop
    have hbits : IsBitwise op := .inr (.inr hop)
    exact refuses_of_bitwise hbits fun o => bitwise_of_amount hxword hyword hamount hop
  · rintro k rfl hk
    have hleft : IsBitwise .shiftLeft := .inr (.inr (.inl rfl))
    have hright : IsBitwise .shiftRight := .inr (.inr (.inr rfl))
    have hz := hword (wordOf a <<< k)
    refine ⟨⟨_, computes_of_bitwise hright fun o => bitwise_shiftRight hxword hyword hk, ?_⟩,
      _, _, computes_of_bitwise hleft fun o => bitwise_shiftLeft hxword hyword hk, ?_,
      computes_of_bitwise hright fun o => bitwise_shiftRight hz hyword hk, ?_⟩
    · rw [(hword _).toRat_eq, toInt_sshiftRight, toInt_wordOf ha]
    · rw [hz.toRat_eq, wordOf_shiftLeft, ← toInt_wordOf_eq_iff]
      norm_cast
    · rw [(hword _).toRat_eq, toInt_sshiftRight, toInt_wordOf (fitsInt64_toInt _),
        wordOf_shiftLeft, Int.cast_inj]
      exact floor_toInt_wordOf_eq_iff hk

/-- Two bits shifted out by two places are lost; one is the sign. -/
theorem bits_of_integers_lost :
    let ctx := Context.ofClock ⟨0, 0⟩ (.fixed 0)
    let x := Decimal.ofInt (3 * 2 ^ 61 + 5)
    x.toRat = (3 * 2 ^ 61 + 5 : Int) ∧ Decimal.two.toRat = (2 : Int) ∧
      FitsInt64 (3 * 2 ^ 61 + 5) ∧ ¬FitsInt64 ((3 * 2 ^ 61 + 5) * 2 ^ 2) ∧
      (∃ z, Computes ctx .bitAnd x .two z ∧ z.toRat = Int.land (3 * 2 ^ 61 + 5) 2) ∧
      (∃ z, Computes ctx .shiftRight x .two z ∧ z.toRat = ⌊((3 * 2 ^ 61 + 5 : Int) : ℚ) / 2 ^ 2⌋) ∧
      ∃ z back, Computes ctx .shiftLeft x .two z ∧ z.toRat ≠ ((3 * 2 ^ 61 + 5 : Int) : ℚ) * 2 ^ 2 ∧
        Computes ctx .shiftRight z .two back ∧ back.toRat ≠ ((3 * 2 ^ 61 + 5 : Int) : ℚ) := by
  intro ctx x
  have hx : x.toRat = (3 * 2 ^ 61 + 5 : Int) := Decimal.toRat_ofInt (by decide)
  have hy : Decimal.two.toRat = (2 : Int) := Decimal.toRat_ofInt (by decide)
  have hroom : FitsInt64 (3 * 2 ^ 61 + 5) := by decide
  have hfull : ¬FitsInt64 ((3 * 2 ^ 61 + 5) * 2 ^ 2) := by decide
  obtain ⟨hand, -, -, hshifts⟩ := (bits_of_integers ctx hx hy).2 hroom (by decide)
  obtain ⟨hright, z, back, hz, hexact, hback, hundone⟩ := hshifts 2 rfl (by decide)
  exact ⟨hx, hy, hroom, hfull, hand, hright, z, back, hz, fun h => hfull (hexact.1 h), hback,
    fun h => hfull (hundone.1 h)⟩

/-- A one shifted to the sign makes the least number, and shifted back minus one. -/
theorem shiftLeft_loses_bits :
    let ctx := Context.ofClock ⟨0, 0⟩ (.fixed 0)
    let least := Decimal.ofInt (-2 ^ 63)
    Computes ctx .shiftLeft .one (.ofInt 63) least ∧ least.toRat ≠ 1 * 2 ^ 63 ∧
      Computes ctx .shiftRight least (.ofInt 63) (.ofInt (-1)) ∧ (Decimal.ofInt (-1)).toRat ≠ 1 := by
  refine ⟨fun o s => rfl, ?_, fun o s => rfl, ?_⟩
  · rw [Decimal.toRat_ofInt (by decide)]
    norm_num
  · rw [Decimal.toRat_ofInt (by decide)]
    norm_num

end Eval

end Reckoner
