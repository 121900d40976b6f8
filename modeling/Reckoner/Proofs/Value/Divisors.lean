import Reckoner.Eval.Builtin.Call
import Reckoner.Proofs.Decimal.Whole

/-!
# Common divisors and multiples

Greatest common divisors and least common multiples are computed on words without sign, which
have room for the magnitude of every integer of 64 bits with a sign, the least one too.

* `toNat_euclid`: what a round of the loop goes on with has the same common divisors, so the last
  word is the greatest of them.
* `commonMultiple?_eq_some_iff`: the multiple is given exactly if a word has room for it.  The
  division before it is exact, and no product wraps around.
* `divisors_and_multiples` is the statement for the two functions of a source.
-/

namespace Reckoner.Eval

/-! ## Words -/

section

variable {x y n : UInt64}

theorem wordLimit_eq : wordLimit = 2 ^ 64 := rfl

theorem toNat_magnitudeWord {a : Int} (h : FitsInt64 a) : (magnitudeWord a).toNat = a.natAbs := by
  refine UInt64.toNat_ofNat_of_lt' ?_
  rw [FitsInt64, Decimal.int64Min, Decimal.int64Max] at h
  rw [UInt64.size]
  omega

/-- Each round keeps the common divisors, up to the one that has nothing to divide by. -/
theorem toNat_euclid (x y : UInt64) : (euclid x y).toNat = Nat.gcd x.toNat y.toNat := by
  induction x, y using euclid.induct with
  | case1 x =>
    rw [euclid, if_pos rfl]
    exact (Nat.gcd_zero_right _).symm
  | case2 x y hy ih =>
    rw [euclid, if_neg hy, ih, UInt64.toNat_mod, Nat.gcd_comm, ← Nat.gcd_rec, Nat.gcd_comm]

theorem wordProduct?_eq_some_iff :
    wordProduct? x y = some n ↔ n.toNat = x.toNat * y.toNat := by
  rw [wordProduct?, wordLimit_eq]
  split
  · rename_i hroom
    have hproduct : (x * y).toNat = x.toNat * y.toNat := by
      rw [UInt64.toNat_mul, Nat.mod_eq_of_lt hroom]
    rw [Option.some.injEq, ← hproduct, UInt64.toNat_inj, eq_comm]
  · rename_i hfull
    refine iff_of_false nofun fun h => hfull ?_
    rw [← h]
    exact n.toNat_lt

theorem commonMultiple?_eq_some_iff :
    commonMultiple? x y = some n ↔ n.toNat = Nat.lcm x.toNat y.toNat := by
  have hgcd := toNat_euclid x y
  rw [commonMultiple?]
  split
  · rename_i hzero
    rw [hzero] at hgcd
    obtain ⟨hx, hy⟩ := Nat.gcd_eq_zero_iff.1 hgcd.symm
    rw [Option.some.injEq, hx, hy, Nat.lcm_self, ← UInt64.toNat_zero, UInt64.toNat_inj, eq_comm]
  · have hdvd : Nat.gcd x.toNat y.toNat ∣ x.toNat := Nat.gcd_dvd_left _ _
    rw [wordProduct?_eq_some_iff, UInt64.toNat_div, hgcd, Nat.div_mul_right_comm hdvd,
      ← Nat.lcm_eq_mul_div]

theorem commonMultiple?_eq_none_iff :
    commonMultiple? x y = none ↔ 2 ^ 64 ≤ Nat.lcm x.toNat y.toNat := by
  rw [Option.eq_none_iff_forall_ne_some]
  constructor
  · intro h
    by_contra hroom
    refine h (.ofNat (Nat.lcm x.toNat y.toNat)) (commonMultiple?_eq_some_iff.2 ?_)
    exact UInt64.toNat_ofNat_of_lt' (Nat.lt_of_not_le hroom)
  · intro h n hn
    have hlt := n.toNat_lt
    rw [commonMultiple?_eq_some_iff.1 hn] at hlt
    omega

end

/-! ## Integers -/

/-- A built-in function gives a decimal for two others, in every session, and leaves it as it
is. -/
def CallGives (b : Builtin) (x y z : Decimal) : Prop :=
  ∀ ctx call o s, callBuiltin ctx call b [.number x, .number y] o s = .ok (.number z) s

/-- A built-in function fails for two decimals, in every session, and leaves it as it is. -/
def CallFails (b : Builtin) (x y : Decimal) (cause : Cause) : Prop :=
  ∀ ctx call o s, callBuiltin ctx call b [.number x, .number y] o s =
    .error (.fault { cause, offset := o }) s

section

variable {x y z : Decimal} {a b : Int}

theorem gives_gcd (hx : x.IsWord a) (hy : y.IsWord b) :
    CallGives .gcd x y (.ofNat (Int.gcd a b)) := by
  intro ctx call o s
  have hrun : gcd (.number x) (.number y) o = .ok (.ofNat (Int.gcd a b)) := by
    show (x.toInteger o >>= fun a => y.toInteger o >>= fun b => Except.ok
      (.ofNat (euclid (magnitudeWord a) (magnitudeWord b)).toNat) : Checked Value) = _
    rw [hx.toInteger, hy.toInteger]
    show Except.ok (Value.ofNat (euclid (magnitudeWord a) (magnitudeWord b)).toNat) = _
    rw [toNat_euclid, toNat_magnitudeWord hx.fits, toNat_magnitudeWord hy.fits]
    rfl
  show (liftM (gcd (.number x) (.number y) o) : EvalM Value) s = _
  rw [hrun]
  rfl

theorem lcm_of_words (hx : x.IsWord a) (hy : y.IsWord b) (o : Nat) :
    lcm (.number x) (.number y) o =
      match commonMultiple? (magnitudeWord a) (magnitudeWord b) with
      | some n => .ok (.ofNat n.toNat)
      | none => failAt o (.domain .commonMultiple) := by
  show (x.toInteger o >>= fun a => y.toInteger o >>= fun b =>
    match commonMultiple? (magnitudeWord a) (magnitudeWord b) with
    | some n => .ok (.ofNat n.toNat)
    | none => failAt o (.domain .commonMultiple) : Checked Value) = _
  rw [hx.toInteger, hy.toInteger]
  rfl

theorem lcm_magnitudeWord (hx : x.IsWord a) (hy : y.IsWord b) :
    Nat.lcm (magnitudeWord a).toNat (magnitudeWord b).toNat = Int.lcm a b := by
  rw [toNat_magnitudeWord hx.fits, toNat_magnitudeWord hy.fits]
  rfl

theorem gives_lcm (hx : x.IsWord a) (hy : y.IsWord b) (hroom : Int.lcm a b < 2 ^ 64) :
    CallGives .lcm x y (.ofNat (Int.lcm a b)) := by
  intro ctx call o s
  have hword : commonMultiple? (magnitudeWord a) (magnitudeWord b) =
      some (.ofNat (Int.lcm a b)) := by
    rw [commonMultiple?_eq_some_iff, lcm_magnitudeWord hx hy]
    exact UInt64.toNat_ofNat_of_lt' hroom
  have hrun : lcm (.number x) (.number y) o = .ok (.ofNat (Int.lcm a b)) := by
    rw [lcm_of_words hx hy, hword]
    exact congrArg (Except.ok ∘ Value.ofNat) (UInt64.toNat_ofNat_of_lt' hroom)
  show (liftM (lcm (.number x) (.number y) o) : EvalM Value) s = _
  rw [hrun]
  rfl

theorem fails_lcm (hx : x.IsWord a) (hy : y.IsWord b) (hfull : 2 ^ 64 ≤ Int.lcm a b) :
    CallFails .lcm x y (.domain .commonMultiple) := by
  intro ctx call o s
  have hword : commonMultiple? (magnitudeWord a) (magnitudeWord b) = none := by
    rw [commonMultiple?_eq_none_iff, lcm_magnitudeWord hx hy]
    exact hfull
  have hrun : lcm (.number x) (.number y) o = failAt o (.domain .commonMultiple) := by
    rw [lcm_of_words hx hy, hword]
  show (liftM (lcm (.number x) (.number y) o) : EvalM Value) s = _
  rw [hrun]
  rfl

theorem gcd_lt (hx : x.IsWord a) (hy : y.IsWord b) : Int.gcd a b < 2 ^ 64 := by
  have h := (euclid (magnitudeWord a) (magnitudeWord b)).toNat_lt
  rw [toNat_euclid, toNat_magnitudeWord hx.fits, toNat_magnitudeWord hy.fits] at h
  exact h

/-- The built-in functions for common divisors and multiples are exact for all integers of 64
bits with a sign, whichever decimals stand for them.

* `gcd` gives the greatest common divisor, which is zero for two zeros only.
* `lcm` gives the least common multiple if it is less than `2 ^ 64`, and fails otherwise.
* Whatever `lcm` gives, times the divisor it is the magnitude of the product. -/
theorem divisors_and_multiples (hx : x.IsWord a) (hy : y.IsWord b) :
    ∃ g, CallGives .gcd x y g ∧ g.toRat = Int.gcd a b ∧ (g.toRat = 0 ↔ a = 0 ∧ b = 0) ∧
      (Int.lcm a b < 2 ^ 64 → ∃ m, CallGives .lcm x y m ∧ m.toRat = Int.lcm a b) ∧
      (2 ^ 64 ≤ Int.lcm a b → CallFails .lcm x y (.domain .commonMultiple)) ∧
      ∀ ctx call o s v t, callBuiltin ctx call .lcm [.number x, .number y] o s = .ok v t →
        ∃ m : Decimal, v = .number m ∧ t = s ∧ m.toRat * g.toRat = |((a * b : Int) : ℚ)| := by
  have hlimit : 2 ^ 64 ≤ Decimal.capacity := by decide
  have hgcd : (Decimal.ofNat (Int.gcd a b)).toRat = Int.gcd a b :=
    Decimal.toRat_ofNat (Nat.lt_of_lt_of_le (gcd_lt hx hy) hlimit)
  have hlcm (h : Int.lcm a b < 2 ^ 64) : (Decimal.ofNat (Int.lcm a b)).toRat = Int.lcm a b :=
    Decimal.toRat_ofNat (Nat.lt_of_lt_of_le h hlimit)
  refine ⟨.ofNat (Int.gcd a b), gives_gcd hx hy, hgcd, ?_,
    fun hroom => ⟨_, gives_lcm hx hy hroom, hlcm hroom⟩, fails_lcm hx hy,
    fun ctx call o s v t hrun => ?_⟩
  · rw [hgcd, Nat.cast_eq_zero, Int.gcd_eq_zero_iff]
  · rcases Nat.lt_or_ge (Int.lcm a b) (2 ^ 64) with hroom | hfull
    · cases (gives_lcm hx hy hroom ctx call o s).symm.trans hrun
      refine ⟨_, rfl, rfl, ?_⟩
      rw [hlcm hroom, hgcd, Decimal.abs_intCast, Int.natAbs_mul, ← Int.gcd_mul_lcm, Nat.cast_mul,
        mul_comm]
    · cases (fails_lcm hx hy hfull ctx call o s).symm.trans hrun

/-- The magnitude of the least integer has room in a word, three times as much has not. -/
theorem divisors_and_multiples_least :
    ∃ g, CallGives .gcd (.ofInt Decimal.int64Min) (.ofInt (-6)) g ∧ g.toRat = 2 ∧
      CallFails .lcm (.ofInt Decimal.int64Min) (.ofInt (-6)) (.domain .commonMultiple) := by
  obtain ⟨g, hg, hvalue, -, -, hfull, -⟩ :=
    divisors_and_multiples (a := Decimal.int64Min) (b := -6) (Decimal.isWord_ofInt (by decide))
      (Decimal.isWord_ofInt (by decide))
  have hgcd : Int.gcd Decimal.int64Min (-6) = 2 := by decide
  refine ⟨g, hg, ?_, hfull (by decide)⟩
  rw [hvalue, hgcd]
  rfl

end

end Reckoner.Eval
