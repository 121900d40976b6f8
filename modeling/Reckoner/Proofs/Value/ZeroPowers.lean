import Reckoner.Eval.Expression
import Reckoner.Proofs.Decimal.Whole
import Reckoner.Proofs.Discipline.Basic

/-!
# Powers of zero

Zero to a whole power is one, zero or a division by zero, by the sign of the power, as long as a
word has room for the power: 64 bits for a number, 32 bits for a quantity.  Zero to any other power
is zero, also if the power is negative.

* `Raises`: what a power comes to, as an operator and as a call; `raises_iff` reduces it to `pow`.
* `powDecimal_of_zero` and `powQuantity_of_zero` follow a whole power of zero, and
  `powDecimal_of_fraction` any other one.
* `exponent_of_both`: zero has a number for a power and for its opposite only if the power is zero
  or a fraction.
* `zero_power_divides_iff` puts these together.
-/

namespace Reckoner.Eval

/-- A result or the cause of a failure, at an offset. -/
def settled (r : Except Cause Value) (o : Nat) : Checked Value :=
  match r with
  | .ok v => .ok v
  | .error cause => failAt o cause

/-- What a power comes to, as an operator between expressions with these values and as a call, in
every session, which is left as it is. -/
structure Raises (ctx : Context) (base exponent : Value) (r : Except Cause Value) : Prop where
  operator : ∀ (call : Caller) (scope : Nat) (left right : Expr) (o : Nat) (s t u : Session),
    evalExpr ctx call scope left s = .ok base t → evalExpr ctx call scope right t = .ok exponent u →
      evalExpr ctx call scope (.binary .pow left right o) s = (liftM (settled r o) : EvalM Value) u
  function : ∀ (call : Caller) (o : Nat) (s : Session),
    callBuiltin ctx call .pow [base, exponent] o s = (liftM (settled r o) : EvalM Value) s

section

variable {ctx : Context} {base exponent : Value} {r r' : Except Cause Value}

theorem settled_inj {o : Nat} (h : settled r o = settled r' o) : r = r' := by
  cases r <;> cases r' <;> cases h <;> rfl

theorem liftM_inj {c c' : Checked Value} {s : Session}
    (h : (liftM c : EvalM Value) s = (liftM c' : EvalM Value) s) : c = c' := by
  cases c <;> cases c' <;> cases h <;> rfl

/-- The operator and the function are the same power. -/
theorem raises_iff : Raises ctx base exponent r ↔ ∀ o, pow base exponent o = settled r o := by
  have hcall (call : Caller) (o : Nat) (s : Session) :
      callBuiltin ctx call .pow [base, exponent] o s =
        (liftM (pow base exponent o) : EvalM Value) s := rfl
  constructor
  · intro h o
    have hrun := h.function (fun v _ _ => pure v) o .empty
    rw [hcall] at hrun
    exact liftM_inj hrun
  · intro h
    refine ⟨fun call scope left right o s t u hleft hright => ?_, fun call o s => ?_⟩
    · rw [evalExpr]
      refine (bind_of_ok hleft).trans ((bind_of_ok hright).trans ?_)
      rw [← h o]
      rfl
    · rw [hcall, h o]

/-- A power comes to one thing only. -/
theorem Raises.unique (h : Raises ctx base exponent r) (h' : Raises ctx base exponent r') :
    r = r' :=
  settled_inj ((raises_iff.1 h 0).symm.trans (raises_iff.1 h' 0))

end

variable {ctx : Context} {x y : Decimal} {q : Quantity} {n : Int} {o : Nat}

/-! ## Numbers -/

/-- Zero to a whole power that a word has room for. -/
theorem powDecimal_of_zero (hx : x.isZero = true) (hy : y.toRat = n) (hfits : FitsInt64 n) :
    powDecimal x y o =
      if n < 0 then failAt o .divisionByZero else .ok (if n = 0 then .one else .zero) := by
  rw [powDecimal, Decimal.isWhole_of_toRat hy, if_pos rfl, Decimal.toInteger_of_toRat hy hfits]
  show (if (x.isZero && decide (n < 0)) = true then _ else _) = _
  rw [hx, Bool.true_and]
  rcases lt_trichotomy n 0 with hn | rfl | hn
  · rw [if_pos (decide_eq_true hn), if_pos hn]
  · rfl
  · rw [if_neg (by simp [hn.le]), if_neg hn.not_gt, if_neg hn.ne',
      Decimal.powInt?_of_isZero hx hn.ne', if_neg hn.not_gt]
    rfl

theorem powDecimal_of_not_fits (hy : y.toRat = n) (hfits : ¬FitsInt64 n) :
    powDecimal x y o = failAt o (.domain .integerTooLarge) := by
  rw [powDecimal, Decimal.isWhole_of_toRat hy, if_pos rfl, Decimal.toInteger_of_not_fits hy hfits]
  rfl

theorem isWhole_eq_false (hy : ∀ n : Int, y.toRat ≠ n) : y.isWhole = false := by
  rw [Bool.eq_false_iff]
  exact fun hwhole => hy _ (Decimal.toRat_of_isWhole hwhole)

/-- Zero to any power that is not whole, whatever its sign. -/
theorem powDecimal_of_fraction (hx : x.isZero = true) (hy : ∀ n : Int, y.toRat ≠ n) :
    powDecimal x y o = .ok .zero := by
  have hnegative : x.isNegative = false := by
    rw [Decimal.isNegative, hx, Bool.not_true, Bool.and_false]
  rw [powDecimal, isWhole_eq_false hy, if_neg (by decide), hnegative, if_neg (by decide), if_pos hx]

theorem pow_number (x y : Decimal) (o : Nat) :
    pow (.number x) (.number y) o = powDecimal x y o >>= fun z => .ok (.number z) := rfl

/-! ## Quantities -/

/-- A quantity of zero to a whole power that a word of 32 bits has room for. -/
theorem powQuantity_of_zero (hq : q.magnitude.isZero = true) (hy : y.toRat = n)
    (hfits : FitsInt32 n) :
    powQuantity q y o = if n < 0 then failAt o .divisionByZero else
      q.powInt n o >>= fun a => .ok (.ofAmount a) := by
  have hroom : FitsInt64 n := by
    unfold FitsInt32 at hfits
    unfold FitsInt64 Decimal.int64Min Decimal.int64Max
    omega
  rw [powQuantity, Decimal.isWhole_of_toRat hy, if_neg (by decide),
    Decimal.toInteger_of_toRat hy hroom]
  show (if n < -2147483648 ∨ 2147483647 < n then _ else
    if (q.magnitude.isZero && decide (n < 0)) = true then _ else _) = _
  rw [if_neg (by unfold FitsInt32 at hfits; omega), hq, Bool.true_and]
  by_cases hn : n < 0
  · rw [if_pos (decide_eq_true hn), if_pos hn]
  · rw [if_neg (by simpa using hn), if_neg hn]
    rfl

theorem powQuantity_of_not_fits (hy : y.toRat = n) (hfits : ¬FitsInt32 n) :
    powQuantity q y o = failAt o (.domain
      (if FitsInt64 n then .exponentTooLarge else .integerTooLarge)) := by
  rw [powQuantity, Decimal.isWhole_of_toRat hy, if_neg (by decide)]
  by_cases hroom : FitsInt64 n
  · rw [Decimal.toInteger_of_toRat hy hroom, if_pos hroom]
    show (if n < -2147483648 ∨ 2147483647 < n then _ else _) = _
    rw [if_pos (by unfold FitsInt32 at hfits; omega)]
  · rw [Decimal.toInteger_of_not_fits hy hroom, if_neg hroom]
    rfl

theorem powQuantity_of_fraction (hy : ∀ n : Int, y.toRat ≠ n) :
    powQuantity q y o = failAt o (.typing .quantityPower) := by
  rw [powQuantity, isWhole_eq_false hy, if_pos (by decide)]

/-- No unit is left in a quantity to the power zero. -/
theorem powInt_zero (q : Quantity) : q.powInt 0 o = .ok (.number .one) := by
  have hdims : (q.dims.scaled 0).isEmpty = true := by simp [Dimensions.scaled, Dimensions.isEmpty]
  show Except.ok (Quantity.toAmount { magnitude := .one, dims := q.dims.scaled 0 }) = _
  rw [Quantity.toAmount, if_pos hdims]

/-! ## A power and its opposite -/

section

variable {b e e' : Value} {z : Decimal} {s : Session}

/-- Zero to a whole negative power always fails. -/
theorem exists_pow_eq_failAt (hb : isZeroAmount b = true) (hy : y.toRat = n) (hn : n < 0) :
    ∃ cause, ∀ o, pow b (.number y) o = failAt o cause := by
  match b, hb with
  | .number x, hx =>
    by_cases hfits : FitsInt64 n
    · refine ⟨.divisionByZero, fun o => ?_⟩
      rw [pow_number, powDecimal_of_zero hx hy hfits, if_pos hn]
      rfl
    · refine ⟨.domain .integerTooLarge, fun o => ?_⟩
      rw [pow_number, powDecimal_of_not_fits hy hfits]
      rfl
  | .quantity q, hq =>
    by_cases hfits : FitsInt32 n
    · exact ⟨.divisionByZero, fun o => (powQuantity_of_zero hq hy hfits).trans (if_pos hn)⟩
    · exact ⟨_, fun o => powQuantity_of_not_fits hy hfits⟩

theorem not_raises_number (hb : isZeroAmount b = true) (hy : y.toRat = n) (hn : n < 0) :
    ¬Raises ctx b (.number y) (.ok (.number z)) := by
  intro h
  obtain ⟨cause, hcause⟩ := exists_pow_eq_failAt hb hy hn
  have hfails : Raises ctx b (.number y) (.error cause) := raises_iff.2 hcause
  cases h.unique hfails

/-- Only a number can be a power. -/
theorem exists_number_of_raises {v : Value} (h : Raises ctx b e (.ok v)) : ∃ y, e = .number y := by
  have hpow := raises_iff.1 h 0
  cases e with
  | number y => exact ⟨y, rfl⟩
  | _ => cases b <;> cases hpow

theorem raises_zero_power (hb : isZeroAmount b = true) (hy : y.toRat = 0) :
    Raises ctx b (.number y) (.ok (.number .one)) := by
  have hwhole : y.toRat = (0 : Int) := by rw [hy, Int.cast_zero]
  refine raises_iff.2 fun o => ?_
  match b, hb with
  | .number x, hx =>
    rw [pow_number, powDecimal_of_zero hx hwhole (by decide)]
    rfl
  | .quantity q, hq =>
    show powQuantity q y o = _
    rw [powQuantity_of_zero hq hwhole (by decide), if_neg (by decide), powInt_zero]
    rfl

theorem raises_fraction (hx : x.isZero = true) (hy : ∀ n : Int, y.toRat ≠ n) :
    Raises ctx (.number x) (.number y) (.ok (.number .zero)) := by
  refine raises_iff.2 fun o => ?_
  rw [pow_number, powDecimal_of_fraction hx hy]
  rfl

theorem neg_ne_intCast (hy : ∀ n : Int, y.toRat ≠ n) (n : Int) : y.neg.toRat ≠ n := by
  intro h
  rw [Decimal.toRat_neg] at h
  refine hy (-n) ?_
  rw [Int.cast_neg, ← h, neg_neg]

/-- Where zero has a number both for a power and for its opposite, the power is zero, or it is a
fraction and the zero has no units. -/
theorem exponent_of_both (hb : isZeroAmount b = true) (hneg : unary s .negate e o = .ok e') :
    ((∃ x, Raises ctx b e (.ok (.number x))) ∧ ∃ x, Raises ctx b e' (.ok (.number x))) ↔
      ∃ y, e = .number y ∧ (y.toRat = 0 ∨ (∃ x, b = .number x) ∧ ∀ n : Int, y.toRat ≠ n) := by
  constructor
  · rintro ⟨⟨x, hx⟩, x', hx'⟩
    obtain ⟨y, rfl⟩ := exists_number_of_raises hx
    cases hneg
    refine ⟨y, rfl, ?_⟩
    by_cases hwhole : ∃ n : Int, y.toRat = n
    · obtain ⟨n, hn⟩ := hwhole
      have hopposite : y.neg.toRat = (-n : Int) := by rw [Decimal.toRat_neg, hn, Int.cast_neg]
      rcases lt_trichotomy n 0 with hlt | rfl | hgt
      · exact absurd hx (not_raises_number hb hn hlt)
      · exact .inl (by rw [hn, Int.cast_zero])
      · exact absurd hx' (not_raises_number hb hopposite (neg_lt_zero.2 hgt))
    · have hfraction := not_exists.1 hwhole
      match b, hb with
      | .number x, _ => exact .inr ⟨⟨x, rfl⟩, hfraction⟩
      | .quantity q, _ =>
        have hfails : Raises ctx (.quantity q) (.number y) (.error (.typing .quantityPower)) :=
          raises_iff.2 fun o => powQuantity_of_fraction hfraction
        cases hx.unique hfails
  · rintro ⟨y, rfl, hy⟩
    cases hneg
    rcases hy with hy | ⟨⟨x, rfl⟩, hy⟩
    · have hopposite : y.neg.toRat = 0 := by rw [Decimal.toRat_neg, hy, neg_zero]
      exact ⟨⟨_, raises_zero_power hb hy⟩, _, raises_zero_power hb hopposite⟩
    · exact ⟨⟨_, raises_fraction hb hy⟩, _, raises_fraction hb (neg_ne_intCast hy)⟩

end

/-! ## All together -/

/-- Zero to a negative power is a division by zero exactly if the power is whole and a word has
room for it.  A whole power without room is refused; any other power of the number zero is zero.
So zero has a number for a power and for its opposite exactly if the power is zero or, where the
zero has no units, a fraction. -/
theorem zero_power_divides_iff (ctx : Context) :
    (∀ {x y : Decimal}, x.toRat = 0 → y.toRat < 0 →
      (Raises ctx (.number x) (.number y) (.error .divisionByZero) ↔
        ∃ n : Int, y.toRat = n ∧ FitsInt64 n) ∧
      (∀ n : Int, y.toRat = n → ¬FitsInt64 n →
        Raises ctx (.number x) (.number y) (.error (.domain .integerTooLarge))) ∧
      ((∀ n : Int, y.toRat ≠ n) → Raises ctx (.number x) (.number y) (.ok (.number .zero)))) ∧
    (∀ {q : Quantity} {y : Decimal} {n : Int}, q.magnitude.toRat = 0 → y.toRat = n → n < 0 →
      (Raises ctx (.quantity q) (.number y) (.error .divisionByZero) ↔ FitsInt32 n) ∧
      (¬FitsInt32 n → Raises ctx (.quantity q) (.number y)
        (.error (.domain (if FitsInt64 n then .exponentTooLarge else .integerTooLarge))))) ∧
    ∀ {b e e' : Value} {s : Session} {o : Nat}, isZeroAmount b = true →
      unary s .negate e o = .ok e' →
      (((∃ x, Raises ctx b e (.ok (.number x))) ∧ ∃ x, Raises ctx b e' (.ok (.number x))) ↔
        ∃ y, e = .number y ∧ (y.toRat = 0 ∨ (∃ x, b = .number x) ∧ ∀ n : Int, y.toRat ≠ n)) := by
  refine ⟨fun {x y} hx hy => ?_, fun {q y n} hq hy hn => ?_, exponent_of_both⟩
  · have hzero := (Decimal.toRat_eq_zero_iff x).1 hx
    have hrefused (n : Int) (hn : y.toRat = n) (hfits : ¬FitsInt64 n) :
        Raises ctx (.number x) (.number y) (.error (.domain .integerTooLarge)) := by
      refine raises_iff.2 fun o => ?_
      rw [pow_number, powDecimal_of_not_fits hn hfits]
      rfl
    refine ⟨⟨fun h => ?_, ?_⟩, hrefused, raises_fraction hzero⟩
    · by_contra hnone
      by_cases hwhole : ∃ n : Int, y.toRat = n
      · obtain ⟨n, hn⟩ := hwhole
        have hfits : ¬FitsInt64 n := fun hfits => hnone ⟨n, hn, hfits⟩
        cases h.unique (hrefused n hn hfits)
      · cases h.unique (raises_fraction hzero (not_exists.1 hwhole))
    · rintro ⟨n, hn, hfits⟩
      have hlt : n < 0 := by exact_mod_cast hn ▸ hy
      refine raises_iff.2 fun o => ?_
      rw [pow_number, powDecimal_of_zero hzero hn hfits, if_pos hlt]
      rfl
  · have hzero := (Decimal.toRat_eq_zero_iff q.magnitude).1 hq
    have hrefused (hfits : ¬FitsInt32 n) : Raises ctx (.quantity q) (.number y)
        (.error (.domain (if FitsInt64 n then .exponentTooLarge else .integerTooLarge))) :=
      raises_iff.2 fun o => powQuantity_of_not_fits hy hfits
    refine ⟨⟨fun h => ?_, fun hfits => raises_iff.2 fun o => ?_⟩, hrefused⟩
    · by_contra hfits
      cases h.unique (hrefused hfits)
    · exact (powQuantity_of_zero hzero hy hfits).trans (if_pos hn)

/-- Minus one half. -/
def minusHalf : Decimal := (Decimal.ofScaled 5 1).neg

theorem minusHalf_ne_intCast (n : Int) : minusHalf.toRat ≠ n := by
  intro h
  have hvalue : minusHalf.toRat = -1 / 2 := by decide +kernel
  have hdouble : (-1 : ℚ) = (n * 2 : Int) := by
    rw [Int.cast_mul, ← h, hvalue]
    norm_num
  have : (-1 : Int) = n * 2 := by exact_mod_cast hdouble
  omega

/-- To the power of minus three, zero and no miles are divisions by zero; to the power of minus one
half, zero is zero. -/
theorem zero_power_divides_iff_cube :
    let ctx := Context.ofClock ⟨0, 0⟩ (.fixed 0)
    let y := Decimal.ofInt (-3)
    let q : Quantity := ⟨.zero, ⟨[⟨.length, "mi", 1⟩]⟩⟩
    Decimal.zero.toRat = 0 ∧ q.magnitude.toRat = 0 ∧ y.toRat = (-3 : Int) ∧ y.toRat < 0 ∧
      FitsInt64 (-3) ∧ FitsInt32 (-3) ∧ minusHalf.toRat < 0 ∧ (∀ n : Int, minusHalf.toRat ≠ n) ∧
      unary .empty .negate (.number minusHalf) 0 = .ok (.number minusHalf.neg) ∧
      Raises ctx (.number .zero) (.number y) (.error .divisionByZero) ∧
      Raises ctx (.quantity q) (.number y) (.error .divisionByZero) ∧
      Raises ctx (.number .zero) (.number minusHalf) (.ok (.number .zero)) ∧
      ∃ x, Raises ctx (.number .zero) (.number minusHalf.neg) (.ok (.number x)) := by
  intro ctx y q
  have hy : y.toRat = (-3 : Int) := Decimal.toRat_ofInt (by decide)
  have hnegative : y.toRat < 0 := by rw [hy]; norm_num
  have hhalf : minusHalf.toRat < 0 := by decide +kernel
  obtain ⟨hnumber, hquantity, hboth⟩ := zero_power_divides_iff ctx
  refine ⟨Decimal.toRat_zero, Decimal.toRat_zero, hy, hnegative, by decide, by decide, hhalf,
    minusHalf_ne_intCast, rfl, ?_, ?_, ?_, ?_⟩
  · exact (hnumber Decimal.toRat_zero hnegative).1.2 ⟨-3, hy, by decide⟩
  · exact (hquantity (q := q) Decimal.toRat_zero hy (by decide)).1.2 (by decide)
  · exact (hnumber Decimal.toRat_zero hhalf).2.2 minusHalf_ne_intCast
  · exact ((hboth (b := .number .zero) (s := .empty) (o := 0) rfl rfl).2
      ⟨minusHalf, rfl, .inr ⟨⟨.zero, rfl⟩, minusHalf_ne_intCast⟩⟩).2

/-- Zero to the power of minus one half is zero, as it is to the power of one half, and no division
by zero. -/
theorem zero_power_not_divided :
    let ctx := Context.ofClock ⟨0, 0⟩ (.fixed 0)
    minusHalf.toRat < 0 ∧ Decimal.zero.toRat = 0 ∧
      Raises ctx (.number .zero) (.number minusHalf) (.ok (.number .zero)) ∧
      Raises ctx (.number .zero) (.number minusHalf.neg) (.ok (.number .zero)) ∧
      ¬Raises ctx (.number .zero) (.number minusHalf) (.error .divisionByZero) := by
  intro ctx
  have hzero : Raises ctx (.number .zero) (.number minusHalf) (.ok (.number .zero)) :=
    raises_iff.2 fun o => rfl
  refine ⟨by decide +kernel, Decimal.toRat_zero, hzero, raises_iff.2 fun o => rfl, fun h => ?_⟩
  cases h.unique hzero

end Reckoner.Eval
