/-!
# Powers of ten and of two

The scale of a decimal counts powers of ten, the bits of a double powers of
two.
-/

namespace Reckoner

/-- A power of ten. -/
def tenPow (n : Nat) : Nat := Nat.pow 10 n

/-- A power of two. -/
def twoPow (n : Nat) : Nat := Nat.pow 2 n

/-- The number of digits a whole number is written with. -/
def digitLength (n : Nat) : Nat := (Nat.toDigits 10 n).length

theorem tenPow_succ (n : Nat) : tenPow (n + 1) = tenPow n * 10 := rfl

theorem tenPow_pos (n : Nat) : 0 < tenPow n := by
  induction n with
  | zero => decide
  | succ n ih =>
    rw [tenPow_succ]
    exact Nat.mul_pos ih (by decide)

/-- Every power of ten but the first is at least ten. -/
theorem ten_le_tenPow {n : Nat} (h : 0 < n) : 10 ≤ tenPow n := by
  cases n with
  | zero => exact absurd h (Nat.lt_irrefl 0)
  | succ n =>
    rw [tenPow_succ]
    exact Nat.le_mul_of_pos_left 10 (tenPow_pos n)

end Reckoner
