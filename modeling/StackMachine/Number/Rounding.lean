/-! # Rounding of quotients

Powers and quotients of natural numbers, with the one rounding used everywhere:
to the nearest, a tie to the even neighbour. The count of the digits of a number
is pinned down by the two powers of ten it lies between. -/

namespace StackMachine

def tenPow (k : Nat) : Nat := Nat.pow 10 k

theorem tenPow_pos (k : Nat) : 0 < tenPow k := Nat.pow_pos (by decide)

theorem tenPow_add (j k : Nat) : tenPow (j + k) = tenPow j * tenPow k := Nat.pow_add 10 j k

theorem tenPow_succ (k : Nat) : tenPow (k + 1) = tenPow k * 10 := Nat.pow_succ ..

theorem tenPow_le_tenPow {j k : Nat} (h : j ≤ k) : tenPow j ≤ tenPow k :=
  Nat.pow_le_pow_right (by decide) h

theorem tenPow_lt_tenPow {j k : Nat} (h : j < k) : tenPow j < tenPow k :=
  Nat.pow_lt_pow_right (by decide) h

theorem lt_of_tenPow_lt {j k : Nat} (h : tenPow j < tenPow k) : j < k :=
  Nat.lt_of_not_le fun le => Nat.not_lt_of_le (tenPow_le_tenPow le) h

/-- Raises the bound `k` on the digits of `n` while `n` has more, at most `fuel` times. -/
def raiseDigits (n : Nat) : Nat → Nat → Nat
  | 0, k => k
  | fuel + 1, k => if tenPow k ≤ n then raiseDigits n fuel (k + 1) else k

/-- How many decimal digits `n` has; zero has one. The count starts from the number of bits, each
of which is worth a little more than 59 / 196 of a digit. -/
def digitCount (n : Nat) : Nat := raiseDigits n (n.log2 + 1) (n.log2 * 59 / 196 + 1)

theorem lt_tenPow_raiseDigits (n fuel k : Nat) (h : n < tenPow (k + fuel)) :
    n < tenPow (raiseDigits n fuel k) := by
  induction fuel generalizing k with
  | zero => exact h
  | succ fuel ih =>
    rw [raiseDigits]
    split
    · exact ih (k + 1) (by rwa [Nat.add_assoc, Nat.add_comm 1 fuel])
    · omega

theorem tenPow_raiseDigits_le (n fuel k : Nat) (h : tenPow (k - 1) ≤ n) :
    tenPow (raiseDigits n fuel k - 1) ≤ n := by
  induction fuel generalizing k with
  | zero => exact h
  | succ fuel ih =>
    rw [raiseDigits]
    split
    · exact ih (k + 1) (by assumption)
    · exact h

theorem lt_tenPow_digitCount (n : Nat) : n < tenPow (digitCount n) := by
  apply lt_tenPow_raiseDigits
  have bits := Nat.lt_of_lt_of_le (Nat.lt_log2_self (n := n))
    (Nat.pow_le_pow_left (by decide : 2 ≤ 10) (n.log2 + 1))
  exact Nat.lt_of_lt_of_le bits (Nat.pow_le_pow_right (by decide) (by omega))

theorem tenPow_digitCount_le {n : Nat} (h : n ≠ 0) : tenPow (digitCount n - 1) ≤ n := by
  apply tenPow_raiseDigits_le
  refine Nat.le_trans ?_ (Nat.log2_self_le h)
  refine (Nat.pow_le_pow_iff_left (Nat.succ_ne_zero 195)).mp ?_
  have worth : Nat.pow 10 59 ≤ Nat.pow 2 196 := by decide +kernel
  calc Nat.pow (tenPow (n.log2 * 59 / 196 + 1 - 1)) 196
      = Nat.pow 10 (n.log2 * 59 / 196 * 196) := (Nat.pow_mul ..).symm
    _ ≤ Nat.pow 10 (59 * n.log2) := Nat.pow_le_pow_right (by decide) (by omega)
    _ = Nat.pow (Nat.pow 10 59) n.log2 := Nat.pow_mul ..
    _ ≤ Nat.pow (Nat.pow 2 196) n.log2 := Nat.pow_le_pow_left worth _
    _ = Nat.pow 2 (196 * n.log2) := (Nat.pow_mul ..).symm
    _ = Nat.pow 2 (n.log2 * 196) := by rw [Nat.mul_comm]
    _ = Nat.pow (Nat.pow 2 n.log2) 196 := Nat.pow_mul ..

/-- The natural number nearest to `num / den`, a tie going to the even one. -/
def roundQuotient (num den : Nat) : Nat :=
  let quotient := num / den
  let twice := 2 * (num % den)
  if den < twice ∨ twice = den ∧ quotient % 2 = 1 then quotient + 1 else quotient

/-- The number `n` without its lowest `k` decimal digits, rounded. A number of fewer than `k`
digits is below half a unit, so that no power has to be formed for it. -/
def dropDigits (n k : Nat) : Nat :=
  if digitCount n < k then 0 else roundQuotient n (tenPow k)

end StackMachine
