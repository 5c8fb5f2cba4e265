import StackMachine.Proofs.SingleProduct
import Mathlib.Algebra.Order.Field.Power
import Mathlib.Algebra.Order.Ring.Rat
import Mathlib.Data.Sign.Basic
import Mathlib.Tactic.Linarith
import Mathlib.Tactic.Qify
import Mathlib.Tactic.Ring

/-!
# The error of the decimal product

As rational numbers, the product that MULT leaves is close to the exact one: the first factor
is rounded, and then the product of what this gives, and each time the error is at most half a
unit in the last digit. The bound is for the normal range; below it, and for numbers that are
too large to be given, nothing is said.
-/

namespace StackMachine

namespace Decimal.Context

variable {ctx : Context} {coefficient q : Nat} {exponent t : Int}

/-- A rounded number whose exact one is not full has all its digits carried over: one exponent
below, the nearest number has one digit too many. -/
theorem Rounded.carried (rounded : ctx.Rounded coefficient exponent q t) (valid : ctx.Valid)
    (later : max exponent ctx.leastExponent < t)
    (low : coefficient < tenPow (ctx.precision - 1) * tenPow (t - exponent).toNat) :
    q = tenPow (ctx.precision - 1) ∧
      IsNearest coefficient (tenPow (t - 1 - exponent).toNat) (q * 10) := by
  have before := isNearest_roundQuotient coefficient (tenPow_pos (t - 1 - exponent).toNat)
  have long := rounded.least (t - 1) (by omega) (by omega) _ before
  have whole : tenPow (ctx.precision - 1) * 10 = tenPow ctx.precision := by
    rw [← tenPow_succ, Nat.sub_add_cancel valid.precise]
  have size : (t - exponent).toNat = (t - 1 - exponent).toNat + 1 := by omega
  have nearest := rounded.nearest
  rw [size, tenPow_succ] at low nearest
  have positive := tenPow_pos (t - 1 - exponent).toNat
  have bounded : coefficient ≤ tenPow ctx.precision * tenPow (t - 1 - exponent).toNat := by
    rw [← whole, Nat.mul_assoc, Nat.mul_comm 10]
    exact Nat.le_of_lt low
  have power : roundQuotient coefficient (tenPow (t - 1 - exponent).toNat) =
      tenPow ctx.precision := Nat.le_antisymm (before.le_of_le_mul positive bounded) long
  rw [power, ← whole] at before
  have same : q = tenPow (ctx.precision - 1) :=
    nearest.unique (before.tens positive) (Nat.mul_pos positive (by decide))
  subst same
  exact ⟨rfl, before⟩

/-- In the normal range a rounded number is at most half a unit away from the exact one, for some
unit in which the exact one has all the digits of the context. -/
theorem Rounded.within (rounded : ctx.Rounded coefficient exponent q t) (valid : ctx.Valid)
    (nonzero : coefficient ≠ 0) (normal : ctx.leastPower ≤ leadingPower coefficient exponent) :
    ∃ unit, tenPow (ctx.precision - 1) * unit ≤ coefficient ∧
      2 * coefficient ≤ 2 * (q * tenPow (t - exponent).toNat) + unit ∧
      2 * (q * tenPow (t - exponent).toNat) ≤ 2 * coefficient + unit := by
  have start := rounded.start
  have nearest := rounded.nearest
  have precise := valid.precise
  by_cases full : tenPow (ctx.precision - 1) * tenPow (t - exponent).toNat ≤ coefficient
  · exact ⟨_, full, nearest.low, nearest.high⟩
  by_cases same : t = exponent
  · subst same
    rw [Int.sub_self] at nearest ⊢
    have whole : q = coefficient := nearest.unique (isNearest_one coefficient) Nat.one_pos
    have one : q * tenPow (Int.toNat 0) = q := Nat.mul_one q
    exact ⟨0, Nat.zero_le _, by omega, by omega⟩
  -- A normal number is full at the least exponent, so one digit less was tried before.
  have later : max exponent ctx.leastExponent < t := by
    by_contra least
    refine full (Nat.le_trans ?_ (tenPow_digitCount_le nonzero))
    rw [← tenPow_add]
    rw [leadingPower] at normal
    rw [leastExponent] at least start
    exact tenPow_le_tenPow (by omega)
  obtain ⟨power, before⟩ := rounded.carried valid later (Nat.lt_of_not_le full)
  have high := before.high
  have most : tenPow (t - 1 - exponent).toNat ≤ q * tenPow (t - 1 - exponent).toNat :=
    Nat.le_mul_of_pos_left _ (power ▸ tenPow_pos _)
  have size : (t - exponent).toNat = (t - 1 - exponent).toNat + 1 := by omega
  have same : q * tenPow (t - exponent).toNat = q * 10 * tenPow (t - 1 - exponent).toNat := by
    rw [size, tenPow_succ, Nat.mul_right_comm, Nat.mul_assoc]
  have reached : q * tenPow (t - 1 - exponent).toNat ≤ coefficient := by
    rw [Nat.mul_right_comm] at high
    omega
  rw [← power, same]
  exact ⟨tenPow (t - 1 - exponent).toNat, reached, before.low, before.high⟩

end Decimal.Context

section Errors

variable {x y w r u : ℚ}

/-- A rounded factor, and a rounded product of it, have an error of two roundings. -/
theorem abs_sub_mul_le (first : |w - x| ≤ u * |x|)
    (second : |r - w * y| ≤ u * |w * y|) (nonneg : 0 ≤ u) :
    |r - x * y| ≤ (2 * u + u ^ 2) * |x * y| := by
  have moved : |w * y - x * y| ≤ u * |x * y| := by
    rw [← sub_mul, abs_mul, abs_mul, ← mul_assoc]
    exact mul_le_mul_of_nonneg_right first (abs_nonneg y)
  have size : |w * y| ≤ |x * y| + u * |x * y| := by
    have triangle := abs_add_le (x * y) (w * y - x * y)
    rw [add_sub_cancel] at triangle
    linarith
  calc |r - x * y| ≤ |r - w * y| + |w * y - x * y| := abs_sub_le _ _ _
    _ ≤ u * (|x * y| + u * |x * y|) + u * |x * y| :=
        add_le_add (second.trans (mul_le_mul_of_nonneg_left size nonneg)) moved
    _ = (2 * u + u ^ 2) * |x * y| := by ring

theorem sign_eq_of_abs_sub_lt (near : |x - y| < |y|) :
    SignType.sign x = SignType.sign y := by
  rcases lt_trichotomy y 0 with below | zero | above
  · rw [abs_of_neg below, abs_lt] at near
    rw [sign_neg below, sign_neg (by linarith)]
  · rw [zero, abs_zero] at near
    exact absurd near (not_lt.mpr (abs_nonneg _))
  · rw [abs_of_pos above, abs_lt] at near
    rw [sign_pos above, sign_pos (by linarith)]

end Errors

/-- The rational number `± coefficient * 10 ^ exponent`. -/
def Decimal.ratio (negative : Bool) (coefficient : Nat) (exponent : Int) : ℚ :=
  (if negative then -1 else 1) * (coefficient * 10 ^ exponent)

def Decimal.toRat? : Decimal → Option ℚ
  | .finite negative coefficient exponent => some (ratio negative coefficient exponent)
  | _ => none

namespace Decimal

variable {s t : Bool} {c d : Nat} {e f : Int}

theorem toRat?_ofInt (n : Int) : (ofInt n).toRat? = some (n : ℚ) := by
  have size : ((n.natAbs : ℕ) : ℚ) = |(n : ℚ)| := by rw [Nat.cast_natAbs, Int.cast_abs]
  by_cases below : n < 0
  · have sign : (n : ℚ) < 0 := Int.cast_lt_zero.mpr below
    simp [toRat?, ofInt, ratio, below, size, abs_of_neg sign]
  · have sign : (0 : ℚ) ≤ n := Int.cast_nonneg (Int.not_lt.mp below)
    simp [toRat?, ofInt, ratio, below, size, abs_of_nonneg sign]

theorem tenPow_cast (k : Nat) : (tenPow k : ℚ) = 10 ^ (k : ℤ) := by
  rw [tenPow, zpow_natCast]
  exact Nat.cast_pow 10 k

theorem ten_zpow_pos (e : Int) : (0 : ℚ) < 10 ^ e := zpow_pos (by decide) e

theorem abs_ratio (s : Bool) (c : Nat) (e : Int) : |ratio s c e| = c * 10 ^ e := by
  have nonneg : (0 : ℚ) ≤ c * 10 ^ e := mul_nonneg (Nat.cast_nonneg c) (ten_zpow_pos e).le
  cases s <;> simp [ratio, abs_of_nonneg nonneg]

/-- Two numbers of one sign are as far apart as their sizes. -/
theorem abs_ratio_sub (s : Bool) (c d : Nat) (e f : Int) :
    |ratio s c e - ratio s d f| = |(c * 10 ^ e - d * 10 ^ f : ℚ)| := by
  cases s with
  | false => simp [ratio]
  | true =>
    simp only [ratio, if_true, neg_one_mul, neg_sub_neg]
    exact abs_sub_comm _ _

theorem ratio_mul (s t : Bool) (c d : Nat) (e f : Int) :
    ratio s c e * ratio t d f = ratio (s != t) (c * d) (e + f) := by
  have ten : (10 : ℚ) ≠ 0 := by decide
  cases s <;> cases t <;> simp [ratio, zpow_add₀ ten] <;> ring

theorem ratio_eq_zero_iff : ratio s c e = 0 ↔ c = 0 := by
  rw [← abs_eq_zero, abs_ratio, mul_eq_zero, Nat.cast_eq_zero]
  exact or_iff_left (ten_zpow_pos e).ne'

theorem ne_zero_of_le_abs {k : Int} (reached : (10 : ℚ) ^ k ≤ |ratio s c e|) : c ≠ 0 := by
  intro zero
  rw [ratio_eq_zero_iff.mpr zero, abs_zero] at reached
  exact absurd reached (not_le.mpr (ten_zpow_pos k))

/-- A number that reaches a power of ten has its leading digit there or above. -/
theorem le_leadingPower {k : Int} (reached : (10 : ℚ) ^ k ≤ |ratio s c e|) :
    k ≤ Context.leadingPower c e := by
  have below : (c : ℚ) < 10 ^ (digitCount c : ℤ) := by
    rw [← tenPow_cast]
    exact Nat.cast_lt.mpr (lt_tenPow_digitCount c)
  have power : (10 : ℚ) ^ k < 10 ^ (digitCount c + e) := by
    calc (10 : ℚ) ^ k ≤ c * 10 ^ e := by rwa [abs_ratio] at reached
      _ < 10 ^ (digitCount c : ℤ) * 10 ^ e := mul_lt_mul_of_pos_right below (ten_zpow_pos e)
      _ = 10 ^ (digitCount c + e) := (zpow_add₀ (by decide) _ _).symm
  have less := (zpow_lt_zpow_iff_right₀ (by decide : (1 : ℚ) < 10)).mp power
  rw [Context.leadingPower]
  omega

/-- Half a unit in the last digit, relative to the least number with that many digits. -/
def Context.unitRoundoff (ctx : Context) : ℚ := 5 * 10 ^ (-(ctx.precision : ℤ))

variable {ctx : Context} {q : Nat} {k : Int}

theorem Context.unitRoundoff_pos (ctx : Context) : 0 < ctx.unitRoundoff :=
  mul_pos (by decide) (ten_zpow_pos _)

theorem Context.unitRoundoff_mul (valid : ctx.Valid) :
    ctx.unitRoundoff * tenPow (ctx.precision - 1) = 1 / 2 := by
  have precise := valid.precise
  have last : -(ctx.precision : ℤ) + (ctx.precision - 1 : Nat) = -1 := by omega
  rw [unitRoundoff, tenPow_cast, mul_assoc, ← zpow_add₀ (by decide), last]
  norm_num

/-- In the normal range, rounding changes a number by no more than the unit roundoff. -/
theorem Context.Rounded.error_le (rounded : ctx.Rounded c e q k) (valid : ctx.Valid)
    (normal : (10 : ℚ) ^ ctx.leastPower ≤ |ratio s c e|) :
    |ratio s q k - ratio s c e| ≤ ctx.unitRoundoff * |ratio s c e| := by
  obtain ⟨unit, full, low, high⟩ :=
    rounded.within valid (ne_zero_of_le_abs normal) (le_leadingPower normal)
  have start := rounded.start
  have power : (10 : ℚ) ^ k = tenPow (k - e).toNat * 10 ^ e := by
    rw [tenPow_cast, ← zpow_add₀ (by decide)]
    congr 1
    omega
  have apart : |ratio s q k - ratio s c e| = |(q * tenPow (k - e).toNat : ℚ) - c| * 10 ^ e := by
    rw [abs_ratio_sub, power, ← mul_assoc, ← sub_mul, abs_mul, abs_of_pos (ten_zpow_pos e)]
  have half : |(q * tenPow (k - e).toNat : ℚ) - c| ≤ unit / 2 := by
    qify at low high
    rw [abs_le]
    constructor <;> linarith
  have share : (unit / 2 : ℚ) ≤ ctx.unitRoundoff * c := by
    qify at full
    calc (unit / 2 : ℚ) = ctx.unitRoundoff * (tenPow (ctx.precision - 1) * unit) := by
          rw [← mul_assoc, unitRoundoff_mul valid]
          ring
      _ ≤ ctx.unitRoundoff * c := mul_le_mul_of_nonneg_left full ctx.unitRoundoff_pos.le
  rw [apart, abs_ratio, ← mul_assoc]
  exact mul_le_mul_of_nonneg_right (half.trans share) (ten_zpow_pos e).le

/-- A number that the context holds is not changed. -/
theorem Context.Rounded.eq_of_short (rounded : ctx.Rounded c e q k)
    (low : ctx.leastExponent ≤ e) (short : digitCount c ≤ ctx.precision) : q = c ∧ k = e :=
  rounded.unique (ctx.rounded_self low short)

/-- A number that a context gives is the exact one, rounded, with its sign. -/
theorem Context.rounded_of_finish (valid : ctx.Valid) {result : Decimal}
    (given : ctx.finish s c e = .ok result) :
    ∃ q k, result = .finite s q k ∧ (c ≠ 0 → ctx.Rounded c e q k) := by
  cases (finish_eq_iff valid).mp given with
  | zero isZero => exact ⟨0, _, rfl, fun nonzero => absurd isZero nonzero⟩
  | @given q k _ rounded _ => exact ⟨q, k, rfl, fun _ => rounded⟩

/-- `r * 10 ^ l` is a product rounded twice: its first factor `c * 10 ^ e` is kept or rounded to
`q * 10 ^ k`, and the product of this and `d * 10 ^ f` is rounded. -/
structure Context.RoundedTwice (ctx : Context) (c d : Nat) (e f : Int) (q : Nat) (k : Int)
    (r : Nat) (l : Int) : Prop where
  first : c ≠ 0 → q = c ∧ k = e ∨ ctx.Rounded c e q k
  second : q * d ≠ 0 → ctx.Rounded (q * d) (k + f) r l

section Twice

variable {r : Nat} {l : Int} (twice : ctx.RoundedTwice c d e f q k r l) (valid : ctx.Valid)
  (normal : (10 : ℚ) ^ ctx.leastPower ≤ |ratio s c e|)

include twice valid normal

/-- The first rounding, if there is one, keeps to the unit roundoff. -/
theorem Context.RoundedTwice.first_error_le :
    |ratio s q k - ratio s c e| ≤ ctx.unitRoundoff * |ratio s c e| := by
  rcases twice.first (ne_zero_of_le_abs normal) with ⟨rfl, rfl⟩ | rounded
  · rw [sub_self, abs_zero]
    exact mul_nonneg ctx.unitRoundoff_pos.le (abs_nonneg _)
  · exact rounded.error_le valid normal

/-- The second rounding, of a product that is also normal, adds to the first. -/
theorem Context.RoundedTwice.error_le
    (normal' : (10 : ℚ) ^ ctx.leastPower ≤ |ratio s q k * ratio t d f|) :
    |ratio (s != t) r l - ratio s c e * ratio t d f| ≤
      (2 * ctx.unitRoundoff + ctx.unitRoundoff ^ 2) * |ratio s c e * ratio t d f| := by
  have first := twice.first_error_le valid normal
  have second : |ratio (s != t) r l - ratio s q k * ratio t d f| ≤
      ctx.unitRoundoff * |ratio s q k * ratio t d f| := by
    rw [ratio_mul] at normal' ⊢
    exact (twice.second (ne_zero_of_le_abs normal')).error_le valid normal'
  exact abs_sub_mul_le first second ctx.unitRoundoff_pos.le

theorem Context.RoundedTwice.exact (nonzero : d ≠ 0)
    (short : digitCount (c * d) ≤ ctx.precision) (low : ctx.leastExponent ≤ e + f) :
    r = c * d ∧ l = e + f := by
  have precise := valid.precise
  have nonzero' := ne_zero_of_le_abs normal
  -- The first factor is no longer than the product, and is normal, so it is not changed.
  have size : digitCount c ≤ ctx.precision := by
    refine digitCount_le precise ?_
    calc c ≤ c * d := Nat.le_mul_of_pos_right c (Nat.pos_of_ne_zero nonzero)
      _ < tenPow (digitCount (c * d)) := lt_tenPow_digitCount _
      _ ≤ tenPow ctx.precision := tenPow_le_tenPow short
  have start : ctx.leastExponent ≤ e := by
    have leading := le_leadingPower normal
    rw [leadingPower] at leading
    rw [leastExponent]
    omega
  have kept : q = c ∧ k = e := by
    rcases twice.first nonzero' with kept | rounded
    · exact kept
    · exact rounded.eq_of_short start size
  obtain ⟨rfl, rfl⟩ := kept
  exact (twice.second (Nat.mul_ne_zero nonzero' nonzero)).eq_of_short low short

end Twice

end Decimal

namespace Number

/-- The rational number that an integer, a rational or a finite decimal is. -/
def toRat? : Number → Option ℚ
  | .int n => some n
  | .rational q => some q
  | .decimal d => d.toRat?
  | _ => none

variable {a b w n : Number} {s t : Bool} {c d : Nat} {e f : Int}

theorem toRat?_of_decimals (both : decimals? a b = some (.finite s c e, .finite t d f)) :
    a.toRat? = some (Decimal.ratio s c e) ∧ b.toRat? = some (Decimal.ratio t d f) := by
  have parts : ∀ x y, decimals? a b = some (x, y) → a.toRat? = x.toRat? ∧ b.toRat? = y.toRat? := by
    intro x y same
    cases a <;> cases b <;> cases same <;> simp [toRat?, Decimal.toRat?_ofInt]
  exact parts _ _ both

theorem rounded_of_mul (both : decimals? a b = some (.finite s c e, .finite t d f))
    (given : mul a b = .ok n) :
    ∃ q k, n = .decimal (.finite (s != t) q k) ∧
      (c * d ≠ 0 → Decimal.Context.standard.Rounded (c * d) (e + f) q k) := by
  rw [mul_of_decimals both] at given
  cases result : Decimal.Context.standard.finish (s != t) (c * d) (e + f) with
  | error signal =>
    rw [result] at given
    cases given
  | ok r =>
    rw [result] at given
    obtain ⟨q, k, rfl, rounded⟩ :=
      Decimal.Context.rounded_of_finish Decimal.Context.valid_standard result
    cases given
    exact ⟨q, k, rfl, rounded⟩

theorem decimals?_decimal {x y z : Decimal} (both : decimals? (.decimal x) b = some (y, z)) :
    y = x ∧ ∀ x', decimals? (.decimal x') b = some (x', z) := by
  cases b <;> cases both <;> exact ⟨rfl, fun _ => rfl⟩

/-- The factor one leaves an integer as it is and rounds a decimal; the product with another factor
stays one of decimals. -/
theorem rounded_of_one_mul (both : decimals? a b = some (.finite s c e, .finite t d f))
    (given : mul (.int 1) a = .ok w) :
    ∃ q k, decimals? w b = some (.finite s q k, .finite t d f) ∧
      (c ≠ 0 → (q = c ∧ k = e) ∨ Decimal.Context.standard.Rounded c e q k) := by
  cases a with
  | int n =>
    rw [mul, Int.one_mul] at given
    cases given
    exact ⟨c, e, both, fun _ => Or.inl ⟨rfl, rfl⟩⟩
  | decimal x =>
    obtain ⟨rfl, other⟩ := decimals?_decimal both
    have one : decimals? (.int 1) (.decimal (.finite s c e)) =
        some (.finite false 1 0, .finite s c e) := rfl
    obtain ⟨q, k, rfl, rounded⟩ := rounded_of_mul one given
    rw [Nat.one_mul, Int.zero_add] at rounded
    rw [Bool.false_bne]
    exact ⟨q, k, other _, fun nonzero => Or.inr (rounded nonzero)⟩
  | rational | float | complex => cases b <;> cases both

/-- A product of decimals that is given is rounded twice, and has the sign of the exact one. -/
theorem roundedTwice_of_product (both : decimals? a b = some (.finite s c e, .finite t d f))
    (given : product a b = .ok n) :
    ∃ w q k r l, mul (.int 1) a = .ok w ∧ w.toRat? = some (Decimal.ratio s q k) ∧
      n = .decimal (.finite (s != t) r l) ∧
      Decimal.Context.standard.RoundedTwice c d e f q k r l := by
  rw [product_eq] at given
  cases step : mul (.int 1) a with
  | error failure =>
    rw [step] at given
    cases given
  | ok w =>
    rw [step] at given
    obtain ⟨q, k, both', first⟩ := rounded_of_one_mul both step
    obtain ⟨r, l, last, second⟩ := rounded_of_mul both' given
    exact ⟨w, q, k, r, l, rfl, (toRat?_of_decimals both').1, last, first, second⟩

end Number

namespace Machine

open Decimal (ratio)

variable {m : Machine} {a b : Number} {rest : List Value}

/-- The product that MULT leaves of an integer and a decimal, or of two decimals. Each factor may
have any number of digits. The bound on the error is for a first factor in the normal range, whose
product with the second is also in that range when it has been rounded. A product that the context
holds is exact; its first factor then has no more digits than it. -/
theorem mult_relative_error (view : View) (self : MachineId) (operands : List Value)
    {s t : Bool} {c d : Nat} {e f : Int} {x y : ℚ} {out : String}
    (both : Number.decimals? a b = some (.finite s c e, .finite t d f))
    (left : a.toRat? = some x) (right : b.toRat? = some y) (nonzero : y ≠ 0)
    (top : m.stack = .ofNumber a :: .ofNumber b :: rest)
    (given : (m.apply view self .mult operands).2 = .ok out)
    (normal : (10 : ℚ) ^ (-999999 : ℤ) ≤ |x|) :
    ∃ w z negative q k, Number.mul (.int 1) a = .ok w ∧ w.toRat? = some z ∧
      m.apply view self .mult operands =
        (m.withStack (.decimal (.finite negative q k) :: rest), .ok "") ∧
      ((10 : ℚ) ^ (-999999 : ℤ) ≤ |z * y| →
        |ratio negative q k - x * y| ≤
          (2 * (5 * 10 ^ (-28 : ℤ)) + (5 * 10 ^ (-28 : ℤ)) ^ 2) * |x * y| ∧
        SignType.sign (ratio negative q k) = SignType.sign (x * y) ∧ digitCount q ≤ 28) ∧
      (digitCount (c * d) ≤ 28 → -1000026 ≤ e + f → ratio negative q k = x * y ∧ k = e + f) := by
  have valid := Decimal.Context.valid_standard
  obtain ⟨leftRatio, rightRatio⟩ := Number.toRat?_of_decimals both
  obtain rfl : x = ratio s c e := Option.some.inj (left.symm.trans leftRatio)
  obtain rfl : y = ratio t d f := Option.some.inj (right.symm.trans rightRatio)
  rw [apply_mult_of_numbers top] at given ⊢
  cases outcome : Number.product a b with
  | error failure =>
    rw [outcome] at given
    cases given
  | ok n =>
    obtain ⟨w, q, k, r, l, first, middle, rfl, twice⟩ :=
      Number.roundedTwice_of_product both outcome
    refine ⟨w, _, s != t, r, l, first, middle, rfl, fun normal' => ?_, fun short low => ?_⟩
    · have bound : |ratio (s != t) r l - ratio s c e * ratio t d f| ≤
          (2 * (5 * 10 ^ (-28 : ℤ)) + (5 * 10 ^ (-28 : ℤ)) ^ 2) * |ratio s c e * ratio t d f| :=
        twice.error_le valid normal normal'
      have positive : 0 < |ratio s c e * ratio t d f| := by
        rw [abs_mul]
        exact mul_pos ((Decimal.ten_zpow_pos _).trans_le normal) (abs_pos.mpr nonzero)
      have small : (2 * (5 * 10 ^ (-28 : ℤ)) + (5 * 10 ^ (-28 : ℤ)) ^ 2 : ℚ) < 1 := by norm_num
      have close := bound.trans_lt ((mul_lt_iff_lt_one_left positive).mpr small)
      refine ⟨bound, sign_eq_of_abs_sub_lt close, ?_⟩
      rw [Decimal.ratio_mul] at normal'
      exact digitCount_le valid.precise (twice.second (Decimal.ne_zero_of_le_abs normal')).short
    · have nonzero' := Decimal.ratio_eq_zero_iff.not.mp nonzero
      obtain ⟨rfl, rfl⟩ := twice.exact valid normal nonzero' short low
      exact ⟨(Decimal.ratio_mul ..).symm, rfl⟩

/-- A first factor of more digits than the context has is rounded, and the product is less than the
exact one, within the bound. -/
theorem mult_relative_error_twice :
    let a : Number := .decimal (.finite false 10000000000000000000000000005 (-28))
    let m : Machine := { slots := #[none], stack := [.ofNumber a, .int 3] }
    let x : ℚ := ratio false 10000000000000000000000000005 (-28)
    let r : ℚ := ratio false 3000000000000000000000000000 (-27)
    (10 : ℚ) ^ (-999999 : ℤ) ≤ |x| ∧ r ≠ x * 3 ∧
      |r - x * 3| ≤ (2 * (5 * 10 ^ (-28 : ℤ)) + (5 * 10 ^ (-28 : ℤ)) ^ 2) * |x * 3| ∧
      ∀ view, m.apply view 0 .mult [] =
        (m.withStack [.decimal (.finite false 3000000000000000000000000000 (-27))], .ok "") := by
  intro a m x r
  have least : (10 : ℚ) ^ (-999999 : ℤ) ≤ 1 := zpow_le_one_of_nonpos₀ (by decide) (by decide)
  have normal : (10 : ℚ) ^ (-999999 : ℤ) ≤ |x| := by
    rw [Decimal.abs_ratio]
    exact least.trans (by norm_num)
  have twice : Number.product a (.int 3) =
      .ok (.decimal (.finite false 3000000000000000000000000000 (-27))) := rfl
  have top : m.stack = .ofNumber a :: .ofNumber (.int 3) :: [] := rfl
  have ran : ∀ view, m.apply view 0 .mult [] =
      (m.withStack [.decimal (.finite false 3000000000000000000000000000 (-27))], .ok "") := by
    intro view
    rw [apply_mult_of_numbers top, twice]
    rfl
  refine ⟨normal, ?_, ?_, ran⟩
  · norm_num [x, r, ratio]
  · obtain ⟨w, z, negative, q, k, first, middle, same, near, -⟩ :=
      mult_relative_error (fun _ => default) 0 [] rfl rfl rfl (by decide) top
        (congrArg Prod.snd (ran _)) normal
    have heads : [Value.decimal (.finite negative q k)] =
        [.decimal (.finite false 3000000000000000000000000000 (-27))] :=
      congrArg (fun outcome : Applied => outcome.1.stack) (same.symm.trans (ran _))
    have rounded : Number.mul (.int 1) a =
        .ok (.decimal (.finite false 1000000000000000000000000000 (-27))) := rfl
    cases heads
    cases first.symm.trans rounded
    obtain rfl : ratio false 1000000000000000000000000000 (-27) = z := Option.some.inj middle
    exact (near (least.trans (by norm_num [ratio]))).1

end Machine

end StackMachine
