import StackMachine.Number.DecimalProduct

/-!
# Rounding of decimals

What a context makes of an exact decimal, told without the steps by which it is computed:
the number is rounded once, to the nearest, at the least exponent that leaves no more
digits than the context has. There is exactly one such outcome for every number.
-/

namespace StackMachine

/-- `q` is nearest to `num / den`, and even if another natural number is as near. -/
structure IsNearest (num den q : Nat) : Prop where
  low : 2 * num ≤ 2 * (q * den) + den
  high : 2 * (q * den) ≤ 2 * num + den
  tie : 2 * num = 2 * (q * den) + den ∨ 2 * (q * den) = 2 * num + den → q % 2 = 0

section Nearest

variable {num den q r : Nat}

theorem IsNearest.le_of_mul_le (h : IsNearest num den q) (positive : 0 < den)
    (reached : r * den ≤ num) : r ≤ q := by
  have low := h.low
  refine Nat.le_of_not_lt fun above => ?_
  have more : (q + 1) * den ≤ r * den := Nat.mul_le_mul_right den above
  rw [Nat.succ_mul] at more
  omega

theorem IsNearest.le_of_le_mul (h : IsNearest num den q) (positive : 0 < den)
    (bounded : num ≤ r * den) : q ≤ r := by
  have high := h.high
  refine Nat.le_of_not_lt fun below => ?_
  have more : (r + 1) * den ≤ q * den := Nat.mul_le_mul_right den below
  rw [Nat.succ_mul] at more
  omega

theorem IsNearest.not_lt (h : IsNearest num den q) (other : IsNearest num den r)
    (positive : 0 < den) : ¬ q < r := by
  intro less
  have more : (q + 1) * den ≤ r * den := Nat.mul_le_mul_right den less
  rw [Nat.succ_mul] at more
  have low := h.low
  have high := other.high
  -- Both are half a unit away, so they are neighbours and both are even.
  have even := h.tie (Or.inl (by omega))
  have even' := other.tie (Or.inr (by omega))
  have apart : (q + 2) * den ≤ r * den := Nat.mul_le_mul_right den (by omega)
  rw [Nat.add_mul] at apart
  omega

theorem IsNearest.unique (h : IsNearest num den q) (other : IsNearest num den r)
    (positive : 0 < den) : q = r :=
  Nat.le_antisymm (Nat.le_of_not_lt (other.not_lt h positive))
    (Nat.le_of_not_lt (h.not_lt other positive))

theorem isNearest_one (n : Nat) : IsNearest n 1 n := by
  constructor <;> omega

theorem isNearest_roundQuotient (num : Nat) (positive : 0 < den) :
    IsNearest num den (roundQuotient num den) := by
  have parts := Nat.div_add_mod num den
  have small := Nat.mod_lt num positive
  rw [Nat.mul_comm] at parts
  unfold roundQuotient
  dsimp only
  generalize num / den = quotient at parts
  generalize num % den = rest at parts small
  have next : (quotient + 1) * den = quotient * den + den := Nat.succ_mul quotient den
  split
  · constructor <;> omega
  · constructor <;> omega

/-- A nearest number with a zero at its end is nearest also in units ten times as large. -/
theorem IsNearest.tens (h : IsNearest num den (q * 10)) (positive : 0 < den) :
    IsNearest num (den * 10) q := by
  have low := h.low
  have high := h.high
  have same : q * 10 * den = q * (den * 10) := by rw [Nat.mul_assoc, Nat.mul_comm 10]
  rw [same] at low high
  constructor <;> omega

end Nearest

/-- A number that reaches a power of ten has more digits than that has zeros. -/
theorem lt_digitCount {n k : Nat} (h : tenPow k ≤ n) : k < digitCount n :=
  lt_of_tenPow_lt (Nat.lt_of_le_of_lt h (lt_tenPow_digitCount n))

theorem digitCount_le {n k : Nat} (positive : 0 < k) (h : n < tenPow k) : digitCount n ≤ k := by
  by_cases zero : n = 0
  · subst zero
    exact positive
  · have less := lt_of_tenPow_lt (Nat.lt_of_le_of_lt (tenPow_digitCount_le zero) h)
    omega

theorem digitCount_pos {n : Nat} (nonzero : n ≠ 0) : 0 < digitCount n := by
  refine Nat.pos_of_ne_zero fun empty => ?_
  have bound := lt_tenPow_digitCount n
  rw [empty] at bound
  exact nonzero (Nat.lt_one_iff.mp bound)

/-- Digits are dropped by rounding the quotient, also where the power is not formed. -/
theorem isNearest_dropDigits (n k : Nat) : IsNearest n (tenPow k) (dropDigits n k) := by
  unfold dropDigits
  split
  · rename_i short
    have below : n * 10 < tenPow k := by
      have bound := lt_tenPow_digitCount n
      have room : tenPow (digitCount n + 1) ≤ tenPow k := tenPow_le_tenPow short
      rw [tenPow_succ] at room
      omega
    constructor <;> omega
  · exact isNearest_roundQuotient n (tenPow_pos k)

namespace Decimal.Context

variable {ctx : Context} {coefficient q r : Nat} {exponent t u : Int}

/-- A context has digits, and powers between its bounds. -/
structure Valid (ctx : Context) : Prop where
  precise : 0 < ctx.precision
  ordered : ctx.leastPower ≤ ctx.greatestPower

theorem valid_standard : standard.Valid := ⟨by decide, by decide⟩

/-- `q * 10 ^ t` is the number `coefficient * 10 ^ exponent` rounded to the digits of the context:
`t` is the least exponent, among those that the context has, at which the nearest number has no
more digits than that. -/
structure Rounded (ctx : Context) (coefficient : Nat) (exponent : Int) (q : Nat) (t : Int) :
    Prop where
  start : max exponent ctx.leastExponent ≤ t
  nearest : IsNearest coefficient (tenPow (t - exponent).toNat) q
  short : q < tenPow ctx.precision
  least : ∀ u, max exponent ctx.leastExponent ≤ u → u < t →
    ∀ p, IsNearest coefficient (tenPow (u - exponent).toNat) p → tenPow ctx.precision ≤ p

theorem Rounded.not_lt (first : ctx.Rounded coefficient exponent q t)
    (second : ctx.Rounded coefficient exponent r u) : ¬ t < u := fun less =>
  Nat.not_lt_of_le (second.least t first.start less q first.nearest) first.short

theorem Rounded.unique (first : ctx.Rounded coefficient exponent q t)
    (second : ctx.Rounded coefficient exponent r u) : q = r ∧ t = u := by
  have same : t = u :=
    Int.le_antisymm (Int.not_lt.mp (second.not_lt first)) (Int.not_lt.mp (first.not_lt second))
  subst same
  exact ⟨first.nearest.unique second.nearest (tenPow_pos _), rfl⟩

/-- The power of ten of the leading digit of `± q * 10 ^ t`. -/
def leadingPower (q : Nat) (t : Int) : Int := t + digitCount q - 1

/-- Every outcome of rounding the exact number `± coefficient * 10 ^ exponent` once: a zero takes
the nearest exponent of the context, and another number is given if its leading digit is not
beyond the greatest power. -/
inductive RoundedOnce (ctx : Context) (negative : Bool) (coefficient : Nat) (exponent : Int) :
    Except Signal Decimal → Prop
  | zero (isZero : coefficient = 0) : RoundedOnce ctx negative coefficient exponent
      (.ok (.finite negative 0 (min (max exponent ctx.leastExponent) ctx.greatestPower)))
  | given {q : Nat} {t : Int} (nonzero : coefficient ≠ 0)
      (rounded : ctx.Rounded coefficient exponent q t)
      (inside : leadingPower q t ≤ ctx.greatestPower) :
      RoundedOnce ctx negative coefficient exponent (.ok (.finite negative q t))
  | overflow {q : Nat} {t : Int} (nonzero : coefficient ≠ 0)
      (rounded : ctx.Rounded coefficient exponent q t)
      (beyond : ctx.greatestPower < leadingPower q t) :
      RoundedOnce ctx negative coefficient exponent (.error .overflow)

theorem RoundedOnce.unique {negative : Bool} {first second : Except Signal Decimal}
    (h : ctx.RoundedOnce negative coefficient exponent first)
    (h' : ctx.RoundedOnce negative coefficient exponent second) : first = second := by
  cases h with
  | zero isZero =>
    cases h' with
    | zero isZero' => rfl
    | given nonzero | overflow nonzero => exact absurd isZero nonzero
  | given nonzero rounded inside =>
    cases h' with
    | zero isZero => exact absurd isZero nonzero
    | given nonzero' rounded' inside' =>
      obtain ⟨rfl, rfl⟩ := rounded.unique rounded'
      rfl
    | overflow nonzero' rounded' beyond =>
      obtain ⟨rfl, rfl⟩ := rounded.unique rounded'
      omega
  | overflow nonzero rounded beyond =>
    cases h' with
    | zero isZero => exact absurd isZero nonzero
    | given nonzero' rounded' inside =>
      obtain ⟨rfl, rfl⟩ := rounded.unique rounded'
      omega
    | overflow nonzero' rounded' beyond' => rfl

/-- A number that the context holds is rounded to itself. -/
theorem rounded_self (ctx : Context) (low : ctx.leastExponent ≤ exponent)
    (short : digitCount coefficient ≤ ctx.precision) :
    ctx.Rounded coefficient exponent coefficient exponent where
  start := Int.max_le.mpr ⟨Int.le_refl exponent, low⟩
  nearest := by
    rw [Int.sub_self]
    exact isNearest_one coefficient
  short := Nat.lt_of_lt_of_le (lt_tenPow_digitCount coefficient) (tenPow_le_tenPow short)
  least u start less := by omega

section Target

variable {target : Int}
  (aim : target = max (exponent + digitCount coefficient - ctx.precision) ctx.leastExponent)

include aim

theorem finish_eq (negative : Bool) (nonzero : coefficient ≠ 0) :
    ctx.finish negative coefficient exponent =
      if ctx.greatestPower < leadingPower coefficient exponent then .error .overflow
      else if target ≤ exponent then .ok (.finite negative coefficient exponent)
      else ctx.roundTo negative coefficient exponent target := by
  rw [aim]
  exact if_neg nonzero

/-- Below the exponent at which a number is rounded it would have too many digits. -/
theorem least_target (nonzero : coefficient ≠ 0)
    (start : max exponent ctx.leastExponent ≤ u) (less : u < target) {p : Nat}
    (nearest : IsNearest coefficient (tenPow (u - exponent).toNat) p) :
    tenPow ctx.precision ≤ p := by
  refine nearest.le_of_mul_le (tenPow_pos _) ?_
  rw [← tenPow_add]
  exact Nat.le_trans (tenPow_le_tenPow (by omega)) (tenPow_digitCount_le nonzero)

/-- The number that is rounded there has no more digits than the context, unless all of them are
carried over. -/
theorem le_of_target (more : exponent < target)
    (nearest : IsNearest coefficient (tenPow (target - exponent).toNat) q) :
    q ≤ tenPow ctx.precision := by
  refine nearest.le_of_le_mul (tenPow_pos _) ?_
  rw [← tenPow_add]
  exact Nat.le_trans (Nat.le_of_lt (lt_tenPow_digitCount coefficient)) (tenPow_le_tenPow (by omega))

/-- If nothing is carried over, the rounded number is beyond the greatest power exactly when the
exact one is. -/
theorem beyond_iff (valid : ctx.Valid) (nonzero : coefficient ≠ 0)
    (more : exponent < target)
    (nearest : IsNearest coefficient (tenPow (target - exponent).toNat) q)
    (short : digitCount q ≤ ctx.precision) :
    ctx.greatestPower < leadingPower q target ↔
      ctx.greatestPower < leadingPower coefficient exponent := by
  have ordered := valid.ordered
  have precise := valid.precise
  -- Above the least exponent all digits of the context are in use.
  have full : target = exponent + digitCount coefficient - ctx.precision →
      ctx.precision ≤ digitCount q := by
    intro above
    have reached : tenPow (ctx.precision - 1) ≤ q := by
      refine nearest.le_of_mul_le (tenPow_pos _) ?_
      rw [← tenPow_add]
      exact Nat.le_trans (tenPow_le_tenPow (by omega)) (tenPow_digitCount_le nonzero)
    have digits := lt_digitCount reached
    omega
  simp only [leadingPower, leastExponent] at aim ⊢
  omega

theorem rounded_target (nonzero : coefficient ≠ 0)
    (more : exponent < target)
    (nearest : IsNearest coefficient (tenPow (target - exponent).toNat) q)
    (short : digitCount q ≤ ctx.precision) : ctx.Rounded coefficient exponent q target where
  start := by omega
  nearest := nearest
  short := Nat.lt_of_lt_of_le (lt_tenPow_digitCount q) (tenPow_le_tenPow short)
  least _ start less _ := least_target aim nonzero start less

/-- If all digits are carried over, the number is rounded one digit further on. -/
theorem rounded_carried (valid : ctx.Valid) (nonzero : coefficient ≠ 0)
    (more : exponent < target)
    (nearest : IsNearest coefficient (tenPow (target - exponent).toNat)
      (tenPow (ctx.precision - 1) * 10)) :
    ctx.Rounded coefficient exponent (tenPow (ctx.precision - 1)) (target + 1) where
  start := by omega
  nearest := by
    have size : (target + 1 - exponent).toNat = (target - exponent).toNat + 1 := by omega
    rw [size, tenPow_succ]
    exact nearest.tens (tenPow_pos _)
  short := tenPow_lt_tenPow (Nat.sub_lt valid.precise Nat.one_pos)
  least := by
    intro u start less p near
    by_cases below : u < target
    · exact least_target aim nonzero start below near
    · have same : u = target := by omega
      subst same
      have whole : tenPow (ctx.precision - 1) * 10 = tenPow ctx.precision := by
        rw [← tenPow_succ, Nat.sub_add_cancel valid.precise]
      rw [← whole]
      exact Nat.le_of_eq (nearest.unique near (tenPow_pos _))

end Target

theorem exists_rounded (valid : ctx.Valid) (negative : Bool) (nonzero : coefficient ≠ 0)
    (exponent : Int) : ∃ q t, ctx.Rounded coefficient exponent q t ∧
      ctx.finish negative coefficient exponent =
        if ctx.greatestPower < leadingPower q t then .error .overflow
        else .ok (.finite negative q t) := by
  have positive := digitCount_pos nonzero
  have precise := valid.precise
  obtain ⟨target, aim⟩ : ∃ target, target =
    max (exponent + digitCount coefficient - ctx.precision) ctx.leastExponent := ⟨_, rfl⟩
  rw [finish_eq aim negative nonzero]
  by_cases fits : target ≤ exponent
  · refine ⟨coefficient, exponent, ctx.rounded_self (by omega) (by omega), ?_⟩
    rw [if_pos fits]
  have more := Int.not_le.mp fits
  have nearest := isNearest_dropDigits coefficient (target - exponent).toNat
  have most := le_of_target aim more nearest
  rw [if_neg fits, roundTo]
  generalize dropDigits coefficient (target - exponent).toNat = q at nearest most ⊢
  by_cases short : digitCount q ≤ ctx.precision
  · refine ⟨q, target, rounded_target aim nonzero more nearest short, ?_⟩
    rw [if_pos short]
    simp only [beyond_iff aim valid nonzero more nearest short]
  · have carried : q = tenPow (ctx.precision - 1) * 10 := by
      have long : ¬ q < tenPow ctx.precision := fun less => short (digitCount_le precise less)
      rw [← tenPow_succ, Nat.sub_add_cancel precise]
      omega
    subst carried
    refine ⟨_, target + 1, rounded_carried aim valid nonzero more nearest, ?_⟩
    have digits : digitCount (tenPow (ctx.precision - 1)) = ctx.precision := by
      have reached := lt_digitCount (Nat.le_refl (tenPow (ctx.precision - 1)))
      have bounded := digitCount_le precise (tenPow_lt_tenPow (Nat.sub_lt precise Nat.one_pos))
      omega
    have leading : leadingPower (tenPow (ctx.precision - 1)) (target + 1) =
        target + ctx.precision := by
      rw [leadingPower, digits]
      omega
    rw [if_neg short, Nat.mul_div_cancel _ (by decide), leading]
    -- The exact number is beyond the greatest power only if the rounded one is.
    by_cases beyond : ctx.greatestPower < leadingPower coefficient exponent
    · have further : ctx.greatestPower < target + ctx.precision := by
        rw [leadingPower] at beyond
        omega
      rw [if_pos beyond, if_pos further]
    · rw [if_neg beyond]

/-- The outcomes listed are exactly those of the context. -/
theorem finish_eq_iff (valid : ctx.Valid) {negative : Bool} {result : Except Signal Decimal} :
    ctx.finish negative coefficient exponent = result ↔
      ctx.RoundedOnce negative coefficient exponent result := by
  have once : ctx.RoundedOnce negative coefficient exponent
      (ctx.finish negative coefficient exponent) := by
    by_cases nonzero : coefficient = 0
    · subst nonzero
      exact .zero rfl
    · obtain ⟨q, t, rounded, finished⟩ := exists_rounded valid negative nonzero exponent
      rw [finished]
      split
      · rename_i beyond
        exact .overflow nonzero rounded beyond
      · rename_i inside
        exact .given nonzero rounded (Int.not_lt.mp inside)
  constructor
  · rintro rfl
    exact once
  · exact once.unique

end Decimal.Context

end StackMachine
