import StackMachine.Proofs.Application
import StackMachine.Proofs.DecimalRounding
import StackMachine.Proofs.Products

/-!
# When MULT is a single product

The product is accumulated from one, so the first factor is multiplied, and rounded, by
itself before the second comes in. This shows exactly when the first factor does not fit
into the context of decimals: then some second factor leads to another outcome than the
product of the two. Doubles and complex numbers are left out.
-/

namespace StackMachine

namespace Decimal.Context

variable {ctx : Context} {negative : Bool} {coefficient : Nat} {exponent : Int}

/-- The context holds the number `± coefficient * 10 ^ exponent` as it is written. -/
def Fits (ctx : Context) (coefficient : Nat) (exponent : Int) : Prop :=
  ctx.leastExponent ≤ exponent ∧
    if coefficient = 0 then exponent ≤ ctx.greatestPower
    else digitCount coefficient ≤ ctx.precision ∧
      leadingPower coefficient exponent ≤ ctx.greatestPower

instance (ctx : Context) (coefficient : Nat) (exponent : Int) :
    Decidable (ctx.Fits coefficient exponent) :=
  inferInstanceAs (Decidable (_ ∧ if coefficient = 0 then _ else _ ∧ _))

theorem finish_of_fits (valid : ctx.Valid) (fits : ctx.Fits coefficient exponent) :
    ctx.finish negative coefficient exponent = .ok (.finite negative coefficient exponent) := by
  obtain ⟨low, high⟩ := fits
  by_cases zero : coefficient = 0
  · rw [if_pos zero] at high
    subst zero
    rw [finish, if_pos rfl, Int.max_eq_left low, Int.min_eq_left high]
  · rw [if_neg zero] at high
    exact (finish_eq_iff valid).mpr (.given zero (ctx.rounded_self low high.1) high.2)

/-- A number that does not fit is refused or given another exponent. -/
theorem finish_of_not_fits (valid : ctx.Valid) (unfit : ¬ ctx.Fits coefficient exponent) :
    ctx.finish negative coefficient exponent = .error .overflow ∨
      ∃ q t, ctx.finish negative coefficient exponent = .ok (.finite negative q t) ∧
        t ≠ exponent := by
  have ordered := valid.ordered
  have precise := valid.precise
  have outcome : ctx.RoundedOnce negative coefficient exponent
      (ctx.finish negative coefficient exponent) := (finish_eq_iff valid).mp rfl
  cases result : ctx.finish negative coefficient exponent with
  | error signal =>
    rw [result] at outcome
    cases outcome
    exact Or.inl rfl
  | ok d =>
    rw [result] at outcome
    refine Or.inr ?_
    cases outcome with
    | zero isZero =>
      refine ⟨0, _, rfl, fun same => unfit ⟨?_, ?_⟩⟩
      · simp only [leastExponent] at same ⊢
        omega
      · rw [if_pos isZero]
        omega
    | @given q t nonzero rounded inside =>
      refine ⟨q, t, rfl, ?_⟩
      rintro rfl
      have start := rounded.start
      have whole : q = coefficient := by
        have nearest := rounded.nearest
        rw [Int.sub_self] at nearest
        exact nearest.unique (isNearest_one coefficient) Nat.one_pos
      subst whole
      refine unfit ⟨by omega, ?_⟩
      rw [if_neg nonzero]
      exact ⟨digitCount_le precise rounded.short, inside⟩

end Decimal.Context

namespace Number

def isExact : Number → Bool
  | .int _ | .rational _ | .decimal (.finite _ _ _) => true
  | _ => false

/-- A decimal fits into the standard context; other numbers need not. -/
def Fits : Number → Prop
  | .decimal (.finite _ coefficient exponent) => Decimal.Context.standard.Fits coefficient exponent
  | _ => True

def ofResult : Except Decimal.Signal Decimal → Except Failure Number
  | .ok d => .ok (.decimal d)
  | .error signal => .error (.decimal signal)

variable {a b : Number}

/-- An integer and a decimal, or two decimals, have one product, which is rounded once. -/
theorem mul_of_decimals {s t : Bool} {c d : Nat} {e f : Int}
    (both : decimals? a b = some (.finite s c e, .finite t d f)) :
    mul a b = ofResult (Decimal.Context.standard.finish (s != t) (c * d) (e + f)) := by
  have product : ∀ x y, decimals? a b = some (x, y) → mul a b = mulDecimal x y := by
    intro x y same
    cases a <;> cases b <;> cases same <;> rfl
  rw [product _ _ both, mulDecimal, Decimal.Context.mul]
  split <;> rename_i result <;> rw [result] <;> rfl

theorem one_mul_decimal (s : Bool) (c : Nat) (e : Int) :
    mul (.int 1) (.decimal (.finite s c e)) =
      ofResult (Decimal.Context.standard.finish s c e) := by
  have both : decimals? (.int 1) (.decimal (.finite s c e)) =
      some (.finite false 1 0, .finite s c e) := rfl
  rw [mul_of_decimals both, Bool.false_bne, Nat.one_mul, Int.zero_add]

theorem product_eq (a b : Number) : product a b = (mul (.int 1) a).bind fun step => mul step b := by
  unfold product
  cases mul (.int 1) a <;> rfl

theorem one_mul_of_fits (known : a.isExact = true) (fits : a.Fits) : mul (.int 1) a = .ok a := by
  cases a with
  | int n => rw [mul, Int.one_mul]
  | rational q =>
    have one : Rat.ofInt 1 * q = q := Rat.one_mul q
    rw [mul, one]
  | decimal d =>
    cases d with
    | finite s c e =>
      rw [one_mul_decimal, Decimal.Context.finish_of_fits Decimal.Context.valid_standard fits]
      rfl
    | infinite | nan => cases known
  | float | complex => cases known

/-- A first factor that fits leaves the product to one multiplication. -/
theorem product_of_fits (known : a.isExact = true) (fits : a.Fits) (b : Number) :
    product a b = mul a b := by
  rw [product_eq, one_mul_of_fits known fits]
  rfl

/-- The product of a first factor that does not fit and a zero of the opposite exponent is another
zero, or is refused, where one multiplication gives a plain zero. -/
theorem exists_product_ne (known : a.isExact = true) (unfit : ¬ a.Fits) :
    ∃ b n, b.isExact = true ∧ mul a b = .ok n ∧ product a b ≠ .ok n := by
  cases a with
  | int | rational => exact absurd trivial unfit
  | float | complex => cases known
  | decimal d =>
    cases d with
    | infinite | nan => cases known
    | finite s c e =>
      have zero : ∀ q t, mul (.decimal (.finite s q t)) (.decimal (.finite false 0 (-e))) =
          .ok (.decimal (.finite s 0 (min (max (t + -e) (-1000026)) 999999))) := by
        intro q t
        rw [mul_of_decimals rfl, Bool.bne_false, Nat.mul_zero]
        rfl
      refine ⟨.decimal (.finite false 0 (-e)), _, rfl, zero c e, ?_⟩
      rw [product_eq, one_mul_decimal]
      rcases Decimal.Context.finish_of_not_fits Decimal.Context.valid_standard unfit with
        refused | ⟨q, t, rounded, moved⟩
      · rw [refused]
        exact fun same => nomatch same
      · rw [rounded]
        intro same
        have both := (zero q t).symm.trans same
        simp only [Except.ok.injEq, Number.decimal.injEq, Decimal.finite.injEq, true_and] at both
        omega

end Number

theorem Value.number?_ofNumber (a : Number) : (Value.ofNumber a).number? = some a := by
  cases a <;> rfl

namespace Machine

/-- What is left of a machine when the two numbers on top of its stack have been multiplied, with
this outcome. -/
def multiplied (m : Machine) (a b : Number) (rest : List Value) :
    Except Number.Failure Number → Applied
  | .ok product => (m.withStack (.ofNumber product :: rest), .ok "")
  | .error failure => (m.withStack rest, .error (.ofProduct (.ofNumber a) (.ofNumber b) failure))

variable {m : Machine} {a b : Number} {rest : List Value}

theorem eq_ok_of_multiplied {result : Except Number.Failure Number} {product : Number}
    (same : m.multiplied a b rest result = m.multiplied a b rest (.ok product)) :
    result = .ok product := by
  cases result with
  | error failure => cases congrArg Prod.snd same
  | ok other =>
    have left := congrArg (fun outcome : Applied => outcome.1.stack) same
    have heads : Value.ofNumber other = Value.ofNumber product := (List.cons.inj left).1
    have numbers := congrArg Value.number? heads
    rw [Value.number?_ofNumber, Value.number?_ofNumber] at numbers
    rw [Option.some.inj numbers]

/-- MULT accumulates the product of two numbers from one. -/
theorem apply_mult_of_numbers (top : m.stack = .ofNumber a :: .ofNumber b :: rest) (view : View)
    (self : MachineId) (operands : List Value) :
    m.apply view self .mult operands = m.multiplied a b rest (Number.product a b) := by
  have outcome : m.apply view self .mult operands = _ := applyMult_of_top top
  rw [outcome]
  simp only [multiply, Value.number?_ofNumber]
  cases Number.product a b <;> rfl

/-- For integers, rationals and finite decimals, MULT is one multiplication of the two numbers if
the first fits into the context, and otherwise there is a second for which it is not. That
multiplication rounds the exact product of decimals once. MULT itself rounds a decimal that comes
first, and then multiplies what this gives. -/
theorem mult_single_product (a : Number) (known : a.isExact = true) :
    (a.Fits → ∀ (b : Number) (m : Machine) (rest : List Value),
      m.stack = .ofNumber a :: .ofNumber b :: rest → ∀ view self operands,
        m.apply view self .mult operands = m.multiplied a b rest (Number.mul a b)) ∧
    (¬ a.Fits → ∃ b : Number, b.isExact = true ∧ ∀ (m : Machine) (rest : List Value),
      m.stack = .ofNumber a :: .ofNumber b :: rest → ∀ view self operands,
        m.apply view self .mult operands ≠ m.multiplied a b rest (Number.mul a b)) ∧
    (∀ (b : Number) (s t : Bool) (c d : Nat) (e f : Int),
      Number.decimals? a b = some (.finite s c e, .finite t d f) →
        ∃ result, Decimal.Context.standard.RoundedOnce (s != t) (c * d) (e + f) result ∧
          Number.mul a b = Number.ofResult result) ∧
    (∀ (s : Bool) (c : Nat) (e : Int), a = .decimal (.finite s c e) →
      ∃ result, Decimal.Context.standard.RoundedOnce s c e result ∧
        ∀ (b : Number) (m : Machine) (rest : List Value),
          m.stack = .ofNumber a :: .ofNumber b :: rest → ∀ view self operands,
            m.apply view self .mult operands =
              m.multiplied a b rest ((Number.ofResult result).bind fun step => step.mul b)) := by
  have valid := Decimal.Context.valid_standard
  refine ⟨?_, ?_, ?_, ?_⟩
  · intro fits b m rest top view self operands
    rw [apply_mult_of_numbers top, Number.product_of_fits known fits]
  · intro unfit
    obtain ⟨b, n, known', single, other⟩ := Number.exists_product_ne known unfit
    refine ⟨b, known', fun m rest top view self operands same => ?_⟩
    rw [apply_mult_of_numbers top, single] at same
    exact other (eq_ok_of_multiplied same)
  · intro b s t c d e f both
    exact ⟨_, (Decimal.Context.finish_eq_iff valid).mp rfl, Number.mul_of_decimals both⟩
  · rintro s c e rfl
    refine ⟨_, (Decimal.Context.finish_eq_iff valid).mp rfl, ?_⟩
    intro b m rest top view self operands
    rw [apply_mult_of_numbers top, Number.product_eq, Number.one_mul_decimal]

/-- A first factor of two digits, and a second of more than the context has: the product is
rounded once. -/
theorem mult_single_product_long :
    let a : Number := .decimal (.finite false 15 (-1))
    let b : Number := .decimal (.finite false 10000000000000000000000000005 (-28))
    let m : Machine := { slots := #[none], stack := [.ofNumber a, .ofNumber b] }
    a.isExact = true ∧ a.Fits ∧ ∀ view, m.apply view 0 .mult [] =
      ({ m with stack := [.decimal (.finite false 1500000000000000000000000001 (-27))] },
        .ok "") := by
  intro a b m
  have fits : a.Fits := (by decide : Decimal.Context.standard.Fits 15 (-1))
  exact ⟨rfl, fits, fun view => (mult_single_product a rfl).1 fits b m [] rfl view 0 []⟩

/-- It is not true that MULT is one multiplication of the two numbers: a first factor of more
digits than the context has is rounded before the second comes in. -/
theorem mult_rounds_twice :
    ¬ ∀ a b : Number, a.isExact = true → b.isExact = true → ∀ (m : Machine) (rest : List Value),
      m.stack = .ofNumber a :: .ofNumber b :: rest → ∀ view self operands,
        m.apply view self .mult operands = m.multiplied a b rest (Number.mul a b) := by
  intro single
  let a : Number := .decimal (.finite false 10000000000000000000000000005 (-28))
  let m : Machine := { slots := #[none], stack := [.ofNumber a, .int 3] }
  have same := single a (.int 3) rfl rfl m [] rfl (fun _ => default) 0 []
  have once : Number.mul a (.int 3) =
      .ok (.decimal (.finite false 3000000000000000000000000002 (-27))) := rfl
  have twice : Number.product a (.int 3) =
      .ok (.decimal (.finite false 3000000000000000000000000000 (-27))) := rfl
  have top : m.stack = .ofNumber a :: .ofNumber (.int 3) :: [] := rfl
  rw [apply_mult_of_numbers top, once] at same
  cases twice.symm.trans (eq_ok_of_multiplied same)

end Machine

end StackMachine
