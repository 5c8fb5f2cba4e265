import StackMachine.Proofs.SingleProduct

/-!
# What MULT comes to

For any two values on top of the stack, MULT takes them and either leaves one number in their
place or fails, and the kinds of the values say which. A value that is no number comes first,
the upper one before the lower; then a decimal that meets a rational, a double or a complex
number; then a product that cannot be given. The number that is left is not described here, and
values that are no numbers have to be short enough to be shown, however deeply they are nested.
-/

namespace StackMachine

namespace Number

def isDecimal : Number → Bool
  | .decimal _ => true
  | _ => false

/-- Whether a number is of a kind that does not multiply with decimals. -/
def shunsDecimals : Number → Bool
  | .rational _ | .float _ | .complex _ => true
  | .int _ | .decimal _ => false

/-- One of two numbers is a decimal, and the other a rational, a double or a complex number. -/
def Mismatched (a b : Number) : Prop :=
  (a.isDecimal = true ∧ b.shunsDecimals = true) ∨ (a.shunsDecimals = true ∧ b.isDecimal = true)

variable {a b step : Number}

theorem mul_eq_mismatch_iff (a b : Number) : mul a b = .error .mismatch ↔ a.Mismatched b := by
  cases a <;> cases b <;>
    simp [mul, Mismatched, isDecimal, shunsDecimals, mulFloat, mulComplex, complexMul,
      map_eq_error_iff, roundInt_eq_error_iff, roundRat_eq_error_iff, mulDecimal_eq_error_iff]

theorem kind_of_one_mul (h : mul (.int 1) a = .ok step) :
    step.isDecimal = a.isDecimal ∧ step.shunsDecimals = a.shunsDecimals := by
  cases a with
  | int n | rational q =>
    cases h
    exact ⟨rfl, rfl⟩
  | float x =>
    rw [mul, mulFloat] at h
    cases one : roundInt 1 <;> rw [one] at h <;> cases h
    exact ⟨rfl, rfl⟩
  | complex z =>
    rw [mul, mulComplex] at h
    cases one : roundInt 1 <;> rw [one] at h <;> cases h
    exact ⟨rfl, rfl⟩
  | decimal d =>
    rw [mul, mulDecimal] at h
    split at h <;> cases h
    exact ⟨rfl, rfl⟩

/-- An accumulated product is a mismatch exactly when the kinds are, unless the first factor
already signals. -/
theorem product_eq_mismatch_iff (a b : Number) :
    product a b = .error .mismatch ↔ a.Mismatched b ∧ ∃ step, mul (.int 1) a = .ok step := by
  rw [product_eq]
  cases first : mul (.int 1) a with
  | error failure =>
    constructor
    · intro mismatch
      have same : failure = .mismatch := Except.error.inj mismatch
      subst same
      have kinds := (mul_eq_mismatch_iff _ _).mp first
      simp [Mismatched, isDecimal, shunsDecimals] at kinds
    · rintro ⟨-, step, given⟩
      cases given
  | ok step =>
    obtain ⟨decimal, shuns⟩ := kind_of_one_mul first
    change mul step b = .error .mismatch ↔ _
    rw [mul_eq_mismatch_iff, Mismatched, Mismatched, decimal, shuns]
    constructor
    · intro kinds
      exact ⟨kinds, step, rfl⟩
    · rintro ⟨kinds, -⟩
      exact kinds

end Number

namespace Fault

/-- The faults of numbers whose kinds multiply, but whose product cannot be given. -/
def ofArithmetic : List Fault :=
  [.integerTooLarge, .quotientTooLarge, .decimalOverflow, .decimalInvalid]

theorem ofProduct_eq_notMultipliable_iff (first second : Value) (failure : Number.Failure) :
    ofProduct first second failure = .notMultipliable first.kind second.kind ↔
      failure = .mismatch := by
  cases failure with
  | decimal signal => cases signal <;> simp [ofProduct]
  | _ => simp [ofProduct]

theorem ofProduct_mem_ofArithmetic_iff (first second : Value) (failure : Number.Failure) :
    ofProduct first second failure ∈ ofArithmetic ↔ failure ≠ .mismatch := by
  cases failure with
  | decimal signal => cases signal <;> simp [ofProduct, ofArithmetic]
  | _ => simp [ofProduct, ofArithmetic]

end Fault

section Reported

variable (first second : Value) (a b : Number)

/-- A product of numbers as MULT reports it. -/
def reported : Except Fault Number :=
  match Number.product a b with
  | .ok n => .ok n
  | .error failure => .error (.ofProduct first second failure)

theorem reported_mismatch_iff :
    reported first second a b = .error (.notMultipliable first.kind second.kind) ↔
      a.Mismatched b ∧ ∃ step, Number.mul (.int 1) a = .ok step := by
  rw [← Number.product_eq_mismatch_iff, reported]
  cases Number.product a b with
  | error failure => simp [Fault.ofProduct_eq_notMultipliable_iff]
  | ok n => simp

theorem reported_arithmetic_iff :
    (∃ fault ∈ Fault.ofArithmetic, reported first second a b = .error fault) ↔
      a.ProductSignals b := by
  rw [Number.productSignals_iff, reported]
  cases Number.product a b with
  | error failure => simp [Fault.ofProduct_mem_ofArithmetic_iff]
  | ok n => simp

theorem reported_ok_iff :
    (∃ n, reported first second a b = .ok n) ↔
      ¬ (a.Mismatched b ∧ ∃ step, Number.mul (.int 1) a = .ok step) ∧ ¬ a.ProductSignals b := by
  rw [← Number.product_eq_mismatch_iff, Number.productSignals_iff, reported]
  cases Number.product a b with
  | error failure =>
    by_cases mismatch : failure = .mismatch
    · simp [mismatch]
    · simp [mismatch]
  | ok n => simp

end Reported

theorem Value.eq_ofNumber {v : Value} {a : Number} (h : v.number? = some a) : v = .ofNumber a := by
  cases v <;> cases h <;> rfl

namespace Machine

variable {m : Machine} {view : View} {self : MachineId} {operands : List Value}
  {first second : Value} {rest : List Value}

/-- What MULT leaves above the rest of the stack: one number, or nothing and a fault. -/
def settled (m : Machine) (rest : List Value) : Except Fault Number → Applied
  | .ok n => (m.withStack (.ofNumber n :: rest), .ok "")
  | .error fault => (m.withStack rest, .error fault)

/-- The first value that is no number is shown, if it can be. -/
theorem apply_mult_of_nonnumber {v : Value} (top : m.stack = first :: second :: rest)
    (found : [first, second].find? (fun v => !v.isNumber) = some v) (short : v.isWritable = true)
    (operands : List Value) :
    ∃ shown, v.literal? ((m.withStack rest).seenFrom view self) = some shown ∧
      m.apply view self .mult operands = m.settled rest (.error (.notNumeric v.kind shown)) := by
  have written := Value.literal?_isSome ((m.withStack rest).seenFrom view self) v
  rw [short, Option.isSome_iff_exists] at written
  obtain ⟨shown, literal⟩ := written
  have outcome : m.apply view self .mult operands = _ := applyMult_of_top top
  refine ⟨shown, literal, outcome.trans ?_⟩
  have shows : Fault.showing ((m.withStack rest).seenFrom view self) v (.notNumeric v.kind) =
      .notNumeric v.kind shown := by
    rw [Fault.showing, literal]
  cases left : first.number? with
  | none =>
    have same : first = v := by simpa [List.find?, Value.isNumber, left] using found
    subst same
    simp only [multiply, left, shows, settled]
  | some a =>
    cases right : second.number? with
    | none =>
      have same : second = v := by simpa [List.find?, Value.isNumber, left, right] using found
      subst same
      simp only [multiply, left, right, shows, settled]
    | some b => simp [List.find?, Value.isNumber, left, right] at found

/-- Two numbers are settled as their accumulated product is. -/
theorem apply_mult_of_factors {a b : Number} (top : m.stack = first :: second :: rest)
    (left : first.number? = some a) (right : second.number? = some b) (operands : List Value) :
    m.apply view self .mult operands = m.settled rest (reported first second a b) := by
  rw [Value.eq_ofNumber left, Value.eq_ofNumber right] at top ⊢
  rw [apply_mult_of_numbers top, reported]
  cases Number.product a b <;> rfl

/-- MULT takes the two values on top of the stack and leaves the others, if there are two. The
first of them that is no number is a fault that gives its kind and its literal. Two numbers are
a mismatch exactly when one is a decimal, the other is a rational, a double or a complex number,
and one times the first has a product; they are a fault of arithmetic exactly when a step of the
product signals; and in all other cases one number is left. -/
theorem mult_outcome (m : Machine) (view : View) (self : MachineId) (operands : List Value) :
    (m.stack.length < 2 → m.apply view self .mult operands =
      (m, .error (.stackExceeded "2" m.stack.length))) ∧
    ∀ (first second : Value) (rest : List Value), m.stack = first :: second :: rest →
      (∀ v ∈ [first, second], v.isNumber = false → v.isWritable = true) →
      ∃ result, m.apply view self .mult operands = m.settled rest result ∧
        (∀ v, [first, second].find? (fun v => !v.isNumber) = some v →
          ∃ shown, v.literal? ((m.withStack rest).seenFrom view self) = some shown ∧
            result = .error (.notNumeric v.kind shown)) ∧
        (∀ a b, first.number? = some a → second.number? = some b →
          (result = .error (.notMultipliable first.kind second.kind) ↔
            a.Mismatched b ∧ ∃ step, Number.mul (.int 1) a = .ok step) ∧
          ((∃ fault ∈ Fault.ofArithmetic, result = .error fault) ↔ a.ProductSignals b) ∧
          ((∃ n, result = .ok n) ↔
            ¬ (a.Mismatched b ∧ ∃ step, Number.mul (.int 1) a = .ok step) ∧
              ¬ a.ProductSignals b)) := by
  refine ⟨fun short => apply_eq_iff.mpr (.exceeded short), ?_⟩
  intro first second rest top written
  cases found : [first, second].find? (fun v => !v.isNumber) with
  | some v =>
    have other : v.isNumber = false := by simpa using List.find?_some found
    have short := written v (List.mem_of_find?_eq_some found) other
    obtain ⟨shown, literal, outcome⟩ := apply_mult_of_nonnumber top found short operands
    refine ⟨_, outcome, ?_, ?_⟩
    · rintro v' same
      cases same
      exact ⟨shown, literal, rfl⟩
    · intro a b left right
      simp [List.find?, Value.isNumber, left, right] at found
  | none =>
    have numbers : first.isNumber = true ∧ second.isNumber = true := by simpa using found
    obtain ⟨a, left⟩ := Option.isSome_iff_exists.mp numbers.1
    obtain ⟨b, right⟩ := Option.isSome_iff_exists.mp numbers.2
    refine ⟨_, apply_mult_of_factors top left right operands, ?_, ?_⟩
    · rintro v same
      cases same
    · intro a' b' left' right'
      cases left.symm.trans left'
      cases right.symm.trans right'
      exact ⟨reported_mismatch_iff first second a b, reported_arithmetic_iff first second a b,
        reported_ok_iff first second a b⟩

/-- A decimal above a rational is a mismatch, and a truth value above a text is the first of the
two that is no number; what is below is left alone. -/
theorem mult_outcome_mismatch :
    let m (first second : Value) : Machine :=
      { slots := #[none], stack := [first, second, .text "below"] }
    let d : Value := .decimal (.finite false 15 (-1))
    (∀ v ∈ [d, .rational (1 / 2)], v.isNumber = false → v.isWritable = true) ∧
      (∀ v ∈ [Value.bool true, .text "x"], v.isNumber = false → v.isWritable = true) ∧
      ∀ view, (m d (.rational (1 / 2))).apply view 0 .mult [] =
          ((m d (.rational (1 / 2))).withStack [.text "below"],
            .error (.notMultipliable "Decimal" "Fraction")) ∧
        (m (.bool true) (.text "x")).apply view 0 .mult [] =
          ((m (.bool true) (.text "x")).withStack [.text "below"],
            .error (.notNumeric "bool" "True")) := by
  intro m d
  have numbers : ∀ v ∈ [d, .rational (1 / 2)], v.isNumber = false → v.isWritable = true := by
    simp [d, Value.isNumber, Value.number?]
  have short : ∀ v ∈ [Value.bool true, .text "x"], v.isNumber = false → v.isWritable = true := by
    simp [Value.isWritable]
  refine ⟨numbers, short, fun view => ⟨?_, ?_⟩⟩
  · obtain ⟨result, outcome, -, kinds⟩ :=
      (mult_outcome (m d (.rational (1 / 2))) view 0 []).2 _ _ _ rfl numbers
    have mismatch := (kinds _ _ rfl rfl).1.mpr ⟨Or.inl ⟨rfl, rfl⟩, _, rfl⟩
    rw [mismatch] at outcome
    exact outcome
  · obtain ⟨result, outcome, first, -⟩ :=
      (mult_outcome (m (.bool true) (.text "x")) view 0 []).2 _ _ _ rfl short
    obtain ⟨shown, literal, fault⟩ := first _ rfl
    cases literal
    rw [fault] at outcome
    exact outcome

end Machine

end StackMachine
