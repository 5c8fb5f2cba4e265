import StackMachine.Proofs.Writable

/-! # Products that are not given

Two numbers may have no product because their kinds do not multiply, or because the
product, or a factor rounded for it, cannot be given. Only the former is a fault of the
family of machine faults; so is a factor that is no number, if it can be shown, which
only the lengths of integers are taken to prevent. The values of products are not
described here. -/

namespace StackMachine

namespace Number

/-- Whether a number is a double or is made of doubles. -/
def isBinary : Number → Bool
  | .float _ | .complex _ => true
  | _ => false

/-- Whether a number is an integer or a rational that has no nearest double. -/
def exceedsDouble : Number → Bool
  | .int n => (Binary64.ofInt? n).isNone
  | .rational q => (Binary64.ofRat? q).isNone
  | _ => false

/-- The decimals whose product is that of two numbers, if one of these is a decimal. -/
def decimals? : Number → Number → Option (Decimal × Decimal)
  | .int a, .decimal e => some (.ofInt a, e)
  | .decimal d, .int b => some (d, .ofInt b)
  | .decimal d, .decimal e => some (d, e)
  | _, _ => none

/-- The kinds of two numbers multiply, but a factor has no nearest double or the decimal product
signals. -/
def Signals (a b : Number) : Prop :=
  (a.exceedsDouble = true ∧ b.isBinary = true) ∨ (a.isBinary = true ∧ b.exceedsDouble = true) ∨
    ∃ d e signal, decimals? a b = some (d, e) ∧ Decimal.Context.standard.mul d e = .error signal

/-- One of the two steps in which a product is accumulated from one signals. -/
def ProductSignals (a b : Number) : Prop :=
  Signals (.int 1) a ∨ ∃ step, mul (.int 1) a = .ok step ∧ step.Signals b

variable {failure : Failure}

theorem map_eq_error_iff {α β : Type} {f : α → β} {x : Except Failure α} :
    x.map f = .error failure ↔ x = .error failure := by
  cases x <;> simp [Except.map]

theorem roundInt_eq_error_iff {n : Int} :
    roundInt n = .error failure ↔
      (Number.int n).exceedsDouble = true ∧ failure = .integerTooLarge := by
  simp only [roundInt, exceedsDouble]
  cases Binary64.ofInt? n with
  | none => simp [eq_comm]
  | some x => simp

theorem roundRat_eq_error_iff {q : Rat} :
    roundRat q = .error failure ↔
      (Number.rational q).exceedsDouble = true ∧ failure = .quotientTooLarge := by
  simp only [roundRat, exceedsDouble]
  cases Binary64.ofRat? q with
  | none => simp [eq_comm]
  | some x => simp

theorem mulDecimal_eq_error_iff {d e : Decimal} :
    mulDecimal d e = .error failure ↔
      ∃ signal, Decimal.Context.standard.mul d e = .error signal ∧ failure = .decimal signal := by
  unfold mulDecimal
  cases Decimal.Context.standard.mul d e <;> simp [eq_comm]

theorem mulDecimal_signals_iff (d e : Decimal) :
    (∃ d' e' signal, some (d, e) = some (d', e') ∧
        Decimal.Context.standard.mul d' e' = .error signal) ↔
      ∃ failure, failure ≠ .mismatch ∧ mulDecimal d e = .error failure := by
  constructor
  · rintro ⟨d', e', signal, same, error⟩
    cases same
    exact ⟨.decimal signal, by simp, mulDecimal_eq_error_iff.mpr ⟨signal, error, rfl⟩⟩
  · rintro ⟨failure, -, error⟩
    obtain ⟨signal, error, -⟩ := mulDecimal_eq_error_iff.mp error
    exact ⟨d, e, signal, rfl, error⟩

/-- The failures of a product other than a mismatch of kinds. -/
theorem signals_iff (a b : Number) :
    a.Signals b ↔ ∃ failure, failure ≠ .mismatch ∧ mul a b = .error failure := by
  cases a <;> cases b
  case int.decimal | decimal.int | decimal.decimal =>
    simpa [Signals, decimals?, isBinary, mul] using mulDecimal_signals_iff _ _
  -- Without a decimal only the rounding of an integer or a rational can fail.
  all_goals
    simp [Signals, mul, mulFloat, mulComplex, complexMul, map_eq_error_iff, roundInt_eq_error_iff,
      roundRat_eq_error_iff, decimals?, isBinary, exceedsDouble]

theorem productSignals_iff (a b : Number) :
    a.ProductSignals b ↔ ∃ failure, failure ≠ .mismatch ∧ product a b = .error failure := by
  unfold ProductSignals product
  rw [signals_iff]
  cases mul (.int 1) a with
  | error failure => simp
  | ok step => simp [signals_iff]

end Number

/-- Of the faults of products only a mismatch is a machine fault. -/
theorem Fault.isMachineFault_ofProduct (first second : Value) (failure : Number.Failure) :
    (Fault.ofProduct first second failure).isMachineFault = true ↔ failure = .mismatch := by
  cases failure with
  | decimal signal => cases signal <;> simp [ofProduct, isMachineFault, category?]
  | _ => simp [ofProduct, isMachineFault, category?]

/-- A machine fault that shows a value is one exactly when the value can be written. -/
theorem Fault.isMachineFault_showing (view : View) (v : Value) {fault : String → Fault}
    (family : ∀ shown, (fault shown).isMachineFault = true) :
    (Fault.showing view v fault).isMachineFault = v.isWritable := by
  rcases Fault.showing_eq view v fault with ⟨short, shown, same⟩ | ⟨long, same⟩
  · rw [same, short, family]
  · rw [same, long]
    rfl

namespace Machine

/-- Two values cannot be multiplied for a reason outside the family of machine faults: their
product signals, or the first of them that is no number is too long to be shown. -/
def ProductEscapes (first second : Value) : Prop :=
  match first.number?, second.number? with
  | some a, some b => a.ProductSignals b
  | none, _ => first.isWritable = false
  | some _, none => second.isWritable = false

/-- A failed product is no machine fault exactly when it escapes. -/
theorem multiply_error {view : View} {first second : Value} {fault : Fault}
    (h : multiply view first second = .error fault) :
    fault.isMachineFault = false ↔ ProductEscapes first second := by
  unfold ProductEscapes
  cases left : first.number? with
  | none =>
    simp only [multiply, left, Except.error.injEq] at h
    rw [← h, Fault.isMachineFault_showing view first fun _ => rfl]
  | some a =>
    cases right : second.number? with
    | none =>
      simp only [multiply, left, right, Except.error.injEq] at h
      rw [← h, Fault.isMachineFault_showing view second fun _ => rfl]
    | some b =>
      simp only [multiply, left, right] at h
      cases value : Number.product a b with
      | ok n => simp [value] at h
      | error failure =>
        simp only [value, Except.error.injEq] at h
        dsimp only
        rw [← h, ← Bool.not_eq_true, Fault.isMachineFault_ofProduct, Number.productSignals_iff]
        constructor
        · intro kinds
          exact ⟨failure, kinds, value⟩
        · rintro ⟨other, kinds, value'⟩
          cases value.symm.trans value'
          exact kinds

theorem setAddress_error {view : View} {m : Machine} {address : Value} {fault : Fault}
    (h : m.setAddress view address = .error fault) :
    fault.isMachineFault = address.isWritable := by
  cases address with
  | int a =>
    simp only [setAddress] at h
    rw [Value.isWritable]
    split at h
    · cases h
    · split at h
      · rename_i short
        rw [← Except.error.inj h, short]
        rfl
      · rename_i long
        rw [Bool.not_eq_true] at long
        rw [← Except.error.inj h, long]
        rfl
  | _ =>
    rw [← Except.error.inj h]
    exact Fault.isMachineFault_showing view _ fun _ => rfl

/-- An address that cannot be written is refused, since no slot has it. -/
theorem setAddress_of_unwritable {m : Machine} (view : View) {address : Value}
    (fits : m.slots.size ≤ indexLimit) (long : address.isWritable = false) :
    m.setAddress view address = .error .digitLimit := by
  cases address with
  | int a =>
    rw [Value.isWritable] at long
    have outside : ¬ (0 ≤ a ∧ a ≤ m.limit) := by
      rintro ⟨low, high⟩
      rw [limit] at high
      have short : Integer.isWritable a = true := Integer.isWritable_of_index (by omega)
      rw [long] at short
      cases short
    simp only [setAddress, if_neg outside, long, Bool.false_eq_true, if_false]
  | _ =>
    rcases Fault.showing_eq view _ .invalidAddress with ⟨short, -⟩ | ⟨-, same⟩
    · rw [long] at short
      cases short
    · exact congrArg Except.error same

end Machine

end StackMachine
