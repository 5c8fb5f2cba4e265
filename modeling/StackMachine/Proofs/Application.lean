import StackMachine.Proofs.Writable

/-! # What applying an operation comes to

One relation lists every outcome of applying an operation to a machine, with the
condition under which it arises, and is shown to be exactly the function. What is
kept by all operations is read off this list. Whether a product or an address is
refused is left to the functions that decide it. -/

namespace StackMachine.Machine

def withStack (m : Machine) (stack : List Value) : Machine := { m with stack := stack }

/-- Every outcome of applying an operation: the machine that is left, and the text that is
printed or the fault. -/
inductive Application (view : View) (self : MachineId) (m : Machine) (operands : List Value) :
    Opcode → Machine → Except Fault String → Prop
  | exceeded {op : Opcode} (short : m.stack.length < op.effect.pops) :
      Application view self m operands op m
        (.error (.stackExceeded (toString op.effect.pops) m.stack.length))
  | unequipped {op : Opcode} (needed : 0 < op.arity) (absent : operands = []) :
      Application view self m operands op m (.error .missingOperand)
  | multiplied {first second product : Value} {rest : List Value}
      (top : m.stack = first :: second :: rest)
      (value : multiply ((m.withStack rest).seenFrom view self) first second = .ok product) :
      Application view self m operands .mult (m.withStack (product :: rest)) (.ok "")
  | unmultiplied {first second : Value} {rest : List Value} {fault : Fault}
      (top : m.stack = first :: second :: rest)
      (value : multiply ((m.withStack rest).seenFrom view self) first second = .error fault) :
      Application view self m operands .mult (m.withStack rest) (.error fault)
  | called {address : Value} {more : List Value} {next : Machine}
      (given : operands = address :: more)
      (jump : m.setAddress (m.seenFrom view self) address = .ok next) :
      Application view self m operands .call next (.ok "")
  | uncalled {address : Value} {more : List Value} {fault : Fault}
      (given : operands = address :: more)
      (jump : m.setAddress (m.seenFrom view self) address = .error fault) :
      Application view self m operands .call m (.error fault)
  | returned {address : Value} {rest : List Value} {next : Machine}
      (top : m.stack = address :: rest)
      (jump : (m.withStack rest).setAddress ((m.withStack rest).seenFrom view self) address =
        .ok next) :
      Application view self m operands .ret next (.ok "")
  | unreturned {address : Value} {rest : List Value} {fault : Fault}
      (top : m.stack = address :: rest)
      (jump : (m.withStack rest).setAddress ((m.withStack rest).seenFrom view self) address =
        .error fault) :
      Application view self m operands .ret (m.withStack rest) (.error fault)
  | stopped :
      Application view self m operands .stop { m with running := false } (.ok "")
  | shown {v : Value} {rest : List Value} {result : Except Fault String}
      (top : m.stack = v :: rest)
      (line : printed ((m.withStack rest).seenFrom view self) m.stream v = result) :
      Application view self m operands .print (m.withStack rest) result
  | pushed {v : Value} {more : List Value} (given : operands = v :: more) :
      Application view self m operands .push (m.withStack (v :: m.stack)) (.ok "")

variable {view : View} {self : MachineId} {m : Machine} {operands : List Value}

/-- What is taken from the stack was on top of it, and nothing else changes. -/
theorem pop_eq_ok {next : Machine} {count : Value} {values : List Value}
    (h : m.pop count = .ok (values, next)) :
    m.stack = values ++ next.stack ∧ next = m.withStack next.stack := by
  have taken : ∀ wanted (n : Int), m.popCount wanted n = .ok (values, next) →
      m.stack = values ++ next.stack ∧ next = m.withStack next.stack := by
    intro wanted n hn
    refine ⟨stack_of_popCount hn, ?_⟩
    unfold popCount at hn
    split at hn
    · cases hn
    · cases hn
      rfl
  cases count with
  | int n => exact taken _ n h
  | bool b => exact taken _ _ h
  | decimal d =>
    simp only [pop] at h
    split at h <;> cases h
  | _ => cases h

theorem taking_of_lt {count : Nat} (next : List Value → Machine → Applied)
    (short : m.stack.length < count) (fits : count ≤ indexLimit) :
    m.taking count next = (m, .error (.stackExceeded (toString count) m.stack.length)) := by
  have low : (m.stack.length : Int) < (count : Int) := by omega
  simp only [taking, pop, popCount, if_pos low, Integer.text?_of_index fits, exceeded]

/-- Taking no more values than there are splits the stack. -/
theorem taking_of_append (values : List Value) {rest : List Value} {count : Nat}
    (next : List Value → Machine → Applied)
    (top : m.stack = values ++ rest) (size : values.length = count) :
    m.taking count next = next values (m.withStack rest) := by
  subst size
  have high : ¬ ((values ++ rest).length : Int) < (values.length : Int) := by
    rw [List.length_append]
    omega
  simp only [taking, pop, popCount, top, if_neg high, Int.toNat_natCast, List.take_left,
    List.drop_left, withStack]

theorem applyMult_of_top {first second : Value} {rest : List Value}
    (top : m.stack = first :: second :: rest) :
    m.applyMult view self =
      match multiply ((m.withStack rest).seenFrom view self) first second with
      | .ok product => (m.withStack (product :: rest), .ok "")
      | .error fault => (m.withStack rest, .error fault) :=
  taking_of_append [first, second] _ top rfl

theorem applyRet_of_top {address : Value} {rest : List Value} (top : m.stack = address :: rest) :
    m.applyRet view self = (m.withStack rest).silent
      ((m.withStack rest).setAddress ((m.withStack rest).seenFrom view self) address) :=
  taking_of_append [address] _ top rfl

theorem applyPrint_of_top {v : Value} {rest : List Value} (top : m.stack = v :: rest) :
    m.applyPrint view self =
      (m.withStack rest, printed ((m.withStack rest).seenFrom view self) m.stream v) :=
  taking_of_append [v] _ top rfl

theorem application_apply (view : View) (self : MachineId) (op : Opcode) (operands : List Value)
    (m : Machine) : Application view self m operands op (m.apply view self op operands).1
      (m.apply view self op operands).2 := by
  cases op with
  | mult =>
    change Application view self m operands .mult (m.applyMult view self).1
      (m.applyMult view self).2
    match top : m.stack with
    | [] | [_] =>
      have short : m.stack.length < Opcode.mult.effect.pops := by simp [top, Opcode.effect]
      rw [applyMult, taking_of_lt _ short (by decide)]
      exact .exceeded short
    | first :: second :: rest =>
      rw [applyMult_of_top top]
      cases value : multiply ((m.withStack rest).seenFrom view self) first second with
      | ok product => exact .multiplied top value
      | error fault => exact .unmultiplied top value
  | call =>
    cases operands with
    | nil => exact .unequipped (by decide) rfl
    | cons address more =>
      simp only [apply, applyCall]
      cases jump : m.setAddress (m.seenFrom view self) address with
      | ok next => exact .called rfl jump
      | error fault => exact .uncalled rfl jump
  | ret =>
    change Application view self m operands .ret (m.applyRet view self).1 (m.applyRet view self).2
    cases top : m.stack with
    | nil =>
      have short : m.stack.length < Opcode.ret.effect.pops := by rw [top]; decide
      rw [applyRet, taking_of_lt _ short (by decide)]
      exact .exceeded short
    | cons address rest =>
      rw [applyRet_of_top top]
      cases jump : (m.withStack rest).setAddress ((m.withStack rest).seenFrom view self)
        address with
      | ok next => exact .returned top jump
      | error fault => exact .unreturned top jump
  | stop => exact .stopped
  | print =>
    change Application view self m operands .print (m.applyPrint view self).1
      (m.applyPrint view self).2
    cases top : m.stack with
    | nil =>
      have short : m.stack.length < Opcode.print.effect.pops := by rw [top]; decide
      rw [applyPrint, taking_of_lt _ short (by decide)]
      exact .exceeded short
    | cons v rest =>
      rw [applyPrint_of_top top]
      exact .shown top rfl
  | push =>
    cases operands with
    | nil => exact .unequipped (by decide) rfl
    | cons v more => exact .pushed rfl

/-- The outcomes listed are exactly those of the function. -/
theorem apply_eq_iff {op : Opcode} {next : Machine} {result : Except Fault String} :
    m.apply view self op operands = (next, result) ↔
      Application view self m operands op next result := by
  constructor
  · intro h
    have all := application_apply view self op operands m
    rwa [h] at all
  · intro h
    cases h with
    | exceeded short =>
      cases op with
      | mult => exact taking_of_lt _ short (by decide)
      | ret => exact taking_of_lt _ short (by decide)
      | print => exact taking_of_lt _ short (by decide)
      | call | stop | push => exact absurd short (Nat.not_lt_zero _)
    | unequipped needed absent =>
      subst absent
      cases op with
      | call | push => rfl
      | mult | ret | stop | print => exact absurd needed (Nat.lt_irrefl 0)
    | multiplied top value => exact (applyMult_of_top top).trans (by rw [value])
    | unmultiplied top value => exact (applyMult_of_top top).trans (by rw [value])
    | called given jump => simp only [apply, applyCall, given, jump, silent]
    | uncalled given jump => simp only [apply, applyCall, given, jump, silent]
    | returned top jump => exact (applyRet_of_top top).trans (by rw [jump]; rfl)
    | unreturned top jump => exact (applyRet_of_top top).trans (by rw [jump]; rfl)
    | stopped => rfl
    | shown top line => exact (applyPrint_of_top top).trans (by rw [line])
    | pushed given => simp only [apply, applyPush, given, push, withStack]

theorem Application.of_short {op : Opcode} {next : Machine} {result : Except Fault String}
    (h : Application view self m operands op next result)
    (short : m.stack.length < op.effect.pops) :
    result = .error (.stackExceeded (toString op.effect.pops) m.stack.length) := by
  have same := (apply_eq_iff.mpr h).symm.trans (apply_eq_iff.mpr (.exceeded short))
  exact congrArg Prod.snd same

/-- STOP switches the machine off and does nothing else. -/
theorem Application.of_stop {next : Machine} {result : Except Fault String}
    (h : Application view self m operands .stop next result) :
    next = { m with running := false } ∧ result = .ok "" := by
  have same := (apply_eq_iff.mpr h).symm.trans (apply_eq_iff.mpr .stopped)
  exact ⟨congrArg Prod.fst same, congrArg Prod.snd same⟩

theorem Application.op_ne_stop {op : Opcode} {next : Machine} {fault : Fault}
    (h : Application view self m operands op next (.error fault)) : op ≠ .stop := by
  rintro rfl
  cases h.of_stop.2

/-- An address is taken exactly when it is an integer inside the machine. -/
theorem setAddress_eq_ok_iff {address : Value} {next : Machine} :
    m.setAddress view address = .ok next ↔
      ∃ a : Int, address = .int a ∧ 0 ≤ a ∧ a ≤ m.limit ∧ next = { m with pointer := a.toNat } := by
  cases address with
  | int a =>
    by_cases inside : 0 ≤ a ∧ a ≤ m.limit
    · simp [setAddress, inside, eq_comm]
    · by_cases writable : Integer.isWritable a <;> simp [setAddress, inside, writable]
      all_goals omega
  | _ => simp [setAddress]

/-- No operation changes the slots or the stream. -/
theorem Application.frame {op : Opcode} {next : Machine} {result : Except Fault String}
    (h : Application view self m operands op next result) :
    next.slots = m.slots ∧ next.output = m.output := by
  cases h with
  | called _ jump | returned _ jump =>
    obtain ⟨a, -, -, -, rfl⟩ := setAddress_eq_ok_iff.mp jump
    exact ⟨rfl, rfl⟩
  | _ => exact ⟨rfl, rfl⟩

/-- An operation leaves the pointer where it is or puts it on a slot. -/
theorem Application.pointer {op : Opcode} {next : Machine} {result : Except Fault String}
    (h : Application view self m operands op next result) :
    next.pointer = m.pointer ∨ next.pointer < m.slots.size := by
  cases h with
  | called _ jump | returned _ jump =>
    obtain ⟨a, -, low, high, rfl⟩ := setAddress_eq_ok_iff.mp jump
    right
    simp only [limit, withStack] at high ⊢
    omega
  | _ => exact Or.inl rfl

/-- An operation that fails leaves the pointer where it is. -/
theorem Application.pointer_of_error {op : Opcode} {next : Machine} {fault : Fault}
    (h : Application view self m operands op next (.error fault)) : next.pointer = m.pointer := by
  cases h <;> rfl

/-- Only STOP changes the running flag. -/
theorem Application.running {op : Opcode} {next : Machine} {result : Except Fault String}
    (h : Application view self m operands op next result) (other : op ≠ .stop) :
    next.running = m.running := by
  cases h with
  | stopped => exact absurd rfl other
  | called _ jump | returned _ jump =>
    obtain ⟨a, -, -, -, rfl⟩ := setAddress_eq_ok_iff.mp jump
    rfl
  | _ => rfl

def withSlots (m : Machine) (slots : Array (Option Instruction)) : Machine :=
  { m with slots := slots }

section WithSlots

variable {slots : Array (Option Instruction)}

theorem seenFrom_withSlots (same : slots.size = m.slots.size) :
    (m.withSlots slots).seenFrom view self = m.seenFrom view self := by
  funext id
  simp only [seenFrom, summary, withSlots, same]

theorem setAddress_withSlots {address : Value} (same : slots.size = m.slots.size) :
    (m.withSlots slots).setAddress view address =
      (m.setAddress view address).map fun next => next.withSlots slots := by
  have limit_eq : (m.withSlots slots).limit = m.limit := by
    simp only [limit, withSlots, same]
  cases address with
  | int a =>
    simp only [setAddress, limit_eq]
    split
    · rfl
    · split <;> rfl
  | _ => rfl

/-- Operations see the number of the slots and not what is in them. -/
theorem Application.withSlots {op : Opcode} {next : Machine} {result : Except Fault String}
    (h : Application view self m operands op next result) (same : slots.size = m.slots.size) :
    Application view self (m.withSlots slots) operands op (next.withSlots slots) result := by
  have seen : ∀ rest, ((m.withSlots slots).withStack rest).seenFrom view self =
      (m.withStack rest).seenFrom view self := by
    intro rest
    exact seenFrom_withSlots (m := m.withStack rest) same
  have jumps : ∀ rest address, ((m.withSlots slots).withStack rest).setAddress
      (((m.withSlots slots).withStack rest).seenFrom view self) address =
        ((m.withStack rest).setAddress ((m.withStack rest).seenFrom view self) address).map
          fun next => next.withSlots slots := by
    intro rest address
    rw [seen]
    exact setAddress_withSlots (m := m.withStack rest) same
  cases h with
  | exceeded short => exact .exceeded short
  | unequipped needed absent => exact .unequipped needed absent
  | multiplied top value => exact .multiplied top (by rw [seen]; exact value)
  | unmultiplied top value => exact .unmultiplied top (by rw [seen]; exact value)
  | called given jump =>
    exact .called given (by rw [seenFrom_withSlots same, setAddress_withSlots same, jump]; rfl)
  | uncalled given jump =>
    exact .uncalled given (by rw [seenFrom_withSlots same, setAddress_withSlots same, jump]; rfl)
  | @returned address rest next top jump =>
    have moved := jumps rest address
    rw [jump] at moved
    exact .returned top moved
  | @unreturned address rest fault top jump =>
    have refused := jumps rest address
    rw [jump] at refused
    exact .unreturned top refused
  | stopped => exact .stopped
  | shown top line => exact .shown top (by rw [seen]; exact line)
  | pushed given => exact .pushed given

end WithSlots

end StackMachine.Machine
