import StackMachine.Proofs.Insertion

/-!
# Values without references

A value that holds no machine and no instruction has one text, whatever the machines
are doing. So an operation on values of this kind sees neither the other machines nor
the depth of its own stack, and takes nothing from below the values it finds there.
Values that do refer to machines are not considered.
-/

namespace StackMachine

namespace Value

mutual

/-- Whether a value holds no reference to a machine or an instruction. -/
def isSelfContained : Value → Bool
  | .list items => areSelfContained items
  | .tuple items => areSelfContained items
  | .mapping entries => haveSelfContained entries
  | .machine _ => false
  | .instruction _ _ _ _ => false
  | _ => true

def areSelfContained : List Value → Bool
  | [] => true
  | v :: rest => isSelfContained v && areSelfContained rest

def haveSelfContained : List (Value × Value) → Bool
  | [] => true
  | (k, v) :: rest => isSelfContained k && isSelfContained v && haveSelfContained rest

end

theorem areSelfContained_cons {v : Value} {rest : List Value} :
    areSelfContained (v :: rest) = true ↔
      v.isSelfContained = true ∧ areSelfContained rest = true := by
  rw [areSelfContained, Bool.and_eq_true]

theorem isSelfContained_ofNumber (n : Number) : (ofNumber n).isSelfContained = true := by
  cases n <;> rfl

mutual

/-- The literal of a value without references does not depend on the machines. -/
theorem literal?_view (view other : View) (v : Value) (free : v.isSelfContained = true) :
    v.literal? view = v.literal? other := by
  cases v with
  | list items =>
    rw [isSelfContained] at free
    rw [literal?, literal?, literals?_view view other items free]
  | tuple items =>
    rw [isSelfContained] at free
    rw [literal?, literal?, literals?_view view other items free]
  | mapping entries =>
    rw [isSelfContained] at free
    rw [literal?, literal?, entryLiterals?_view view other entries free]
  | machine id => cases free
  | instruction serial owner op operands => cases free
  | _ => rfl

theorem literals?_view (view other : View) (vs : List Value) (free : areSelfContained vs = true) :
    literals? view vs = literals? other vs := by
  cases vs with
  | nil => rfl
  | cons v rest =>
    obtain ⟨first, others⟩ := areSelfContained_cons.mp free
    rw [literals?, literals?, literal?_view view other v first,
      literals?_view view other rest others]

theorem entryLiterals?_view (view other : View) (entries : List (Value × Value))
    (free : haveSelfContained entries = true) :
    entryLiterals? view entries = entryLiterals? other entries := by
  match entries with
  | [] => rfl
  | (k, v) :: rest =>
    rw [haveSelfContained, Bool.and_eq_true, Bool.and_eq_true] at free
    obtain ⟨⟨key, value⟩, others⟩ := free
    rw [entryLiterals?, entryLiterals?, literal?_view view other k key,
      literal?_view view other v value, entryLiterals?_view view other rest others]

end

theorem display?_view (view other : View) (v : Value) (free : v.isSelfContained = true) :
    v.display? view = v.display? other := by
  have literal := literal?_view view other v free
  cases v with
  | text s => rfl
  | decimal d => rfl
  | rational q => rfl
  | opcode op => rfl
  | _ => exact literal

end Value

theorem Fault.showing_view (view other : View) {v : Value} (free : v.isSelfContained = true)
    (fault : String → Fault) : Fault.showing view v fault = Fault.showing other v fault := by
  rw [Fault.showing, Fault.showing, Value.literal?_view view other v free]

theorem Instruction.bind_view (view other : View) (owner : MachineId) {name : Value}
    (operands : List Value) (free : name.isSelfContained = true) :
    bind view owner name operands = bind other owner name operands := by
  rw [bind, bind, Fault.showing_view view other free]

theorem Instruction.text?_view (view other : View) {i : Instruction}
    (free : Value.areSelfContained i.operands = true) : i.text? view = i.text? other := by
  rw [text?, text?, Value.literals?_view view other _ free]

namespace Machine

variable {m next : Machine} {id : MachineId}

/-- No value on the stack and no operand in a slot refers to a machine or an instruction. -/
structure SelfContained (m : Machine) : Prop where
  stack : Value.areSelfContained m.stack = true
  slots : ∀ (address : Nat) (i : Instruction), m.slots[address]? = some (some i) →
    Value.areSelfContained i.operands = true

theorem SelfContained.of_slots (free : m.SelfContained) (slots : next.slots = m.slots)
    (stack : Value.areSelfContained next.stack = true) : next.SelfContained :=
  ⟨stack, by rw [slots]; exact free.slots⟩

theorem setAddress_view (view other : View) (m : Machine) {address : Value}
    (free : address.isSelfContained = true) :
    m.setAddress view address = m.setAddress other address := by
  have shown := Fault.showing_view view other free .invalidAddress
  cases address with
  | int a => rfl
  | _ => exact congrArg Except.error shown

theorem setRunning_view (view other : View) (m : Machine) {flag : Value}
    (free : flag.isSelfContained = true) :
    m.setRunning view flag = m.setRunning other flag := by
  have shown := Fault.showing_view view other free .invalidRunningState
  cases flag with
  | bool b => rfl
  | _ => exact congrArg Except.error shown

theorem multiply_view (view other : View) {first second : Value}
    (left : first.isSelfContained = true) (right : second.isSelfContained = true) :
    multiply view first second = multiply other first second := by
  rw [multiply, multiply, Fault.showing_view view other left,
    Fault.showing_view view other right]

theorem printed_view (view other : View) (stream : Stream) {v : Value}
    (free : v.isSelfContained = true) : printed view stream v = printed other stream v := by
  rw [printed, printed, Value.display?_view view other v free]

theorem insert_view (view other : View) (self : MachineId) (m : Machine) {name : Value}
    {operands : List Value} (named : name.isSelfContained = true)
    (free : Value.areSelfContained operands = true) :
    m.insert view self name operands = m.insert other self name operands := by
  rw [insert, insert, Instruction.bind_view view other self operands named]
  split
  · rfl
  · cases bound : Instruction.bind other self name operands with
    | error fault => rfl
    | ok i =>
      obtain ⟨op, -, -, rfl⟩ := Instruction.bind_eq_ok_iff.mp bound
      have shown := Instruction.text?_view view other (i := ⟨self, op, operands⟩) free
      simp only [shown]

/-- The machine with further values below those on its stack. -/
def underlaid (below : List Value) (m : Machine) : Machine := m.withStack (m.stack ++ below)

theorem underlaid_nil (m : Machine) : m.underlaid [] = m := by
  rw [underlaid, List.append_nil, withStack]

theorem setAddress_underlaid (view other : View) (m : Machine) (below : List Value)
    {address : Value} (free : address.isSelfContained = true) :
    (m.underlaid below).setAddress other address =
      (m.setAddress view address).map (underlaid below) := by
  rw [setAddress_view view other m free]
  cases address with
  | int a =>
    simp only [setAddress]
    change (if 0 ≤ a ∧ a ≤ m.limit then _ else _) = _
    split
    · rfl
    · split <;> rfl
  | _ => rfl

section Application

variable {view : View} {self : MachineId} {operands : List Value} {op : Opcode}
  {result : Except Fault String}

/-- An operation comes to the same among other machines, and also with other values below those
on the stack, if it finds the values it takes above them. -/
theorem Application.underlay (h : m.Application view self operands op next result)
    (stack : Value.areSelfContained m.stack = true)
    (given : Value.areSelfContained operands = true) (below : List Value)
    (enough : below = [] ∨ op.effect.pops ≤ m.stack.length) (other : View) :
    (m.underlaid below).Application other self operands op (next.underlaid below) result := by
  have jumps : ∀ (rest : List Value) {address : Value}, address.isSelfContained = true →
      ((m.withStack rest).underlaid below).setAddress
        (((m.withStack rest).underlaid below).seenFrom other self) address =
        ((m.withStack rest).setAddress ((m.withStack rest).seenFrom view self) address).map
          (underlaid below) :=
    fun rest _ free => setAddress_underlaid _ _ (m.withStack rest) below free
  cases h with
  | exceeded short =>
    rcases enough with rfl | enough
    · rw [underlaid_nil]
      exact .exceeded short
    · omega
  | unequipped needed absent => exact .unequipped needed absent
  | @multiplied first second product rest top value =>
    rw [top, Value.areSelfContained_cons, Value.areSelfContained_cons] at stack
    have deeper : (m.underlaid below).stack = first :: second :: (rest ++ below) :=
      congrArg (· ++ below) top
    exact .multiplied deeper ((multiply_view _ _ stack.1 stack.2.1).trans value)
  | @unmultiplied first second rest fault top value =>
    rw [top, Value.areSelfContained_cons, Value.areSelfContained_cons] at stack
    have deeper : (m.underlaid below).stack = first :: second :: (rest ++ below) :=
      congrArg (· ++ below) top
    exact .unmultiplied deeper ((multiply_view _ _ stack.1 stack.2.1).trans value)
  | called target jump =>
    subst target
    have address := (Value.areSelfContained_cons.mp given).1
    refine .called rfl ?_
    rw [setAddress_underlaid _ _ m below address, jump]
    rfl
  | uncalled target jump =>
    subst target
    have address := (Value.areSelfContained_cons.mp given).1
    refine .uncalled rfl ?_
    rw [setAddress_underlaid _ _ m below address, jump]
    rfl
  | @returned address rest _ top jump =>
    rw [top, Value.areSelfContained_cons] at stack
    have deeper : (m.underlaid below).stack = address :: (rest ++ below) :=
      congrArg (· ++ below) top
    have moved := jumps rest stack.1
    rw [jump] at moved
    exact .returned deeper moved
  | @unreturned address rest fault top jump =>
    rw [top, Value.areSelfContained_cons] at stack
    have deeper : (m.underlaid below).stack = address :: (rest ++ below) :=
      congrArg (· ++ below) top
    have refused := jumps rest stack.1
    rw [jump] at refused
    exact .unreturned deeper refused
  | stopped => exact .stopped
  | @shown v rest _ top line =>
    rw [top, Value.areSelfContained_cons] at stack
    have deeper : (m.underlaid below).stack = v :: (rest ++ below) := congrArg (· ++ below) top
    exact .shown deeper ((printed_view _ _ _ stack.1).trans line)
  | pushed value => exact .pushed value

/-- What an operation leaves on the stack is again without references. -/
theorem Application.selfContained (h : m.Application view self operands op next result)
    (stack : Value.areSelfContained m.stack = true)
    (given : Value.areSelfContained operands = true) :
    Value.areSelfContained next.stack = true := by
  cases h with
  | exceeded | unequipped | uncalled | stopped => exact stack
  | multiplied top value =>
    rw [top, Value.areSelfContained_cons, Value.areSelfContained_cons] at stack
    refine Value.areSelfContained_cons.mpr ⟨?_, stack.2.2⟩
    unfold multiply at value
    split at value
    · split at value
      · cases value
        exact Value.isSelfContained_ofNumber _
      · cases value
    · cases value
    · cases value
  | unmultiplied top value =>
    rw [top, Value.areSelfContained_cons, Value.areSelfContained_cons] at stack
    exact stack.2.2
  | called target jump =>
    obtain ⟨a, -, -, -, rfl⟩ := setAddress_eq_ok_iff.mp jump
    exact stack
  | returned top jump =>
    rw [top, Value.areSelfContained_cons] at stack
    obtain ⟨a, -, -, -, rfl⟩ := setAddress_eq_ok_iff.mp jump
    exact stack.2
  | unreturned top jump =>
    rw [top, Value.areSelfContained_cons] at stack
    exact stack.2
  | shown top line =>
    rw [top, Value.areSelfContained_cons] at stack
    exact stack.2
  | pushed value =>
    subst value
    exact Value.areSelfContained_cons.mpr ⟨(Value.areSelfContained_cons.mp given).1, stack⟩

end Application

end Machine

end StackMachine
