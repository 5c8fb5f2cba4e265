import StackMachine.Proofs.Turn
import StackMachine.Session

/-! # What storing an instruction comes to

An insertion is refused for want of a slot or of an instruction, and then nothing
changes; or the instruction is stored, and the pointer moves on if the instruction has
a text. One that is stored and has no text is the only failure that leaves a trace,
and the operands alone decide about it: by the lengths of their integers, since they
are assumed not to be nested too deeply for a text. -/

namespace StackMachine

/-- An instruction can be bound exactly when its name is a mnemonic and its operands suffice. -/
theorem Instruction.bind_eq_ok_iff {view : View} {owner : MachineId} {name : Value}
    {operands : List Value} {i : Instruction} :
    bind view owner name operands = .ok i ↔
      ∃ op, name.opcode? = some op ∧ op.arity ≤ operands.length ∧ i = ⟨owner, op, operands⟩ := by
  unfold bind
  cases name.opcode? with
  | none => simp
  | some op =>
    by_cases short : operands.length < op.arity
    · simp [short, Nat.not_le_of_lt short]
    · simp [short, Nat.le_of_not_lt short, eq_comm]

theorem Instruction.bind_of_equipped {name : Value} {operands : List Value} {op : Opcode}
    (view : View) (owner : MachineId) (known : name.opcode? = some op)
    (equipped : op.arity ≤ operands.length) :
    bind view owner name operands = .ok ⟨owner, op, operands⟩ :=
  bind_eq_ok_iff.mpr ⟨op, known, equipped, rfl⟩

namespace Machine

def holding (m : Machine) (i : Instruction) : Machine :=
  { m with slots := m.slots.setIfInBounds m.pointer (some i) }

/-- Every outcome of storing an instruction. -/
inductive Inserting (view : View) (self : MachineId) (name : Value) (operands : List Value)
    (m : Machine) : Insertion → Prop
  | full (past : m.slots.size ≤ m.pointer) :
      Inserting view self name operands m (.refused (.noSlotLeft m.pointer m.limit))
  | unbound {fault : Fault} (room : m.pointer < m.slots.size)
      (refusal : Instruction.bind view self name operands = .error fault) :
      Inserting view self name operands m (.refused fault)
  | unwritten {op : Opcode} (room : m.pointer < m.slots.size) (known : name.opcode? = some op)
      (equipped : op.arity ≤ operands.length) (long : Value.areWritable operands = false) :
      Inserting view self name operands m (.unwritten (m.holding ⟨self, op, operands⟩))
  | stored {op : Opcode} {text : String} (room : m.pointer < m.slots.size)
      (known : name.opcode? = some op) (equipped : op.arity ≤ operands.length)
      (short : Value.areWritable operands = true)
      (shown : (⟨self, op, operands⟩ : Instruction).text? view = some text) :
      Inserting view self name operands m
        (.stored (m.holding ⟨self, op, operands⟩).advanced m.pointer text)

theorem inserting_insert (view : View) (self : MachineId) (name : Value) (operands : List Value)
    (m : Machine) : Inserting view self name operands m (m.insert view self name operands) := by
  unfold insert
  by_cases past : m.slots.size ≤ m.pointer
  · rw [if_pos past]
    exact .full past
  · rw [if_neg past]
    have room : m.pointer < m.slots.size := Nat.lt_of_not_le past
    cases bound : Instruction.bind view self name operands with
    | error fault => exact .unbound room bound
    | ok i =>
      obtain ⟨op, known, equipped, rfl⟩ := Instruction.bind_eq_ok_iff.mp bound
      have writable := Instruction.text?_isSome view ⟨self, op, operands⟩
      dsimp only
      cases shown : (⟨self, op, operands⟩ : Instruction).text? view with
      | none =>
        rw [shown] at writable
        exact .unwritten room known equipped writable.symm
      | some text =>
        rw [shown] at writable
        exact .stored room known equipped writable.symm shown

theorem inserting_of_eq {view : View} {self : MachineId} {name : Value} {operands : List Value}
    {m : Machine} {insertion : Insertion} (same : m.insert view self name operands = insertion) :
    Inserting view self name operands m insertion :=
  same ▸ inserting_insert view self name operands m

/-- The instruction would be stored, were it not that an operand is too long to be written. That
this is the only way to tear an insertion assumes room for nested texts. -/
def Tears (name : Value) (operands : List Value) (m : Machine) : Prop :=
  m.pointer < m.slots.size ∧ (∃ op, name.opcode? = some op ∧ op.arity ≤ operands.length) ∧
    ∃ v ∈ operands, v.isWritable = false

theorem exists_unwritable {operands : List Value} :
    (∃ v ∈ operands, v.isWritable = false) ↔ Value.areWritable operands = false := by
  rw [← Bool.not_eq_true, Value.areWritable_iff]
  simp

end Machine

namespace Session

variable {s : Session} {id : MachineId} {m : Machine} {name : Value} {operands : List Value}

/-- Where an insertion tears, the slot is written, the pointer stays, and the insertion fails. -/
theorem insert_of_unwritten {op : Opcode} (here : s.machine? id = some m)
    (room : m.pointer < m.slots.size) (known : name.opcode? = some op)
    (equipped : op.arity ≤ operands.length) (long : Value.areWritable operands = false) :
    s.insert id name operands =
      ({ s.put id (m.holding ⟨id, op, operands⟩) with journal := s.journal.touch },
        .error .digitLimit) := by
  have outcome := Machine.inserting_insert s.view id name operands m
  simp only [insert, onMachine, here]
  generalize m.insert s.view id name operands = insertion at outcome ⊢
  cases outcome with
  | full past => omega
  | unbound _ refusal =>
    have bound := Instruction.bind_of_equipped s.view id known equipped
    rw [refusal] at bound
    cases bound
  | unwritten _ known' =>
    cases known.symm.trans known'
    rfl
  | stored _ _ _ short =>
    rw [long] at short
    cases short

def single (m : Machine) : Session := { rack := { machines := #[m] } }

theorem unwritable_operand : Value.areWritable [.int Integer.unwritable] = false := by
  rw [Value.areWritable, Value.isWritable, Integer.isWritable_unwritable, Bool.false_and]

/-- A failed insertion changes nothing at all, except when an operand holds an integer too long to
be written: then the slot at the pointer holds the new instruction and the pointer stays. -/
theorem failed_insert {fault : Fault} (here : s.machine? id = some m)
    (failed : (s.insert id name operands).2 = .error fault) :
    (¬ m.Tears name operands → (s.insert id name operands).1 = s) ∧
      (m.Tears name operands → fault = .digitLimit ∧
        ∃ op, name.opcode? = some op ∧ (s.insert id name operands).1.machine? id =
          some { m with slots := m.slots.setIfInBounds m.pointer (some ⟨id, op, operands⟩) }) := by
  constructor
  · intro intact
    have outcome := Machine.inserting_insert s.view id name operands m
    simp only [insert, onMachine, here] at failed ⊢
    generalize m.insert s.view id name operands = insertion at outcome failed ⊢
    cases outcome with
    | full past => rfl
    | unbound room refusal => rfl
    | unwritten room known equipped long =>
      exact absurd ⟨room, ⟨_, known, equipped⟩, Machine.exists_unwritable.mpr long⟩ intact
    | stored room known equipped short shown => cases failed
  · rintro ⟨room, ⟨op, known, equipped⟩, long⟩
    have torn := insert_of_unwritten here room known equipped (Machine.exists_unwritable.mp long)
    rw [torn] at failed ⊢
    cases failed
    exact ⟨rfl, op, known, Rack.machines_put_self here _⟩

/-- The least integer that is too long is stored in the only slot, and the pointer stays. -/
theorem failed_insert_unwritable :
    let s := single { slots := #[none] }
    let outcome := s.insert 0 (.text "PUSH") [.int Integer.unwritable]
    s.machine? 0 = some { slots := #[none] } ∧ outcome.2 = .error .digitLimit ∧
      outcome.1.machine? 0 = some { slots := #[some ⟨0, .push, [.int Integer.unwritable]⟩] } := by
  intro s outcome
  have here : s.machine? 0 = some { slots := #[none] } := rfl
  have known : (Value.text "PUSH").opcode? = some .push := rfl
  have failed : outcome.2 = .error .digitLimit :=
    congrArg Prod.snd (insert_of_unwritten here (by decide) known (by decide) unwritable_operand)
  obtain ⟨-, op, known', torn⟩ := (failed_insert here failed).2
    ⟨by decide, ⟨.push, known, by decide⟩, Machine.exists_unwritable.mpr unwritable_operand⟩
  cases known.symm.trans known'
  exact ⟨here, failed, torn⟩

/-- It is not true that a failed insertion never changes the machine. -/
theorem failed_insert_changes_slot :
    ¬ ∀ (s : Session) (id : MachineId) (m : Machine) (name : Value) (operands : List Value)
      (fault : Fault), s.machine? id = some m →
        (s.insert id name operands).2 = .error fault →
          (s.insert id name operands).1.machine? id = some m := by
  intro atomic
  have here : (single { slots := #[none] }).machine? 0 = some { slots := #[none] } := rfl
  have known : (Value.text "PUSH").opcode? = some .push := rfl
  have torn := insert_of_unwritten here (by decide) known (by decide) unwritable_operand
  have same := atomic (single { slots := #[none] }) 0 { slots := #[none] } (.text "PUSH")
    [.int Integer.unwritable] .digitLimit here (congrArg Prod.snd torn)
  rw [torn] at same
  have slots := congrArg (fun found => found.map fun m => m.slots.toList.map Option.isSome) same
  exact absurd slots (by decide)

end Session

end StackMachine
