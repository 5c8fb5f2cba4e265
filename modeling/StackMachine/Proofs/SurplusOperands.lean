import StackMachine.Proofs.Runs
import StackMachine.Proofs.Turn

/-!
# Operands beyond the arity

An instruction may be written with more operands than its operation has to have. A machine is
run twice: once as it is, and once with all of these taken away. The two runs are the same turn
by turn, so what is taken away is never looked at. An instruction that a value holds is not one
of those in the slots, and keeps all its operands.
-/

namespace StackMachine

/-- The instruction with as many operands as its operation has to have. -/
def Instruction.trimmed (i : Instruction) : Instruction :=
  { i with operands := i.operands.take i.op.arity }

namespace Machine

/-- The machine in which every instruction has lost its surplus operands. -/
def trimmed (m : Machine) : Machine :=
  m.withSlots (m.slots.map fun slot => slot.map Instruction.trimmed)

variable (m : Machine) (view : View) (self : MachineId) (op : Opcode) (operands : List Value)

/-- No operation looks at an operand beyond its arity. -/
theorem apply_take_arity :
    m.apply view self op (operands.take op.arity) = m.apply view self op operands := by
  cases op with
  | call | push => cases operands <;> rfl
  | mult | ret | stop | print => rfl

/-- What an operation does is the same for a machine without surplus operands. -/
theorem apply_trimmed :
    m.trimmed.apply view self op operands =
      ((m.apply view self op operands).1.trimmed, (m.apply view self op operands).2) := by
  have outcome := application_apply view self op operands m
  have same : (m.apply view self op operands).1.trimmed =
      (m.apply view self op operands).1.withSlots
        (m.slots.map fun slot => slot.map Instruction.trimmed) := by
    rw [trimmed, outcome.frame.1]
  rw [same]
  exact apply_eq_iff.mpr (outcome.withSlots (Array.size_map ..))

theorem going_trimmed : m.trimmed.Going ↔ m.Going := by
  simp only [Going, trimmed, withSlots, Array.size_map]

theorem slots_trimmed (address : Nat) :
    m.trimmed.slots[address]?.join = m.slots[address]?.join.map Instruction.trimmed := by
  rw [trimmed, withSlots, Array.getElem?_map]
  cases m.slots[address]? <;> rfl

theorem summary_trimmed : m.trimmed.summary = m.summary := by
  simp only [summary, trimmed, withSlots, Array.size_map]

end Machine

namespace Rack

/-- The rack in which the instructions of the machine `id` have lost their surplus operands. -/
def trimmed (id : MachineId) (r : Rack) : Rack :=
  { r with machines := r.machines.modify id Machine.trimmed }

/-- The machine `other` as it stands in the rack with the machine `id` trimmed. -/
def trimmedAt (id other : MachineId) (m : Machine) : Machine :=
  if id = other then m.trimmed else m

variable (id other : MachineId) (m : Machine) (r : Rack)

theorem summary_trimmedAt : (trimmedAt id other m).summary = m.summary := by
  unfold trimmedAt
  split
  · exact m.summary_trimmed
  · rfl

theorem apply_trimmedAt (view : View) (op : Opcode) (operands : List Value) :
    (trimmedAt id other m).apply view other op (operands.take op.arity) =
      (trimmedAt id other (m.apply view other op operands).1,
        (m.apply view other op operands).2) := by
  rw [Machine.apply_take_arity]
  unfold trimmedAt
  split
  · exact m.apply_trimmed view other op operands
  · rfl

theorem stream_trimmedAt : (trimmedAt id other m).stream = m.stream := by
  unfold trimmedAt
  split <;> rfl

theorem machines_trimmed :
    (r.trimmed id).machines[other]? = r.machines[other]?.map (trimmedAt id other) := by
  rw [trimmed, Array.getElem?_modify]
  by_cases same : id = other
  · rw [if_pos same]
    cases r.machines[other]? <;> simp [trimmedAt, same]
  · rw [if_neg same]
    cases r.machines[other]? <;> simp [trimmedAt, same]

theorem view_trimmed : (r.trimmed id).view = r.view := by
  funext other
  rw [view, view, machines_trimmed]
  cases r.machines[other]? with
  | none => rfl
  | some m => exact summary_trimmedAt id other m

theorem put_trimmed :
    (r.put other m).trimmed id = (r.trimmed id).put other (trimmedAt id other m) := by
  have machines : ((r.put other m).trimmed id).machines =
      ((r.trimmed id).put other (trimmedAt id other m)).machines := by
    apply Array.ext_getElem?
    intro k
    have size : (r.trimmed id).machines.size = r.machines.size := Array.size_modify ..
    rw [machines_trimmed, put, put, Array.getElem?_setIfInBounds, Array.getElem?_setIfInBounds,
      size, machines_trimmed]
    by_cases same : other = k
    · subst same
      rw [if_pos rfl, if_pos rfl]
      split <;> rfl
    · rw [if_neg same, if_neg same]
  exact congrArg (fun machines => { r with machines }) machines

theorem record_trimmed (stream : Stream) (text : String) :
    (r.record stream text).trimmed id = (r.trimmed id).record stream text := by
  unfold record
  split <;> rfl

/-- An instruction does the same without its surplus operands, whichever machine it acts on. -/
theorem apply_trimmed (i : Instruction) :
    (r.trimmed id).apply i.trimmed = ((r.apply i).1.trimmed id, (r.apply i).2) := by
  have there := machines_trimmed id i.owner r
  rw [apply, apply]
  cases here : r.machines[i.owner]? with
  | none =>
    rw [here] at there
    simp only [Instruction.trimmed, there, Option.map_none]
  | some m =>
    rw [here] at there
    have same := apply_trimmedAt id i.owner m r.view i.op i.operands
    simp only [Instruction.trimmed, there, Option.map_some, view_trimmed, same]
    generalize m.apply r.view i.owner i.op i.operands = outcome
    obtain ⟨next, result⟩ := outcome
    cases result with
    | ok text => simp only [record_trimmed, put_trimmed, stream_trimmedAt]
    | error fault => simp only [put_trimmed]

/-- The turn of a machine without surplus operands is the turn of the machine. -/
theorem turn_trimmed : turn id (r.trimmed id) = (turn id r).map (trimmed id) := by
  have there := machines_trimmed id id r
  cases here : r.machines[id]? with
  | none =>
    rw [here, Option.map_none] at there
    simp only [turn, here, there, Loop.Turn.map]
  | some m =>
    rw [here, Option.map_some, trimmedAt, if_pos rfl] at there
    have advanced : (r.trimmed id).put id m.trimmed.advanced =
        (r.put id m.advanced).trimmed id := by
      rw [put_trimmed, trimmedAt, if_pos rfl]
      rfl
    have held : m.trimmed.slots[m.trimmed.pointer]?.join =
        m.slots[m.pointer]?.join.map Instruction.trimmed := m.slots_trimmed m.pointer
    by_cases going : m.Going
    · rw [turn_of_going here going, turn_of_going there (m.going_trimmed.mpr going), advanced, held]
      cases m.slots[m.pointer]?.join with
      | none => rfl
      | some i =>
        simp only [Option.map_some, apply_trimmed]
        obtain ⟨next, result⟩ := (r.put id m.advanced).apply i
        cases result <;> rfl
    · rw [turn_of_resting here going, turn_of_resting there (mt m.going_trimmed.mp going)]
      rfl

theorem start_trimmed : (r.trimmed id).start id = (r.start id).trimmed id := by
  have there := machines_trimmed id id r
  cases here : r.machines[id]? with
  | none =>
    rw [here, Option.map_none] at there
    simp only [start, here, there]
  | some m =>
    rw [here, Option.map_some, trimmedAt, if_pos rfl] at there
    rw [start_of here, start_of there, put_trimmed, trimmedAt, if_pos rfl]
    rfl

/-- The pointer, the running flag and the stack of the machine `id`. -/
def snapshot (id : MachineId) (r : Rack) : Option (Nat × Bool × List Value) :=
  r.machines[id]?.map fun m => (m.pointer, m.running, m.stack)

/-- What a run of the machine `id` passes through, from its first turn to the state it ends in. -/
def course (id : MachineId) (fuel : Nat) (r : Rack) : List (Option (Nat × Bool × List Value)) :=
  (Loop.trace (turn id) fuel (r.start id) ++ [(r.execute id fuel).state]).map (snapshot id)

theorem snapshot_trimmed : (r.trimmed id).snapshot id = r.snapshot id := by
  rw [snapshot, snapshot, machines_trimmed, Option.map_map]
  congr 1
  funext m
  simp [trimmedAt, Machine.trimmed, Machine.withSlots]

/-- A run of a machine passes through the same pointers, running flags and stacks, prints the same
text and ends in the same way if all operands beyond the arity of their operation are taken out
of its slots; and what it leaves differs in these operands only. -/
theorem execute_trimmed (id : MachineId) (fuel : Nat) (r : Rack) :
    (r.trimmed id).course id fuel = r.course id fuel ∧
      ((r.trimmed id).execute id fuel).state.printed = (r.execute id fuel).state.printed ∧
      ((r.trimmed id).execute id fuel).ending = (r.execute id fuel).ending ∧
      ((r.trimmed id).execute id fuel).state = (r.execute id fuel).state.trimmed id := by
  obtain ⟨ended, passed⟩ := Loop.run_map (turn_trimmed id) fuel (r.start id)
  rw [← start_trimmed] at ended passed
  have run : (r.trimmed id).execute id fuel =
      ⟨(r.execute id fuel).state.trimmed id, (r.execute id fuel).ending⟩ := ended
  refine ⟨?_, ?_, ?_, ?_⟩
  · rw [course, course, run, passed]
    simp [snapshot_trimmed]
  · rw [run]
    rfl
  · rw [run]
  · rw [run]

end Rack

end StackMachine
