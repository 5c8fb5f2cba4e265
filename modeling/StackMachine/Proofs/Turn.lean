import StackMachine.Proofs.Application
import StackMachine.Rack

/-! # What a turn of a run comes to

The turns of a machine that owns the instructions in its slots, as a relation between
the machine and the turn: it rests, passes over an empty slot, applies an instruction,
or fails in applying one. The relation is exactly the function. -/

namespace StackMachine

namespace Machine

/-- The machine is running and its pointer is at a slot. -/
def Going (m : Machine) : Prop := m.running = true ∧ m.pointer < m.slots.size

/-- The machine with its pointer moved on by one. -/
def advanced (m : Machine) : Machine := { m with pointer := m.pointer + 1 }

/-- Every instruction in a slot belongs to the machine `id`. -/
def Owned (id : MachineId) (m : Machine) : Prop :=
  ∀ (address : Nat) (i : Instruction), m.slots[address]? = some (some i) → i.owner = id

theorem Owned.of_slots {id : MachineId} {m next : Machine} (own : m.Owned id)
    (slots : next.slots = m.slots) : next.Owned id := by
  intro address i held
  exact own address i (slots ▸ held)

end Machine

namespace Rack

variable {r : Rack} {id : MachineId} {m : Machine}

theorem put_put (r : Rack) (id : MachineId) (m next : Machine) :
    (r.put id m).put id next = r.put id next := by
  simp only [put, Array.setIfInBounds_setIfInBounds]

theorem put_of_here (here : r.machines[id]? = some m) : r.put id m = r := by
  obtain ⟨inside, found⟩ := Array.getElem?_eq_some_iff.mp here
  simp [put, ← found, Array.setIfInBounds, inside]

theorem view_put (here : r.machines[id]? = some m) (next : Machine) :
    (r.put id next).view = fun other => if other = id then next.summary else r.view other := by
  funext other
  by_cases same : other = id
  · subst same
    simp only [view, machines_put_self here, Option.map_some, Option.getD_some, if_true]
  · simp only [view, machines_put_of_ne (Ne.symm same), if_neg same]

theorem start_of (here : r.machines[id]? = some m) :
    r.start id = r.put id { m with running := true } := by
  simp only [start, here]

theorem machines_record (r : Rack) (stream : Stream) (text : String) :
    (r.record stream text).machines = r.machines := by
  unfold record
  split <;> rfl

/-- A machine that is replaced, and that then prints, is the new one. -/
theorem machines_put_record (here : r.machines[id]? = some m) (next : Machine) (stream : Stream)
    (text : String) : ((r.put id next).record stream text).machines[id]? = some next := by
  rw [machines_record]
  exact machines_put_self here next

theorem view_record (r : Rack) (stream : Stream) (text : String) :
    (r.record stream text).view = r.view := by
  funext id
  simp only [view, machines_record]

theorem put_record (r : Rack) (stream : Stream) (text : String) (id : MachineId) (m : Machine) :
    (r.record stream text).put id m = (r.put id m).record stream text := by
  unfold record
  split <;> rfl

theorem textOn_record (r : Rack) (stream : Stream) (text : String) (other : Stream) :
    (r.record stream text).textOn other =
      if stream = other then r.textOn other ++ text else r.textOn other := by
  unfold record
  split
  · rename_i empty
    rw [empty, String.append_empty, ite_self]
  · simp only [textOn, Array.foldl_push]

/-- Every turn of the machine `id` that is in the state `m`. -/
inductive Turning (id : MachineId) (r : Rack) (m : Machine) : Loop.Turn Rack Abort → Prop
  | resting (still : ¬ m.Going) : Turning id r m .idle
  | skipped (going : m.Going) (empty : m.slots[m.pointer]? = some none) :
      Turning id r m (.moved (r.put id m.advanced))
  | applied {i : Instruction} {next : Machine} {text : String} (going : m.Going)
      (held : m.slots[m.pointer]? = some (some i))
      (outcome : m.advanced.Application (r.put id m.advanced).view id i.operands i.op next
        (.ok text)) :
      Turning id r m (.moved ((r.put id next).record next.stream text))
  | aborted {i : Instruction} {next : Machine} {fault : Fault} (going : m.Going)
      (held : m.slots[m.pointer]? = some (some i))
      (outcome : m.advanced.Application (r.put id m.advanced).view id i.operands i.op next
        (.error fault)) :
      Turning id r m (.failed (r.put id next) ⟨m.pointer, i.op, fault⟩)

theorem turn_of_resting (here : r.machines[id]? = some m) (still : ¬ m.Going) :
    turn id r = .idle := by
  have off : ¬ (m.running && m.pointer < m.slots.size) = true := by
    simpa [Machine.Going] using still
  simp only [turn, here, if_neg off]

theorem turn_of_going (here : r.machines[id]? = some m) (going : m.Going) :
    turn id r =
      match m.slots[m.pointer]?.join with
      | none => .moved (r.put id m.advanced)
      | some i =>
        match (r.put id m.advanced).apply i with
        | (next, .ok _) => .moved next
        | (next, .error fault) => .failed next ⟨m.pointer, i.op, fault⟩ := by
  have on : (m.running && m.pointer < m.slots.size) = true := by
    simpa [Machine.Going] using going
  simp only [turn, here, if_pos on]
  rfl

theorem turn_of_applied {i : Instruction} {next : Machine} {text : String}
    (here : r.machines[id]? = some m) (own : m.Owned id) (going : m.Going)
    (held : m.slots[m.pointer]? = some (some i))
    (outcome : m.advanced.Application (r.put id m.advanced).view id i.operands i.op next
      (.ok text)) :
    turn id r = .moved ((r.put id next).record next.stream text) := by
  have owner : i.owner = id := own _ _ held
  have applied := Machine.apply_eq_iff.mpr outcome
  simp only [turn_of_going here going, held, Option.join_some, apply, owner,
    machines_put_self here, applied, put_put]

theorem turn_of_aborted {i : Instruction} {next : Machine} {fault : Fault}
    (here : r.machines[id]? = some m) (own : m.Owned id) (going : m.Going)
    (held : m.slots[m.pointer]? = some (some i))
    (outcome : m.advanced.Application (r.put id m.advanced).view id i.operands i.op next
      (.error fault)) :
    turn id r = .failed (r.put id next) ⟨m.pointer, i.op, fault⟩ := by
  have owner : i.owner = id := own _ _ held
  have applied := Machine.apply_eq_iff.mpr outcome
  simp only [turn_of_going here going, held, Option.join_some, apply, owner,
    machines_put_self here, applied, put_put]

/-- A turn of a machine that owns its instructions is one of those listed. -/
theorem turning_turn (here : r.machines[id]? = some m) (own : m.Owned id) :
    Turning id r m (turn id r) := by
  by_cases going : m.Going
  · have inside : m.slots[m.pointer]? = some (m.slots[m.pointer]?.join) := by
      rw [Array.getElem?_eq_getElem going.2]
      rfl
    cases held : m.slots[m.pointer]?.join with
    | none =>
      rw [held] at inside
      rw [turn_of_going here going, held]
      exact .skipped going inside
    | some i =>
      rw [held] at inside
      have outcome := Machine.application_apply (r.put id m.advanced).view id i.op i.operands
        m.advanced
      cases result : (m.advanced.apply (r.put id m.advanced).view id i.op i.operands).2 with
      | ok text =>
        rw [result] at outcome
        rw [turn_of_applied here own going inside outcome]
        exact .applied going inside outcome
      | error fault =>
        rw [result] at outcome
        rw [turn_of_aborted here own going inside outcome]
        exact .aborted going inside outcome
  · rw [turn_of_resting here going]
    exact .resting going

/-- The turns listed are exactly those of the function. -/
theorem turn_eq_iff {t : Loop.Turn Rack Abort} (here : r.machines[id]? = some m)
    (own : m.Owned id) : turn id r = t ↔ Turning id r m t := by
  constructor
  · intro h
    exact h ▸ turning_turn here own
  · intro h
    cases h with
    | resting still => exact turn_of_resting here still
    | skipped going empty => rw [turn_of_going here going, empty, Option.join_some]
    | applied going held outcome => exact turn_of_applied here own going held outcome
    | aborted going held outcome => exact turn_of_aborted here own going held outcome

theorem turn_eq_idle_iff (here : r.machines[id]? = some m) (own : m.Owned id) :
    turn id r = .idle ↔ ¬ m.Going := by
  rw [turn_eq_iff here own]
  constructor
  · intro rests
    cases rests with
    | resting still => exact still
  · exact .resting

end Rack

end StackMachine
