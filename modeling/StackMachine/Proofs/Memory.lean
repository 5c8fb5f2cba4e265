import StackMachine.Proofs.History

/-!
# Instruction memory

A slot holds the instruction that was written to it last, however the pointer came to it.
Only insertions write, and each writes to one slot: the one the pointer is at, once the
instruction is built, even if the insertion fails afterwards for want of a text. Running
machines and applying instructions change no slot. What the instructions do is not looked at,
nor why one has no text.
-/

namespace StackMachine

namespace Machine

/-- A machine that takes up an instruction holds it at the pointer, and elsewhere what it held. -/
theorem slots_holding (m : Machine) (i : Instruction) (address : Nat) :
    (m.holding i).slots[address]?.join =
      if m.pointer = address ∧ address < m.slots.size then some i else m.slots[address]?.join := by
  simp only [holding, Array.getElem?_setIfInBounds]
  by_cases here : m.pointer = address
  · subst here
    by_cases room : m.pointer < m.slots.size
    · simp [room]
    · simp [room]
  · simp [here]

end Machine

namespace Rack

def memory (r : Rack) : Array (Array (Option Instruction)) := r.machines.map Machine.slots

variable {r : Rack} {id : MachineId} {m : Machine}

theorem memory_put {next : Machine} (here : r.machines[id]? = some m)
    (slots : next.slots = m.slots) : (r.put id next).memory = r.memory := by
  apply Array.ext_getElem?
  intro other
  simp only [memory, Array.getElem?_map]
  by_cases same : id = other
  · subst same
    rw [machines_put_self here, here, Option.map_some, Option.map_some, slots]
  · rw [machines_put_of_ne same]

theorem memory_record (r : Rack) (stream : Stream) (text : String) :
    (r.record stream text).memory = r.memory := by
  rw [memory, machines_record, memory]

/-- Applying an instruction changes no slot, whoever owns it and whether it succeeds or fails. -/
theorem memory_apply (r : Rack) (i : Instruction) : (r.apply i).1.memory = r.memory := by
  cases here : r.machines[i.owner]? with
  | none => simp only [apply, here]
  | some m =>
    have outcome := m.application_apply r.view i.owner i.op i.operands
    have kept := memory_put here outcome.frame.1
    simp only [apply, here]
    split
    · rename_i next text applied
      rw [applied] at kept
      rw [memory_record]
      exact kept
    · rename_i next fault applied
      rw [applied] at kept
      exact kept

theorem memory_turn {next : Rack}
    (h : turn id r = .moved next ∨ ∃ abort, turn id r = .failed next abort) :
    next.memory = r.memory := by
  cases here : r.machines[id]? with
  | none => simp [turn, here] at h
  | some m =>
    by_cases going : m.Going
    · rw [turn_of_going here going] at h
      have advanced : (r.put id m.advanced).memory = r.memory := memory_put here rfl
      generalize m.slots[m.pointer]?.join = slot at h
      cases slot with
      | none =>
        rcases h with moved | ⟨abort, failed⟩
        · cases moved
          exact advanced
        · cases failed
      | some i =>
        have kept := (memory_apply (r.put id m.advanced) i).trans advanced
        dsimp only at h
        split at h
        · rename_i last value applied
          rw [applied] at kept
          rcases h with moved | ⟨abort, failed⟩
          · cases moved
            exact kept
          · cases failed
        · rename_i last fault applied
          rw [applied] at kept
          rcases h with moved | ⟨abort, failed⟩
          · cases moved
          · cases failed
            exact kept
    · rw [turn_of_resting here going] at h
      simp at h

theorem memory_start (r : Rack) (id : MachineId) : (r.start id).memory = r.memory := by
  cases here : r.machines[id]? with
  | none => simp only [start, here]
  | some m =>
    rw [start_of here]
    exact memory_put here rfl

/-- A run changes no slot, after any number of turns. -/
theorem memory_execute (r : Rack) (id : MachineId) (turns : Nat) :
    (r.execute id turns).state.memory = r.memory :=
  Loop.run_keeps (P := fun next => next.memory = r.memory)
    (fun _ _ kept moved => (memory_turn (Or.inl moved)).trans kept)
    (fun _ _ abort kept failed => (memory_turn (Or.inr ⟨abort, failed⟩)).trans kept) turns
    (memory_start r id)

theorem machine_execute (here : r.machines[id]? = some m) (turns : Nat) :
    ∃ now, (r.execute id turns).state.machines[id]? = some now ∧ now.slots = m.slots := by
  have held : r.memory[id]? = some m.slots := by
    rw [memory, Array.getElem?_map, here, Option.map_some]
  rw [← memory_execute r id turns, memory, Array.getElem?_map] at held
  exact Option.map_eq_some_iff.mp held

/-- A run that fails comes to a moment, with the machine in possession of its slots, whose turn
fails. -/
theorem turning_of_aborted {fuel : Nat} {last : Rack} {abort : Abort}
    (here : r.machines[id]? = some m) (own : m.Owned id)
    (failed : r.execute id fuel = ⟨last, .failed abort⟩) :
    ∃ turns moment before, r.execute id turns = ⟨moment, .unfinished⟩ ∧
      moment.machines[id]? = some before ∧ before.Owned id ∧ turn id moment = .failed last abort ∧
      Turning id moment before (.failed last abort) := by
  obtain ⟨turns, moment, reached, fails⟩ := Loop.moment_of_failed failed
  change r.execute id turns = ⟨moment, .unfinished⟩ at reached
  obtain ⟨before, there, slots⟩ := machine_execute here turns
  rw [reached] at there
  have own' := own.of_slots slots
  exact ⟨turns, moment, before, reached, there, own', fails, fails ▸ turning_turn there own'⟩

end Rack

namespace Session

def slot? (s : Session) (id : MachineId) (address : Nat) : Option Instruction :=
  (s.machine? id).bind fun m => m.slots[address]?.join

/-- The instruction that an operation writes to a slot of the machine `id`: one that is inserted
while the pointer is at that slot, and that can be built. -/
def written? (s : Session) (id : MachineId) (address : Nat) : Operation → Option Instruction
  | .insert target name operands =>
    if target = id ∧ (s.machine? id).any (fun m => m.pointer = address ∧ address < m.slots.size)
    then (Instruction.bind s.view id name operands).toOption
    else none
  | _ => none

/-- The instruction that a history writes to a slot last. -/
def lastWritten (s : Session) (id : MachineId) (address : Nat) : History → Option Instruction
  | [] => none
  | (fuel, operation) :: rest =>
    ((s.perform fuel operation).1.lastWritten id address rest).or
      (s.written? id address operation)

variable {s t : Session} {id : MachineId} {address : Nat}

theorem slot?_eq (s : Session) (id : MachineId) (address : Nat) :
    s.slot? id address = s.rack.memory[id]?.bind fun slots => slots[address]?.join := by
  rw [slot?, machine?, Rack.memory, Array.getElem?_map, Option.bind_map]
  rfl

theorem slot?_of_memory (same : t.rack.memory = s.rack.memory) (id : MachineId) (address : Nat) :
    t.slot? id address = s.slot? id address := by
  rw [slot?_eq, slot?_eq, same]

theorem slot?_put {n m : Machine} (here : s.machine? id = some m) (other : MachineId)
    (address : Nat) : (s.put id n).slot? other address =
      if id = other then n.slots[address]?.join else s.slot? other address := by
  by_cases same : id = other
  · subst same
    have there : (s.put id n).machine? id = some n := Rack.machines_put_self here n
    rw [slot?, there, if_pos rfl]
    rfl
  · have apart : (s.put id n).machine? other = s.machine? other :=
      Rack.machines_put_of_ne same n
    rw [slot?, apart, if_neg same, slot?]

/-- Operations other than building a machine and inserting change no slot. -/
theorem perform_memory (fuel : Nat) {operation : Operation}
    (noCreate : ∀ count output, operation ≠ .create count output)
    (noInsert : ∀ id name operands, operation ≠ .insert id name operands) :
    (s.perform fuel operation).1.rack.memory = s.rack.memory := by
  have outcome := performing_perform fuel s operation
  generalize s.perform fuel operation = performed at outcome ⊢
  cases outcome with
  | created built => exact absurd rfl (noCreate _ _)
  | unwritten | stored => exact absurd rfl (noInsert _ _ _)
  | handled here handling => exact Rack.memory_put here handling.slots
  | ran here =>
    rw [conclude_rack]
    exact Rack.memory_execute s.rack _ fuel
  | @applied serial i rack result found application =>
    have kept := Rack.memory_apply s.rack i
    rwa [application] at kept
  | _ => rfl

/-- A machine that is built has empty slots, and those of the others stay as they are. -/
theorem create_slot? (count : Value) (output : Option Stream) (id : MachineId) (address : Nat) :
    (s.create count output).1.slot? id address = s.slot? id address := by
  unfold create
  cases built : Machine.create s.view count output with
  | error fault => rfl
  | ok m =>
    simp only [slot?, machine?, Array.getElem?_push]
    split
    · rename_i new
      have vacant : m.slots[address]?.join = none := by
        obtain ⟨n, -, -, rfl⟩ := Machine.create_eq_ok built
        rw [Array.getElem?_replicate]
        split <;> rfl
      rw [Option.bind_some, vacant, new]
      simp
    · rfl

/-- An insertion into a machine that has room for it and for which the instruction can be built
changes the memory as taking up the instruction does; any other changes nothing in it. -/
theorem insert_memory {m : Machine} (here : s.machine? id = some m) (name : Value)
    (operands : List Value) :
    (∃ i, m.pointer < m.slots.size ∧ Instruction.bind s.view id name operands = .ok i ∧
      (s.insert id name operands).1.rack.memory = (s.put id (m.holding i)).rack.memory) ∨
    ((m.slots.size ≤ m.pointer ∨
        ∃ fault, Instruction.bind s.view id name operands = .error fault) ∧
      (s.insert id name operands).1.rack.memory = s.rack.memory) := by
  have outcome := Machine.inserting_insert s.view id name operands m
  simp only [insert, onMachine, here]
  generalize m.insert s.view id name operands = insertion at outcome ⊢
  cases outcome with
  | full past => exact Or.inr ⟨Or.inl past, rfl⟩
  | unbound room refusal => exact Or.inr ⟨Or.inr ⟨_, refusal⟩, rfl⟩
  | @unwritten op room known equipped long =>
    exact Or.inl ⟨_, room, Instruction.bind_of_equipped s.view id known equipped, rfl⟩
  | @stored op text room known equipped short shown =>
    refine Or.inl ⟨_, room, Instruction.bind_of_equipped s.view id known equipped, ?_⟩
    -- The pointer moves on, which the memory does not show.
    have there := Rack.machines_put_self here (m.holding ⟨id, op, operands⟩)
    have moved : ((s.rack.put id (m.holding ⟨id, op, operands⟩)).put id
        (m.holding ⟨id, op, operands⟩).advanced).memory =
        (s.rack.put id (m.holding ⟨id, op, operands⟩)).memory := Rack.memory_put there rfl
    rwa [Rack.put_put] at moved

theorem written?_insert {m : Machine} (here : s.machine? id = some m) (name : Value)
    (operands : List Value) (address : Nat) :
    s.written? id address (.insert id name operands) =
      if m.pointer = address ∧ address < m.slots.size then
        (Instruction.bind s.view id name operands).toOption
      else none := by
  simp [written?, here]

/-- An insertion leaves in every slot of its machine what it writes there, and otherwise what was
there. -/
theorem insert_own_slot? {m : Machine} (here : s.machine? id = some m) (name : Value)
    (operands : List Value) (address : Nat) :
    (s.insert id name operands).1.slot? id address =
      (s.written? id address (.insert id name operands)).or (s.slot? id address) := by
  have old : s.slot? id address = m.slots[address]?.join := by rw [slot?, here, Option.bind_some]
  rw [written?_insert here]
  rcases insert_memory here name operands with ⟨i, room, bound, memory⟩ | ⟨refused, memory⟩
  · rw [slot?_of_memory memory, slot?_put here, if_pos rfl, Machine.slots_holding, bound, old]
    split <;> rfl
  · rw [slot?_of_memory memory]
    split
    · rename_i there
      rcases refused with past | ⟨fault, unbound⟩
      · omega
      · rw [unbound]
        rfl
    · rfl

theorem insert_slot? (target : MachineId) (name : Value) (operands : List Value) (id : MachineId)
    (address : Nat) :
    (s.insert target name operands).1.slot? id address =
      (s.written? id address (.insert target name operands)).or (s.slot? id address) := by
  cases here : s.machine? target with
  | none =>
    have unwritten : s.written? id address (.insert target name operands) = none := by
      by_cases same : target = id
      · subst same
        simp [written?, here]
      · simp [written?, same]
    rw [unwritten, Option.none_or, insert, onMachine, here]
  | some m =>
    by_cases same : target = id
    · subst same
      exact insert_own_slot? here name operands address
    · have unwritten : s.written? id address (.insert target name operands) = none := by
        simp [written?, same]
      rw [unwritten, Option.none_or]
      rcases insert_memory here name operands with ⟨i, -, -, memory⟩ | ⟨-, memory⟩
      · rw [slot?_of_memory memory, slot?_put here, if_neg same]
      · exact slot?_of_memory memory id address

theorem perform_slot? (fuel : Nat) (operation : Operation) (id : MachineId) (address : Nat) :
    (s.perform fuel operation).1.slot? id address =
      (s.written? id address operation).or (s.slot? id address) := by
  cases operation with
  | create count output => exact create_slot? count output id address
  | insert target name operands => exact insert_slot? target name operands id address
  | _ => exact slot?_of_memory (perform_memory fuel (by simp) (by simp)) id address

/-- After a history a slot holds what was written to it last, or else what it held before. -/
theorem after_slot? (history : History) (id : MachineId) (address : Nat) :
    (s.after history).slot? id address =
      (s.lastWritten id address history).or (s.slot? id address) := by
  induction history generalizing s with
  | nil => rfl
  | cons act rest ih =>
    obtain ⟨fuel, operation⟩ := act
    rw [after, ih, perform_slot?, lastWritten, Option.or_assoc]

/-- A slot of a machine holds what is found under its address. -/
theorem slots_eq_slot? {m : Machine} (here : s.machine? id = some m)
    (inside : address < m.slots.size) : m.slots[address]? = some (s.slot? id address) := by
  rw [slot?, here, Option.bind_some, Array.getElem?_eq_getElem inside, Option.join_some]

/-- No operation removes a machine or changes the number of its slots. -/
theorem perform_size {m : Machine} {counts : List Nat} (wf : s.rack.WellFormed counts)
    (here : s.machine? id = some m) (fuel : Nat) (operation : Operation) :
    ∃ next, (s.perform fuel operation).1.machine? id = some next ∧
      next.slots.size = m.slots.size := by
  obtain ⟨count, known, wfm⟩ := wf.machines id m here
  have wf' := perform_rack wf fuel operation
  have among : id < counts.length := (List.getElem?_eq_some_iff.mp known).1
  have there : id < (s.perform fuel operation).1.rack.machines.size := by
    rw [wf'.size, List.length_append]
    exact Nat.lt_add_right _ among
  obtain ⟨count', known', wfn⟩ := wf'.machines id _ (Array.getElem?_eq_getElem there)
  rw [List.getElem?_append_left among, known] at known'
  cases known'
  exact ⟨_, Array.getElem?_eq_getElem there, wfn.size.trans wfm.size.symm⟩

/-- After every history each slot holds the instruction that was inserted there last, and is empty
if none was; and an operation that writes nothing to the slot leaves it as it is. -/
theorem slot_holds_last_written (history : History) {m : Machine}
    (here : (after {} history).machine? id = some m) (inside : address < m.slots.size) :
    m.slots[address]? = some (lastWritten {} id address history) ∧
      ∀ (fuel : Nat) (operation : Operation),
        (after {} history).written? id address operation = none →
          ∃ next, ((after {} history).perform fuel operation).1.machine? id = some next ∧
            next.slots[address]? = m.slots[address]? := by
  have held := slots_eq_slot? here inside
  constructor
  · have empty : ({} : Session).slot? id address = none := by simp [slot?, machine?]
    rw [held, after_slot?, empty, Option.or_none]
  · intro fuel operation unwritten
    obtain ⟨next, there, size⟩ := perform_size (after_rack empty_rack history) here fuel operation
    have held' := slots_eq_slot? there (size ▸ inside)
    refine ⟨next, there, ?_⟩
    rw [held', held, perform_slot?, unwritten, Option.none_or]

/-- A slot is overwritten when the pointer is set back to it, and no other insertion of this
history leaves a trace: one has too few operands, and one comes after the run has moved the
pointer past the last slot. -/
theorem slot_holds_last_written_stop :
    let history : History :=
      [(0, .create (.int 2) none), (0, .insert 0 (.text "PUSH") [.null]),
        (0, .insert 0 (.text "CALL") []), (0, .setAddress 0 (.int 0)), (3, .execute 0),
        (0, .insert 0 (.text "STOP") []), (0, .setAddress 0 (.int 0)),
        (0, .insert 0 (.text "STOP") [])]
    let m : Machine :=
      { slots := #[some ⟨0, .stop, []⟩, none], pointer := 1, running := true, stack := [.null] }
    (after {} history).machine? 0 = some m ∧
      m.slots[0]? = some (lastWritten {} 0 0 history) ∧
      m.slots[1]? = some (lastWritten {} 0 1 history) := by
  intro history m
  have here : (after {} history).machine? 0 = some m := rfl
  exact ⟨here, (slot_holds_last_written history here (by decide)).1,
    (slot_holds_last_written history here (by decide)).1⟩

end Session

end StackMachine
