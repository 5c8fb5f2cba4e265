import StackMachine.Proofs.Runs
import StackMachine.Proofs.Turn

/-!
# The depth of the stack along a run

The table of stack effects says how many values an operation takes and how many it leaves.
It accounts for every run, whatever way the run takes through the program: as long as no
instruction has failed, the depth of the stack is what the table makes of the instructions
applied so far, and it alone decides whether the next one finds its values. What the values
are is of no concern here.
-/

namespace StackMachine

/-- How much deeper a stack gets. -/
def StackEffect.net (effect : StackEffect) : Int := (effect.pushes : Int) - effect.pops

theorem Fault.category?_showing {view : View} {v : Value} {fault : String → Fault}
    (other : ∀ shown, (fault shown).category? ≠ some .stackExceeded) :
    (showing view v fault).category? ≠ some .stackExceeded := by
  unfold showing
  split
  · exact other _
  · simp [category?]

namespace Machine

variable {view : View} {self : MachineId} {m next : Machine} {operands : List Value} {op : Opcode}
  {fault : Fault}

/-- A product is never refused for want of values. -/
theorem category?_of_multiply {first second : Value}
    (value : multiply view first second = .error fault) :
    fault.category? ≠ some .stackExceeded := by
  unfold multiply at value
  split at value
  · split at value
    · cases value
    · rename_i failure _
      cases value
      cases failure with
      | decimal signal => cases signal <;> simp [Fault.ofProduct, Fault.category?]
      | _ => simp [Fault.ofProduct, Fault.category?]
  · cases value
    exact Fault.category?_showing fun shown => by simp [Fault.category?]
  · cases value
    exact Fault.category?_showing fun shown => by simp [Fault.category?]

theorem category?_of_setAddress {address : Value}
    (jump : m.setAddress view address = .error fault) :
    fault.category? ≠ some .stackExceeded := by
  unfold setAddress at jump
  split at jump
  · split at jump
    · cases jump
    · split at jump
      · cases jump
        simp [Fault.category?]
      · cases jump
        simp [Fault.category?]
  · cases jump
    exact Fault.category?_showing fun shown => by simp [Fault.category?]

theorem category?_of_printed {stream : Stream} {v : Value}
    (line : printed view stream v = .error fault) : fault.category? ≠ some .stackExceeded := by
  unfold printed at line
  split at line
  · cases line
    simp [Fault.category?]
  · split at line
    · cases line
      simp [Fault.category?]
    · cases line

/-- An operation that succeeds changes the depth of the stack as the table says. -/
theorem Application.depth {text : String}
    (h : m.Application view self operands op next (.ok text)) :
    (next.stack.length : Int) = m.stack.length + op.effect.net := by
  cases h with
  | multiplied top value =>
    simp only [top, withStack, List.length_cons, StackEffect.net, Opcode.effect]
    omega
  | called given jump =>
    obtain ⟨a, -, -, -, rfl⟩ := setAddress_eq_ok_iff.mp jump
    simp [StackEffect.net, Opcode.effect]
  | returned top jump =>
    obtain ⟨a, -, -, -, rfl⟩ := setAddress_eq_ok_iff.mp jump
    simp only [top, withStack, List.length_cons, StackEffect.net, Opcode.effect]
    omega
  | stopped => simp [StackEffect.net, Opcode.effect]
  | shown top line =>
    simp only [top, withStack, List.length_cons, StackEffect.net, Opcode.effect]
    omega
  | pushed given =>
    simp only [withStack, List.length_cons, StackEffect.net, Opcode.effect]
    omega

/-- An operation fails for want of values exactly when the stack has fewer than it takes. -/
theorem Application.exceeded_iff {result : Except Fault String}
    (h : m.Application view self operands op next result) :
    (∃ fault, result = .error fault ∧ fault.category? = some .stackExceeded) ↔
      m.stack.length < op.effect.pops := by
  constructor
  · rintro ⟨fault, rfl, category⟩
    cases h with
    | exceeded short => exact short
    | unequipped needed absent => simp [Fault.category?] at category
    | unmultiplied top value => exact absurd category (category?_of_multiply value)
    | uncalled given jump => exact absurd category (category?_of_setAddress jump)
    | unreturned top jump => exact absurd category (category?_of_setAddress jump)
    | shown top line => exact absurd category (category?_of_printed line)
  · intro short
    exact ⟨_, h.of_short short, rfl⟩

end Machine

namespace Rack

/-- The instruction in the slot at the pointer of the machine `id`. -/
def instruction? (id : MachineId) (r : Rack) : Option Instruction :=
  r.machines[id]?.bind fun m => m.slots[m.pointer]?.join

/-- The instructions that a run of the machine `id` applies, in order. -/
def applied (id : MachineId) (fuel : Nat) (r : Rack) : List Instruction :=
  (Loop.trace (turn id) fuel (r.start id)).filterMap (instruction? id)

/-- What the table of stack effects makes of some instructions: the sum over them. -/
def netEffect : List Instruction → Int
  | [] => 0
  | i :: rest => i.op.effect.net + netEffect rest

variable {r : Rack} {id : MachineId} {m : Machine}

theorem instruction?_of (here : r.machines[id]? = some m) :
    r.instruction? id = m.slots[m.pointer]?.join := by
  rw [instruction?, here, Option.bind_some]

/-- Some turns of a machine, none of which fails, leave it with its slots and with the depth that
the table makes of the instructions applied in them. -/
theorem depth_of_run (fuel : Nat) (here : r.machines[id]? = some m) (own : m.Owned id)
    (unfailed : ∀ abort, (Loop.run (turn id) fuel r).ending ≠ .failed abort) :
    ∃ now, (Loop.run (turn id) fuel r).state.machines[id]? = some now ∧ now.slots = m.slots ∧
      (now.stack.length : Int) = m.stack.length +
        netEffect ((Loop.trace (turn id) fuel r).filterMap (instruction? id)) := by
  induction fuel generalizing r m with
  | zero => exact ⟨m, here, rfl, by simp [Loop.trace, netEffect]⟩
  | succ fuel ih =>
    have taken := turning_turn here own
    generalize same : turn id r = t at taken
    cases taken with
    | resting still =>
      rw [Loop.run_of_idle _ same, Loop.trace_of_idle _ same]
      exact ⟨m, here, rfl, by simp [netEffect]⟩
    | skipped going empty =>
      rw [Loop.run_of_moved _ same] at unfailed ⊢
      have none : r.instruction? id = none := by
        rw [instruction?_of here, empty]
        rfl
      rw [Loop.trace_of_moved _ same, List.filterMap_cons_none none]
      exact ih (m := m.advanced) (machines_put_self here m.advanced) own unfailed
    | @applied i next text going held outcome =>
      rw [Loop.run_of_moved _ same] at unfailed ⊢
      have fetched : r.instruction? id = some i := by
        rw [instruction?_of here, held]
        rfl
      have there := machines_put_record here next next.stream text
      have slots : next.slots = m.slots := outcome.frame.1
      obtain ⟨now, reached, kept, depth⟩ := ih there (own.of_slots slots) unfailed
      refine ⟨now, reached, kept.trans slots, ?_⟩
      have grown : (next.stack.length : Int) = m.stack.length + i.op.effect.net := outcome.depth
      rw [Loop.trace_of_moved _ same, List.filterMap_cons_some fetched, netEffect]
      omega
    | aborted going held outcome =>
      rw [Loop.run_of_failed _ same] at unfailed
      exact absurd rfl (unfailed _)

/-- The turn of a machine at an instruction fails for want of values exactly when the stack has
fewer than the instruction takes. -/
theorem turn_exceeded_iff {i : Instruction} (here : r.machines[id]? = some m) (own : m.Owned id)
    (going : m.Going) (held : m.slots[m.pointer]? = some (some i)) :
    (∃ last fault, turn id r = .failed last ⟨m.pointer, i.op, fault⟩ ∧
        fault.category? = some .stackExceeded) ↔ m.stack.length < i.op.effect.pops := by
  have taken := turning_turn here own
  generalize turn id r = t at taken
  cases taken with
  | resting still => exact absurd going still
  | skipped _ empty => cases held.symm.trans empty
  | applied _ held' outcome =>
    cases held.symm.trans held'
    have enough : ¬ m.stack.length < i.op.effect.pops := by
      intro short
      cases outcome.of_short short
    simp [enough]
  | @aborted _ next fault _ held' outcome =>
    cases held.symm.trans held'
    have decided := outcome.exceeded_iff
    constructor
    · rintro ⟨last, fault, failed, category⟩
      cases failed
      exact decided.mp ⟨fault, rfl, category⟩
    · intro short
      obtain ⟨fault, failed, category⟩ := decided.mpr short
      cases failed
      exact ⟨_, fault, rfl, category⟩

/-- As long as no instruction has failed, the depth of the stack is the one at the start and what
the table of stack effects makes of the instructions applied; and the next instruction fails for
want of values exactly when that depth is less than what the table says it takes. -/
theorem execute_depth (here : r.machines[id]? = some m) (own : m.Owned id) (fuel : Nat)
    (unfailed : ∀ abort, (r.execute id fuel).ending ≠ .failed abort) :
    ∃ now, (r.execute id fuel).state.machines[id]? = some now ∧
      (now.stack.length : Int) = m.stack.length + netEffect (r.applied id fuel) ∧
      ∀ i, now.Going → now.slots[now.pointer]? = some (some i) →
        ((∃ fault, (r.execute id (fuel + 1)).ending = .failed ⟨now.pointer, i.op, fault⟩ ∧
            fault.category? = some .stackExceeded) ↔ now.stack.length < i.op.effect.pops) := by
  have started := machines_put_self here { m with running := true }
  rw [← start_of here] at started
  obtain ⟨now, reached, slots, depth⟩ := depth_of_run fuel started own unfailed
  refine ⟨now, reached, depth, ?_⟩
  intro i going held
  have own' : now.Owned id := own.of_slots slots
  have busy : turn id (r.execute id fuel).state ≠ .idle := by
    intro idle
    exact (turn_eq_idle_iff reached own').mp idle going
  have cut : r.execute id fuel = ⟨(r.execute id fuel).state, .unfinished⟩ := by
    cases ending : (r.execute id fuel).ending with
    | returned => exact absurd (Loop.idle_of_returned ending) busy
    | failed abort => exact absurd ending (unfailed abort)
    | unfinished => rw [← ending]
  have next : r.execute id (fuel + 1) = Loop.run (turn id) 1 (r.execute id fuel).state :=
    Loop.run_resumed cut 1
  rw [next, ← turn_exceeded_iff reached own' going held]
  simp only [Loop.run_one_failed_iff]
  constructor
  · rintro ⟨fault, ⟨last, failed⟩, category⟩
    exact ⟨last, fault, failed, category⟩
  · rintro ⟨last, fault, failed, category⟩
    exact ⟨fault, ⟨last, failed⟩, category⟩

/-- A product of two values leaves one, and a call leaves it alone, so that the multiplication
called lacks a value. -/
theorem execute_depth_short :
    let m : Machine :=
      { slots := #[some ⟨0, .push, [.int 3]⟩, some ⟨0, .mult, []⟩, some ⟨0, .call, [.int 4]⟩,
          none, some ⟨0, .mult, []⟩],
        stack := [.int 2] }
    let r : Rack := { machines := #[m] }
    m.Owned 0 ∧ (r.execute 0 3).ending = .unfinished ∧
      (r.applied 0 3).map Instruction.op = [.push, .mult, .call] ∧
      ∃ fault, (r.execute 0 4).ending = .failed ⟨4, .mult, fault⟩ ∧
        fault.category? = some .stackExceeded := by
  intro m r
  have own : m.Owned 0 := by
    intro address i held
    rcases address with _ | _ | _ | _ | _ | address <;> cases held <;> rfl
  let now : Machine := { m with pointer := 4, running := true, stack := [.int 6] }
  have run : r.execute 0 3 = ⟨{ machines := #[now] }, .unfinished⟩ := by
    simp [r, m, now, execute, start, put, Loop.run, turn, apply, Machine.apply,
      Machine.applyPush, Machine.push, Machine.applyMult, Machine.taking, Machine.pop,
      Machine.popCount, Opcode.effect, Machine.multiply, Value.number?, Number.product,
      Number.mul, Value.ofNumber, record, Machine.applyCall, Machine.setAddress, Machine.limit,
      Machine.silent]
  have path : (r.applied 0 3).map Instruction.op = [.push, .mult, .call] := by
    simp [r, m, applied, instruction?, start, put, Loop.trace, turn, apply, Machine.apply,
      Machine.applyPush, Machine.push, Machine.applyMult, Machine.taking, Machine.pop,
      Machine.popCount, Opcode.effect, Machine.multiply, Value.number?, Number.product,
      Number.mul, Value.ofNumber, record, Machine.applyCall, Machine.setAddress, Machine.limit,
      Machine.silent]
  obtain ⟨now', there, -, decided⟩ := execute_depth (r := r) rfl own 3 (by
    intro abort
    rw [run]
    simp)
  rw [run] at there
  cases there
  have short := (decided ⟨0, .mult, []⟩ ⟨rfl, by decide⟩ rfl).mpr (by decide)
  exact ⟨own, by rw [run], path, short⟩

end Rack

end StackMachine
