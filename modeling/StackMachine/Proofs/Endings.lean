import StackMachine.Proofs.Aborts
import StackMachine.Proofs.Memory
import StackMachine.Proofs.StackDepth

/-!
# What a run leaves behind

The machine that is left tells how its run ended. After a run that returns, either a STOP has
been passed and the machine is off, or the pointer is past the last slot and the machine is on.
After a run that fails, the pointer is past the instruction that failed, and all that this
instruction has done is to take its values, if there were enough of them. A run that is cut
off between two turns is only said to have kept the slots.
-/

namespace StackMachine

namespace Machine

/-- The slot just before the pointer holds STOP. -/
def AfterStop (m : Machine) : Prop :=
  ∃ address i, m.pointer = address + 1 ∧ m.slots[address]? = some (some i) ∧ i.op = .stop

/-- A machine in the course of a run of `m`: it has the slots of `m`, its pointer is at one of them
or past the last, and it is on unless it has just passed a STOP. -/
structure Underway (m now : Machine) : Prop where
  slots : now.slots = m.slots
  pointer : now.pointer ≤ m.slots.size
  off : now.running = false → now.AfterStop

variable {view : View} {self : MachineId} {m now next : Machine} {operands : List Value}
  {op : Opcode} {fault : Fault}

/-- What is left of the stack when an operation fails: all of it, if there were too few values or
the operation is CALL, and otherwise what is below the values that the operation takes. -/
theorem Application.stack_of_error
    (h : m.Application view self operands op next (.error fault)) :
    next.stack = if fault.category? = some .stackExceeded ∨ op = .call then m.stack
      else m.stack.drop op.effect.pops := by
  have other : fault.category? ≠ some .stackExceeded → op ≠ .call →
      ¬ (fault.category? = some .stackExceeded ∨ op = .call) := by
    rintro sufficient elsewhere (short | call)
    · exact sufficient short
    · exact elsewhere call
  cases h with
  | exceeded short => exact (if_pos (Or.inl rfl)).symm
  | unequipped needed absent =>
    cases op with
    | call => rw [if_pos (Or.inr rfl)]
    | push => rw [if_neg (other (by simp [Fault.category?]) (by simp))]; rfl
    | mult | ret | stop | print => exact absurd needed (Nat.lt_irrefl 0)
  | unmultiplied top value =>
    rw [if_neg (other (category?_of_multiply value) (by simp)), top]
    rfl
  | uncalled given jump => rw [if_pos (Or.inr rfl)]
  | unreturned top jump =>
    rw [if_neg (other (category?_of_setAddress jump) (by simp)), top]
    rfl
  | shown top line =>
    rw [if_neg (other (category?_of_printed line) (by simp)), top]
    rfl

theorem Underway.advanced (underway : m.Underway now) (going : now.Going) :
    m.Underway now.advanced := by
  refine ⟨underway.slots, ?_, ?_⟩
  · rw [← underway.slots]
    exact going.2
  · intro off
    exact absurd (going.1.symm.trans off) (by simp)

/-- A machine that applies the instruction at its pointer is still underway, even if that fails. -/
theorem Underway.applied {i : Instruction} {result : Except Fault String}
    (underway : m.Underway now) (going : now.Going)
    (held : now.slots[now.pointer]? = some (some i))
    (outcome : now.advanced.Application view self i.operands i.op next result) :
    m.Underway next := by
  have slots : next.slots = now.slots := outcome.frame.1
  refine ⟨slots.trans underway.slots, ?_, ?_⟩
  · rw [← underway.slots]
    have past : now.advanced.pointer ≤ now.slots.size := going.2
    rcases outcome.pointer with same | inside
    · omega
    · exact Nat.le_of_lt inside
  · intro off
    by_cases stop : i.op = .stop
    · refine ⟨now.pointer, i, ?_, by rw [slots]; exact held, stop⟩
      rw [stop] at outcome
      rw [outcome.of_stop.1]
      rfl
    · have on : next.running = true := (outcome.running stop).trans going.1
      exact absurd (on.symm.trans off) (by simp)

end Machine

namespace Rack

variable {r next : Rack} {id : MachineId} {m : Machine}

def Underway (id : MachineId) (m : Machine) (r : Rack) : Prop :=
  ∃ now, r.machines[id]? = some now ∧ m.Underway now

theorem underway_start (here : r.machines[id]? = some m) (inside : m.pointer ≤ m.slots.size) :
    (r.start id).Underway id m := by
  rw [start_of here]
  exact ⟨_, machines_put_self here _, rfl, inside, by simp⟩

/-- A turn keeps a machine underway, whether the loop goes on or fails. -/
theorem Underway.turn (own : m.Owned id) (underway : r.Underway id m)
    (h : Rack.turn id r = .moved next ∨ ∃ abort, Rack.turn id r = .failed next abort) :
    next.Underway id m := by
  obtain ⟨now, here, under⟩ := underway
  have taken := turning_turn here (own.of_slots under.slots)
  rcases h with moved | ⟨abort, failed⟩
  · rw [moved] at taken
    cases taken with
    | skipped going empty => exact ⟨_, machines_put_self here _, under.advanced going⟩
    | applied going held outcome =>
      exact ⟨_, machines_put_record here _ _ _, under.applied going held outcome⟩
  · rw [failed] at taken
    cases taken with
    | aborted going held outcome =>
      exact ⟨_, machines_put_self here _, under.applied going held outcome⟩

theorem underway_execute (here : r.machines[id]? = some m) (own : m.Owned id)
    (inside : m.pointer ≤ m.slots.size) (turns : Nat) :
    (r.execute id turns).state.Underway id m :=
  Loop.run_keeps (fun _ _ under moved => under.turn own (Or.inl moved))
    (fun _ _ abort under failed => under.turn own (Or.inr ⟨abort, failed⟩)) turns
    (underway_start here inside)

/-- A machine that has nothing left to do in the course of a run is off after a STOP, or on and
past its last slot. -/
theorem Underway.of_idle {now : Machine} (here : r.machines[id]? = some now)
    (own : m.Owned id) (under : m.Underway now) (idle : Rack.turn id r = .idle) :
    (now.running = false ∧ now.AfterStop) ∨
      (now.running = true ∧ now.pointer = m.slots.size) := by
  have still := (turn_eq_idle_iff here (own.of_slots under.slots)).mp idle
  cases running : now.running with
  | false => exact Or.inl ⟨rfl, under.off running⟩
  | true =>
    have pointer := under.pointer
    have past : ¬ now.pointer < now.slots.size := fun room => still ⟨running, room⟩
    rw [under.slots] at past
    exact Or.inr ⟨rfl, by omega⟩

/-- A run that fails has come to the instruction that the abort names, and what it leaves is what
this instruction leaves. -/
theorem aborted_of_failed {abort : Abort} {last : Rack} {fuel : Nat}
    (here : r.machines[id]? = some m) (own : m.Owned id)
    (failed : r.execute id fuel = ⟨last, .failed abort⟩) :
    ∃ before i view left, r.FailsAt id before i abort.fault ∧
      abort = ⟨before.pointer, i.op, abort.fault⟩ ∧ last.machines[id]? = some left ∧
      before.advanced.Application view id i.operands i.op left (.error abort.fault) := by
  obtain ⟨turns, moment, before, reached, there, -, fails, taken⟩ :=
    turning_of_aborted here own failed
  cases taken with
  | @aborted i left fault going held outcome =>
    exact ⟨before, i, _, left, ⟨⟨turns, moment, _, reached, there, fails⟩, going, held⟩, rfl,
      machines_put_self there left, outcome⟩

/-- A run keeps the slots. If it returns, the machine is off with a STOP just before its pointer,
or on with its pointer past the last slot. If it fails, the machine is on, its pointer is right
after the instruction that failed, and its stack is the one before this instruction, without the
values that the instruction takes unless there were too few of them or it is a CALL. -/
theorem execute_ending (here : r.machines[id]? = some m) (own : m.Owned id)
    (inside : m.pointer ≤ m.slots.size) (fuel : Nat) :
    ∃ last, (r.execute id fuel).state.machines[id]? = some last ∧ last.slots = m.slots ∧
      ((r.execute id fuel).ending = .returned →
        (last.running = false ∧ last.AfterStop) ∨
          (last.running = true ∧ last.pointer = m.slots.size)) ∧
      ∀ abort, (r.execute id fuel).ending = .failed abort →
        ∃ before i, r.FailsAt id before i abort.fault ∧
          abort.address = before.pointer ∧ abort.op = i.op ∧
          last.running = true ∧ last.pointer = abort.address + 1 ∧
          last.stack =
            if abort.fault.category? = some .stackExceeded ∨ i.op = .call then before.stack
            else before.stack.drop i.op.effect.pops := by
  obtain ⟨last, there, under⟩ := underway_execute here own inside fuel
  refine ⟨last, there, under.slots, ?_, ?_⟩
  · intro returned
    exact Underway.of_idle there own under (Loop.idle_of_returned returned)
  · intro abort failed
    have run : r.execute id fuel = ⟨(r.execute id fuel).state, .failed abort⟩ := by rw [← failed]
    obtain ⟨before, i, view, left, fails, named, found, outcome⟩ :=
      aborted_of_failed here own run
    cases there.symm.trans found
    have on : last.running = true := (outcome.running outcome.op_ne_stop).trans fails.going.1
    have address : abort.address = before.pointer := congrArg Abort.address named
    refine ⟨before, i, fails, address, congrArg Abort.op named, on, ?_, outcome.stack_of_error⟩
    rw [address]
    exact outcome.pointer_of_error

/-- A return to the address nine, in a machine of three slots, takes the nine and leaves the
pointer after itself. -/
theorem execute_ending_return :
    let m : Machine :=
      { slots := #[some ⟨0, .stop, []⟩, some ⟨0, .ret, []⟩, none], pointer := 1,
        stack := [.int 9, .int 4] }
    let r : Rack := { machines := #[m] }
    m.Owned 0 ∧ m.pointer ≤ m.slots.size ∧
      (r.execute 0 1).ending = .failed ⟨1, .ret, .addressOutOfBounds 9 2⟩ ∧
      ∃ last, (r.execute 0 1).state.machines[0]? = some last ∧ last.slots = m.slots ∧
        last.running = true ∧ last.pointer = 2 ∧ last.stack = [.int 4] := by
  intro m r
  have own : m.Owned 0 := by
    intro address i held
    rcases address with _ | _ | _ | address <;> cases held <;> rfl
  let on : Machine := { m with running := true }
  have writable : Integer.isWritable 9 = true := Integer.isWritable_of_index (by decide)
  have refused : on.advanced.Application ((r.start 0).put 0 on.advanced).view 0 [] .ret
      (on.advanced.withStack [.int 4]) (.error (.addressOutOfBounds 9 2)) := by
    refine .unreturned rfl ?_
    simp only [Machine.setAddress, writable, if_true]
    rfl
  have first := turn_of_aborted (r := r.start 0) (i := ⟨0, .ret, []⟩) (m := on) rfl own
    ⟨rfl, by decide⟩ rfl refused
  have ending : (r.execute 0 1).ending = .failed ⟨1, .ret, .addressOutOfBounds 9 2⟩ := by
    rw [execute, Loop.run_of_failed 0 first]
  obtain ⟨last, there, slots, -, failed⟩ := execute_ending (r := r) rfl own (by decide) 1
  obtain ⟨before, i, fails, -, op, running, pointer, stack⟩ := failed _ ending
  have same : on = before := Option.some.inj (fails.of_first first)
  subst same
  rw [← op] at stack
  exact ⟨own, by decide, ending, last, there, slots, running, pointer, stack⟩

end Rack

end StackMachine
