import StackMachine.Proofs.LogEntries

/-!
# What a run leaves in the log

However long a run is, the log tells that it started and how it ended, and nothing of the
instructions between. A run that is cut off between two turns has told its start alone.
The address in the report of a failure is found again in the machine that is left.
-/

namespace StackMachine

namespace Rack

variable {r last : Rack} {id : MachineId} {counts : List Nat} {fuel : Nat} {abort : Abort}

/-- The machine that a failed run leaves has its pointer right after the address of the abort, and
in the slot there the operation that failed. -/
theorem machine_of_failed (wf : r.WellFormed counts)
    (failed : r.execute id fuel = ⟨last, .failed abort⟩) :
    ∃ m i, last.machines[id]? = some m ∧ m.pointer = abort.address + 1 ∧
      m.slots[abort.address]? = some (some i) ∧ i.op = abort.op := by
  obtain ⟨-, moment, before, -, -, here, -, -, taken⟩ := turning_of_failed wf failed
  cases taken with
  | @aborted i next fault going held outcome =>
    refine ⟨next, i, machines_put_self here next, outcome.pointer_of_error, ?_, rfl⟩
    rw [outcome.frame.1]
    exact held

end Rack

namespace Session

/-- The events of a run that takes the machine `m` to the machine `last` and is answered so. -/
inductive Trail (m last : Machine) : Except Fault Reply → List Event → Prop
  | cut : Trail m last (.ok .unfinished) [.started m.pointer m.slots.size]
  | returned : Trail m last (.ok .done)
      [.started m.pointer m.slots.size, .finished last.pointer last.running]
  | aborted {fault : Fault} {address : Nat} {i : Instruction}
      (family : fault.isMachineFault = true) (past : last.pointer = address + 1)
      (held : last.slots[address]? = some (some i)) :
      Trail m last (.error fault)
        [.started m.pointer m.slots.size, .aborted address i.op fault.message]
  | broken {fault : Fault} (stray : fault.isMachineFault = false) :
      Trail m last (.error fault) [.started m.pointer m.slots.size]

variable {s : Session} {id : MachineId} {m : Machine} {counts : List Nat} {fuel : Nat}

theorem exists_machine_execute (wf : s.rack.WellFormed counts) (here : s.machine? id = some m)
    (fuel : Nat) : ∃ last, (s.execute fuel id).1.machine? id = some last := by
  obtain ⟨inside, -⟩ := Array.getElem?_eq_some_iff.mp here
  have there : id < (s.execute fuel id).1.rack.machines.size := by
    rw [execute_rack, (wf.execute id fuel).size, ← wf.size]
    exact inside
  exact ⟨_, Array.getElem?_eq_getElem there⟩

/-- The events that a run issues are a trail from the machine before it to the machine after it. -/
theorem trail_issued {last : Machine} (wf : s.rack.WellFormed counts)
    (here : s.machine? id = some m) (there : (s.execute fuel id).1.machine? id = some last) :
    Trail m last (s.execute fuel id).2 (s.issued fuel (.execute id)) := by
  rw [machine?, execute_rack] at there
  simp only [execute, issued, onMachine, here]
  cases run : s.rack.execute id fuel with
  | mk rack ending =>
    rw [run] at there
    cases ending with
    | unfinished => exact .cut
    | returned =>
      simp only [conclude, closing, onMachine, machine?, there]
      exact .returned
    | failed abort =>
      obtain ⟨m', i, found, past, held, op⟩ := Rack.machine_of_failed wf run
      cases there.symm.trans found
      simp only [conclude, closing]
      cases family : abort.fault.isMachineFault with
      | true =>
        rw [← op]
        exact .aborted family past held
      | false => exact .broken family

/-- In a log that admits the events of machines, a run writes that it started, with the pointer
and the number of the slots; then, if it returns, that it finished, with the pointer and the
running flag that are left; if it fails by a machine fault, that it was aborted, with the address
before the pointer that is left, the operation in the slot there and the message; and nothing else.
-/
theorem execution_trail (wf : s.rack.WellFormed counts) (verbose : s.journal.IsVerbose)
    (here : s.machine? id = some m) (fuel : Nat) :
    ∃ last events renderer, (s.execute fuel id).1.machine? id = some last ∧
      Trail m last (s.execute fuel id).2 events ∧
      s.journal.Writes renderer events (s.execute fuel id).1.journal := by
  obtain ⟨last, there⟩ := exists_machine_execute wf here fuel
  obtain ⟨renderer, kept⟩ := Journal.exists_renderer verbose
  exact ⟨last, _, renderer, there, trail_issued wf here there,
    perform_writes wf verbose kept fuel rfl⟩

/-- A return from the only slot of a machine finds no address on the stack. -/
theorem execution_trail_exceeded :
    let s : Session := { single (oneSlot ⟨0, .ret, []⟩ []) with
      journal := { settings := some ⟨.debug, .json⟩ } }
    let fault : Fault := .stackExceeded "1" 0
    s.rack.WellFormed [1] ∧ s.journal.IsVerbose ∧ (s.execute 1 0).2 = .error fault ∧
      ∃ renderer, s.journal.Writes renderer
        [.started 0 1, .aborted 0 .ret "Cannot pop 1 value(s) from a stack of depth 0"]
        (s.execute 1 0).1.journal := by
  intro s fault
  have hi : (⟨0, .ret, []⟩ : Instruction).WellFormed 0 := ⟨by decide, by decide, rfl⟩
  have wf : s.rack.WellFormed [1] := rack_oneSlot hi []
  have verbose : s.journal.IsVerbose := ⟨.json, rfl⟩
  have here : s.machine? 0 = some (oneSlot ⟨0, .ret, []⟩ []) := rfl
  have short : (oneSlot ⟨0, .ret, []⟩ []).advanced.stack.length < Opcode.ret.effect.pops :=
    Nat.zero_lt_one
  obtain ⟨left, first⟩ := turn_oneSlot hi fun view => .exceeded short
  have run : s.rack.execute 0 1 = ⟨left, .failed ⟨0, .ret, fault⟩⟩ := Loop.run_of_failed 0 first
  have failed := (execute_of_failed here run).1
  obtain ⟨last, events, renderer, there, trail, written⟩ := execution_trail wf verbose here 1
  refine ⟨wf, verbose, failed, renderer, ?_⟩
  rw [failed] at trail
  cases trail with
  | @aborted _ address i family past held =>
    obtain ⟨m', i', found, past', held', op⟩ := Rack.machine_of_failed wf run
    rw [machine?, execute_rack, run] at there
    cases there.symm.trans found
    have same : address = 0 := by
      have sum : address + 1 = 0 + 1 := past.symm.trans past'
      omega
    subst same
    cases held.symm.trans held'
    rw [op] at written
    exact written
  | broken stray => cases stray

end Session

end StackMachine
