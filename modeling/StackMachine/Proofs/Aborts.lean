import StackMachine.Proofs.History
import StackMachine.Proofs.MachineEvents
import StackMachine.Proofs.Products

/-! # How a failed run is reported

A run fails in the turn that applies some instruction, and what is applied there decides
whether the fault belongs to the family of machine faults: if it does, the run is
reported in the log before the fault leaves it, and otherwise nothing more is written.
PRINT, which may also fail for its stream, is left out. Where it is said exactly which
faults leave the family, values are assumed not to be nested too deeply for a text. -/

namespace StackMachine

namespace Machine

/-- An operation other than PRINT fails for a reason outside the family of machine faults. -/
def Escapes (m : Machine) (operands : List Value) : Opcode → Prop
  | .mult => ∃ first second rest, m.stack = first :: second :: rest ∧ ProductEscapes first second
  | .call => ∃ address more, operands = address :: more ∧ address.isWritable = false
  | .ret => ∃ address rest, m.stack = address :: rest ∧ address.isWritable = false
  | .stop | .print | .push => False

/-- The fault of a failed operation is no machine fault exactly when the operation escapes. -/
theorem Application.escapes_iff {view : View} {self : MachineId} {m next : Machine}
    {operands : List Value} {op : Opcode} {fault : Fault}
    (h : m.Application view self operands op next (.error fault))
    (kind : op ∈ [Opcode.mult, .call, .ret]) (equipped : op.arity ≤ operands.length) :
    fault.isMachineFault = false ↔ m.Escapes operands op := by
  cases h with
  | exceeded short =>
    -- This is a machine fault, and an operation that escapes has the values it takes.
    simp only [List.mem_cons, List.not_mem_nil, or_false] at kind
    constructor
    · intro stray
      simp [Fault.isMachineFault, Fault.category?] at stray
    · intro escape
      rcases kind with rfl | rfl | rfl
      · obtain ⟨first, second, rest, top, -⟩ := escape
        simp only [top, Opcode.effect, List.length_cons] at short
        omega
      · exact absurd short (Nat.not_lt_zero _)
      · obtain ⟨address, rest, top, -⟩ := escape
        simp only [top, Opcode.effect, List.length_cons] at short
        omega
  | unequipped needed absent =>
    rw [absent] at equipped
    exact absurd needed (Nat.not_lt_of_le equipped)
  | unmultiplied top value =>
    rw [multiply_error value]
    constructor
    · intro escape
      exact ⟨_, _, _, top, escape⟩
    · rintro ⟨first, second, rest, top', escape⟩
      cases top.symm.trans top'
      exact escape
  | uncalled given jump =>
    rw [setAddress_error jump]
    constructor
    · intro long
      exact ⟨_, _, given, long⟩
    · rintro ⟨address, more, given', long⟩
      cases given.symm.trans given'
      exact long
  | unreturned top jump =>
    rw [setAddress_error jump]
    constructor
    · intro long
      exact ⟨_, _, top, long⟩
    · rintro ⟨address, rest, top', long⟩
      cases top.symm.trans top'
      exact long
  | shown top line => simp at kind

end Machine

namespace Rack

/-- A run of the machine `id` comes to a turn in which the machine, in the state `before`, fails
in applying the instruction `i`. -/
structure FailsAt (id : MachineId) (r : Rack) (before : Machine) (i : Instruction)
    (fault : Fault) : Prop where
  reached : ∃ turns moment last, r.execute id turns = ⟨moment, .unfinished⟩ ∧
    moment.machines[id]? = some before ∧
      turn id moment = .failed last ⟨before.pointer, i.op, fault⟩
  going : before.Going
  held : before.slots[before.pointer]? = some (some i)

variable {r last : Rack} {id : MachineId} {counts : List Nat} {fuel : Nat} {abort : Abort}

theorem turning_of_failed (wf : r.WellFormed counts)
    (failed : r.execute id fuel = ⟨last, .failed abort⟩) :
    ∃ turns moment before count, r.execute id turns = ⟨moment, .unfinished⟩ ∧
      moment.machines[id]? = some before ∧ before.WellFormed id count ∧
      turn id moment = .failed last abort ∧ Turning id moment before (.failed last abort) := by
  obtain ⟨turns, moment, reached, fails⟩ := Loop.moment_of_failed failed
  have wf' : moment.WellFormed counts := by
    have kept := wf.execute id turns
    rwa [execute, reached] at kept
  cases here : moment.machines[id]? with
  | none => simp [turn, here] at fails
  | some before =>
    obtain ⟨count, -, wfm⟩ := wf'.machines id before here
    have taken := turning_turn here wfm.owned
    rw [fails] at taken
    exact ⟨turns, moment, before, count, reached, here, wfm, fails, taken⟩

/-- A failed run fails in applying an instruction, which the abort names. -/
theorem failsAt_of_failed (wf : r.WellFormed counts)
    (failed : r.execute id fuel = ⟨last, .failed abort⟩) :
    ∃ before i, r.FailsAt id before i abort.fault ∧ (∃ count, before.WellFormed id count) ∧
      abort.address = before.pointer ∧ abort.op = i.op ∧
      ∃ view next, before.advanced.Application view id i.operands i.op next
        (.error abort.fault) := by
  obtain ⟨turns, moment, before, count, reached, here, wfm, fails, taken⟩ :=
    turning_of_failed wf failed
  cases taken with
  | @aborted i next fault going held outcome =>
    exact ⟨before, i, ⟨⟨turns, moment, _, reached, here, fails⟩, going, held⟩, ⟨count, wfm⟩,
      rfl, rfl, _, next, outcome⟩

theorem FailsAt.of_first {before : Machine} {i : Instruction} {fault : Fault}
    (fails : r.FailsAt id before i fault) (first : turn id (r.start id) = .failed last abort) :
    (r.start id).machines[id]? = some before := by
  obtain ⟨turns, moment, last', reached, there, -⟩ := fails.reached
  cases turns with
  | zero =>
    cases reached
    exact there
  | succ turns =>
    rw [execute, Loop.run_of_failed _ first] at reached
    cases reached

end Rack

namespace Session

variable {s : Session} {id : MachineId} {m : Machine} {counts : List Nat} {fuel : Nat}

/-- A failed run is concluded by one more event, if its fault is a machine fault. -/
theorem execute_of_failed {last : Rack} {abort : Abort} (here : s.machine? id = some m)
    (run : s.rack.execute id fuel = ⟨last, .failed abort⟩) :
    (s.execute fuel id).2 = .error abort.fault ∧
      (s.execute fuel id).1.journal =
        let started := s.journal.machineEvent (.started m.pointer m.slots.size)
        if abort.fault.isMachineFault then
          started.machineEvent (.aborted abort.address abort.op abort.fault.message)
        else started := by
  simp only [execute, onMachine, here, conclude, run, true_and]
  split <;> rfl

theorem run_of_execute_error {fault : Fault} (here : s.machine? id = some m)
    (failed : (s.execute fuel id).2 = .error fault) :
    ∃ last abort, s.rack.execute id fuel = ⟨last, .failed abort⟩ ∧ abort.fault = fault := by
  cases run : s.rack.execute id fuel with
  | mk last ending =>
    cases ending with
    | failed abort =>
      have outcome := (execute_of_failed here run).1
      exact ⟨last, abort, rfl, Except.error.inj (outcome.symm.trans failed)⟩
    | unfinished =>
      simp only [execute, onMachine, here, conclude, run] at failed
      cases failed
    | returned =>
      simp only [execute, onMachine, here, conclude, run] at failed
      split at failed <;> cases failed

/-- The events of a failed run, in a log that takes all of them. -/
theorem grows_of_failed {last : Rack} {abort : Abort} (wf : s.rack.WellFormed counts)
    (here : s.machine? id = some m) (run : s.rack.execute id fuel = ⟨last, .failed abort⟩)
    (index : abort.address ≤ Machine.indexLimit) (verbose : s.journal.IsVerbose) :
    s.journal.Grows
      (.started m.pointer m.slots.size ::
        if abort.fault.isMachineFault then
          [.aborted abort.address abort.op abort.fault.message]
        else [])
      (s.execute fuel id).1.journal := by
  have plain : (Event.started m.pointer m.slots.size).Plain := by
    obtain ⟨count, -, wfm⟩ := wf.machines id m here
    have fits := wfm.fits
    have size := wfm.size
    have pointer := wfm.pointer
    exact Event.plain_started (by omega) (by omega)
  obtain ⟨still, first⟩ := Journal.machineEvent_of_plain verbose plain
  rw [(execute_of_failed here run).2]
  dsimp only
  split
  · obtain ⟨-, second⟩ := Journal.machineEvent_of_plain still
      (Event.plain_aborted abort.op abort.fault.message index)
    exact first.trans second
  · exact first

/-- A running machine whose only slot holds an instruction. -/
def oneSlot (i : Instruction) (stack : List Value) : Machine :=
  { slots := #[some i], running := true, stack := stack }

section OneSlot

variable {i : Instruction} {stack : List Value}

theorem wellFormed_oneSlot (hi : i.WellFormed 0) (stack : List Value) :
    (oneSlot i stack).WellFormed 0 1 := by
  refine ⟨by decide, rfl, Nat.zero_le _, ?_⟩
  intro address j held
  cases address with
  | zero =>
    cases held
    exact hi
  | succ address => cases held

theorem rack_oneSlot (hi : i.WellFormed 0) (stack : List Value) :
    (single (oneSlot i stack)).rack.WellFormed [1] := by
  refine ⟨rfl, ?_⟩
  intro id m held
  cases id with
  | zero =>
    cases held
    exact ⟨1, rfl, wellFormed_oneSlot hi stack⟩
  | succ id => cases held

theorem turn_oneSlot {next : Machine} {fault : Fault} (hi : i.WellFormed 0)
    (outcome : ∀ view, (oneSlot i stack).advanced.Application view 0 i.operands i.op next
      (.error fault)) :
    ∃ last, Rack.turn 0 ((single (oneSlot i stack)).rack.start 0) =
      .failed last ⟨0, i.op, fault⟩ :=
  ⟨_, Rack.turn_of_aborted (m := oneSlot i stack) rfl (wellFormed_oneSlot hi stack).owned
    ⟨rfl, Nat.zero_lt_one⟩ rfl (outcome _)⟩

end OneSlot

/-- A run that fails in applying MULT, CALL or RET gives a machine fault, and a log that takes all
events then has the address, the operation and the message, except when the operation escapes:
then the fault is none of the family and the log has nothing after the start of the run. -/
theorem failed_run_reported {fault : Fault} (wf : s.rack.WellFormed counts)
    (here : s.machine? id = some m) (failed : (s.execute fuel id).2 = .error fault) :
    ∃ before i, s.rack.FailsAt id before i fault ∧ (i.op ∈ [Opcode.mult, .call, .ret] →
      (¬ before.Escapes i.operands i.op → fault.isMachineFault = true ∧
        (s.journal.IsVerbose → s.journal.Grows
          [.started m.pointer m.slots.size, .aborted before.pointer i.op fault.message]
          (s.execute fuel id).1.journal)) ∧
      (before.Escapes i.operands i.op → fault.isMachineFault = false ∧
        (s.journal.IsVerbose → s.journal.Grows [.started m.pointer m.slots.size]
          (s.execute fuel id).1.journal))) := by
  obtain ⟨last, abort, run, rfl⟩ := run_of_execute_error here failed
  obtain ⟨before, i, fails, ⟨count, wfm⟩, address, op, view, next, outcome⟩ :=
    Rack.failsAt_of_failed wf run
  refine ⟨before, i, fails, fun kind => ?_⟩
  have escapes : abort.fault.isMachineFault = false ↔ before.Escapes i.operands i.op :=
    outcome.escapes_iff kind (wfm.slots _ _ fails.held).equipped
  have grows := grows_of_failed wf here run (by
    have fits := wfm.fits
    have pointer := wfm.pointer
    omega)
  constructor
  · intro inside
    have reported : abort.fault.isMachineFault = true := by
      rw [← Bool.not_eq_false, escapes]
      exact inside
    refine ⟨reported, fun verbose => ?_⟩
    have grown := grows verbose
    rwa [reported, if_pos rfl, address, op] at grown
  · intro outside
    have stray := escapes.mpr outside
    refine ⟨stray, fun verbose => ?_⟩
    have grown := grows verbose
    rwa [stray, if_neg Bool.false_ne_true] at grown

/-- A call of the address five in a machine with one slot is reported. -/
theorem failed_run_reported_call :
    let s : Session := { single (oneSlot ⟨0, .call, [.int 5]⟩ []) with
      journal := { settings := some ⟨.debug, .json⟩ } }
    s.rack.WellFormed [1] ∧ (s.execute 1 0).2 = .error (.addressOutOfBounds 5 0) ∧
      s.journal.Grows [.started 0 1, .aborted 0 .call "Address 5 out of bounds (0..0)"]
        (s.execute 1 0).1.journal := by
  intro s
  have hi : (⟨0, .call, [.int 5]⟩ : Instruction).WellFormed 0 := ⟨by decide, by decide, rfl⟩
  have writable : Integer.isWritable 5 = true := Integer.isWritable_of_index (by decide)
  have refused : ∀ view, (oneSlot ⟨0, .call, [.int 5]⟩ []).advanced.Application view 0 [.int 5]
      .call (oneSlot ⟨0, .call, [.int 5]⟩ []).advanced (.error (.addressOutOfBounds 5 0)) := by
    intro view
    refine .uncalled rfl ?_
    simp only [Machine.setAddress, writable, if_true]
    rfl
  obtain ⟨last, first⟩ := turn_oneSlot hi refused
  have run : s.rack.execute 0 1 = ⟨last, .failed ⟨0, .call, .addressOutOfBounds 5 0⟩⟩ :=
    Loop.run_of_failed 0 first
  have wf : s.rack.WellFormed [1] := rack_oneSlot hi []
  have here : s.machine? 0 = some (oneSlot ⟨0, .call, [.int 5]⟩ []) := rfl
  have failed := (execute_of_failed here run).1
  obtain ⟨before, i, fails, reported⟩ := failed_run_reported wf here failed
  have same : oneSlot ⟨0, .call, [.int 5]⟩ [] = before := Option.some.inj (fails.of_first first)
  subst same
  have call : (⟨0, .call, [.int 5]⟩ : Instruction) = i :=
    Option.some.inj (Option.some.inj fails.held)
  subst call
  have inside : ¬ (oneSlot ⟨0, .call, [.int 5]⟩ []).Escapes [.int 5] .call := by
    rintro ⟨address, more, given, long⟩
    cases given
    rw [Value.isWritable, writable] at long
    cases long
  exact ⟨wf, failed, ((reported (by decide)).1 inside).2 ⟨.json, rfl⟩⟩

/-- It is not true that every failure of MULT, CALL and RET is a machine fault: an address that is
too long to be written is none. -/
theorem failed_run_unreported :
    ¬ ∀ (s : Session) (counts : List Nat) (id : MachineId) (fuel : Nat) (m before : Machine)
      (i : Instruction) (fault : Fault), s.rack.WellFormed counts → s.machine? id = some m →
        (s.execute fuel id).2 = .error fault → s.rack.FailsAt id before i fault →
          i.op ∈ [Opcode.mult, .call, .ret] → fault.isMachineFault = true := by
  intro reports
  have hi : (⟨0, .ret, []⟩ : Instruction).WellFormed 0 := ⟨by decide, by decide, rfl⟩
  have refused : ∀ view, (oneSlot ⟨0, .ret, []⟩ [.int Integer.unwritable]).advanced.Application
      view 0 [] .ret (oneSlot ⟨0, .ret, []⟩ []).advanced (.error .digitLimit) := by
    intro view
    refine .unreturned rfl (Machine.setAddress_of_unwritable _ (by decide) ?_)
    rw [Value.isWritable, Integer.isWritable_unwritable]
  obtain ⟨last, first⟩ := turn_oneSlot hi refused
  have here : (single (oneSlot ⟨0, .ret, []⟩ [.int Integer.unwritable])).machine? 0 =
      some (oneSlot ⟨0, .ret, []⟩ [.int Integer.unwritable]) := rfl
  have run : (single (oneSlot ⟨0, .ret, []⟩ [.int Integer.unwritable])).rack.execute 0 1 =
      ⟨last, .failed ⟨0, .ret, .digitLimit⟩⟩ := Loop.run_of_failed 0 first
  have fails : (single (oneSlot ⟨0, .ret, []⟩ [.int Integer.unwritable])).rack.FailsAt 0
      (oneSlot ⟨0, .ret, []⟩ [.int Integer.unwritable]) ⟨0, .ret, []⟩ .digitLimit :=
    ⟨⟨0, _, last, rfl, rfl, first⟩, ⟨rfl, Nat.zero_lt_one⟩, rfl⟩
  have family := reports _ [1] 0 1 _ _ _ _ (rack_oneSlot hi _) here (execute_of_failed here run).1
    fails (by decide)
  cases family

end Session

end StackMachine
