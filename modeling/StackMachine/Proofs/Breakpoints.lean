import StackMachine.Proofs.Runs
import StackMachine.Proofs.Turn

/-! # STOP as a breakpoint

A program is run again and again until a run ends with the machine still running or
fails. The machine in which every STOP is replaced by an empty slot does the same in
one run: the two are compared turn by turn, and a STOP is a turn after which the
machine has to be started again. Runs that never end have no counterpart here. -/

namespace StackMachine

namespace Machine

/-- The machine with every slot that holds STOP made empty. -/
def clearStops (m : Machine) : Machine :=
  m.withSlots (m.slots.map fun slot => slot.filter fun i => i.op ≠ .stop)

variable {m next : Machine} {id : MachineId}

theorem clearStops_getElem? (m : Machine) (address : Nat) :
    m.clearStops.slots[address]? =
      m.slots[address]?.map fun slot => slot.filter fun i => i.op ≠ .stop := by
  simp only [clearStops, withSlots, Array.getElem?_map]

theorem summary_clearStops (m : Machine) : m.clearStops.summary = m.summary := by
  simp only [summary, clearStops, withSlots, Array.size_map]

theorem going_clearStops (m : Machine) : m.clearStops.Going ↔ m.Going := by
  simp only [Going, clearStops, withSlots, Array.size_map]

theorem Owned.clearStops (own : m.Owned id) : m.clearStops.Owned id := by
  intro address i held
  rw [clearStops_getElem?] at held
  obtain ⟨slot, found, kept⟩ := Option.map_eq_some_iff.mp held
  have some_i : slot = some i := (Option.filter_eq_some_iff.mp kept).1
  exact own address i (some_i ▸ found)

/-- What an operation does is the same with and without the STOPs in the slots. -/
theorem Application.clearStops {view : View} {self : MachineId} {operands : List Value}
    {op : Opcode} {result : Except Fault String}
    (h : m.Application view self operands op next result) :
    m.clearStops.Application view self operands op next.clearStops result := by
  have same : next.clearStops =
      next.withSlots (m.slots.map fun slot => slot.filter fun i => i.op ≠ .stop) := by
    rw [Machine.clearStops, h.frame.1]
  rw [same]
  exact h.withSlots (Array.size_map ..)

end Machine

namespace Rack

/-- The rack in which the machine `id` has lost its STOPs. -/
def clearStops (id : MachineId) (r : Rack) : Rack :=
  match r.machines[id]? with
  | none => r
  | some m => r.put id m.clearStops

def isRunning (id : MachineId) (r : Rack) : Bool := r.machines[id]?.any Machine.running

/-- Whether the slot at the pointer of the machine `id` holds STOP. -/
def atStop (id : MachineId) (r : Rack) : Bool :=
  (r.machines[id]?.bind fun m => m.slots[m.pointer]?.join).any fun i => i.op = .stop

/-- How many STOPs are fetched in a run. -/
def stopsFetched (id : MachineId) (fuel : Nat) (r : Rack) : Nat :=
  (Loop.trace (turn id) fuel (r.start id)).countP (atStop id)

/-- Calling the machine `id` again and again, with nothing in between, until a call returns with
the machine running or fails: so many calls, so many STOPs fetched in all of them, and the end
of the last one. -/
inductive Calls (id : MachineId) : Rack → Nat → Nat → Loop.Run Rack Abort → Prop
  | last {r final : Rack} {fuel : Nat} (run : r.execute id fuel = ⟨final, .returned⟩)
      (on : final.isRunning id = true) :
      Calls id r 1 (r.stopsFetched id fuel) ⟨final, .returned⟩
  | failed {r final : Rack} {fuel : Nat} {abort : Abort}
      (run : r.execute id fuel = ⟨final, .failed abort⟩) :
      Calls id r 1 (r.stopsFetched id fuel) ⟨final, .failed abort⟩
  | again {r next : Rack} {fuel calls stops : Nat} {final : Loop.Run Rack Abort}
      (run : r.execute id fuel = ⟨next, .returned⟩) (off : next.isRunning id = false)
      (more : Calls id next calls stops final) :
      Calls id r (calls + 1) (r.stopsFetched id fuel + stops) final

variable {r : Rack} {id : MachineId} {m next : Machine}

theorem clearStops_of (here : r.machines[id]? = some m) :
    r.clearStops id = r.put id m.clearStops := by
  simp only [clearStops, here]

theorem put_clearStops (here : r.machines[id]? = some m) (next : Machine) :
    (r.put id next).clearStops id = (r.clearStops id).put id next.clearStops := by
  rw [clearStops_of (machines_put_self here next), clearStops_of here, put_put, put_put]

theorem record_clearStops (r : Rack) (id : MachineId) (stream : Stream) (text : String) :
    (r.record stream text).clearStops id = (r.clearStops id).record stream text := by
  unfold record
  split
  · rfl
  · simp only [clearStops]
    split <;> rfl

theorem view_clearStops (here : r.machines[id]? = some m) (next : Machine) :
    ((r.clearStops id).put id next.clearStops).view = (r.put id next).view := by
  rw [clearStops_of here, put_put, view_put here, view_put here, Machine.summary_clearStops]

theorem atStop_of (here : r.machines[id]? = some m) :
    r.atStop id = m.slots[m.pointer]?.join.any fun i => i.op = .stop := by
  simp only [atStop, here, Option.bind_some]

theorem isRunning_of (here : r.machines[id]? = some m) : r.isRunning id = m.running := by
  simp only [isRunning, here, Option.any_some]

theorem start_clearStops (here : r.machines[id]? = some m) :
    (r.start id).clearStops id = (r.clearStops id).start id := by
  have cleared : (r.clearStops id).machines[id]? = some m.clearStops := by
    rw [clearStops_of here]
    exact machines_put_self here _
  rw [start_of here, start_of cleared, put_clearStops here]
  rfl

theorem turn_of_off (off : r.isRunning id = false) : turn id r = .idle := by
  cases here : r.machines[id]? with
  | none => simp only [turn, here]
  | some m =>
    rw [isRunning_of here] at off
    exact turn_of_resting here fun going => by simp [going.1] at off

/-- The machine `id` is running and has only instructions of its own. -/
structure Started (id : MachineId) (r : Rack) (m : Machine) : Prop where
  here : r.machines[id]? = some m
  own : m.Owned id
  on : m.running = true

theorem Started.start_eq (started : Started id r m) : r.start id = r := by
  have same : ({ m with running := true } : Machine) = m := by
    rw [← started.on]
  obtain ⟨inside, found⟩ := Array.getElem?_eq_some_iff.mp started.here
  rw [start_of started.here, same, put, ← found, Array.setIfInBounds_def]
  simp [inside]

/-- A turn and the turn that is taken without the STOPs. -/
inductive Paired (id : MachineId) (r : Rack) : Loop.Turn Rack Abort → Loop.Turn Rack Abort → Prop
  | rest : Paired id r .idle .idle
  | move {next : Rack} {m : Machine} (started : Started id next m)
      (other : r.atStop id = false) : Paired id r (.moved next) (.moved (next.clearStops id))
  | fail {last : Rack} {m : Machine} {abort : Abort} (started : Started id last m)
      (other : r.atStop id = false) :
      Paired id r (.failed last abort) (.failed (last.clearStops id) abort)
  | stop {next : Rack} {m : Machine} (started : Started id (next.start id) m)
      (off : next.isRunning id = false) (stops : r.atStop id = true) :
      Paired id r (.moved next) (.moved ((next.start id).clearStops id))

/-- A slot that holds no STOP holds the same without the STOPs. -/
theorem clearStops_held {i : Instruction} (held : m.slots[m.pointer]? = some (some i))
    (other : i.op ≠ .stop) : m.clearStops.slots[m.clearStops.pointer]? = some (some i) := by
  change m.clearStops.slots[m.pointer]? = some (some i)
  rw [Machine.clearStops_getElem?, held]
  simp [Option.filter, other]

theorem machines_clearStops (here : r.machines[id]? = some m) :
    (r.clearStops id).machines[id]? = some m.clearStops := by
  rw [clearStops_of here]
  exact machines_put_self here _

/-- The machine that an operation other than STOP leaves is still running. -/
theorem Started.applied {i : Instruction} {result : Except Fault String}
    (started : Started id r m) (other : i.op ≠ .stop)
    (outcome : m.advanced.Application (r.put id m.advanced).view id i.operands i.op next result) :
    Started id (r.put id next) next :=
  ⟨machines_put_self started.here next, started.own.of_slots outcome.frame.1,
    (outcome.running other).trans started.on⟩

theorem Started.record (started : Started id r m) (stream : Stream) (text : String) :
    Started id (r.record stream text) m :=
  ⟨by rw [machines_record]; exact started.here, started.own, started.on⟩

/-- Without the STOPs the operation of a slot comes to the same. -/
theorem application_clearStops {i : Instruction} {result : Except Fault String}
    (here : r.machines[id]? = some m)
    (outcome : m.advanced.Application (r.put id m.advanced).view id i.operands i.op next result) :
    m.clearStops.advanced.Application
      ((r.clearStops id).put id m.clearStops.advanced).view id i.operands i.op
        next.clearStops result := by
  have view : ((r.clearStops id).put id m.clearStops.advanced).view =
      (r.put id m.advanced).view := view_clearStops here m.advanced
  rw [view]
  exact outcome.clearStops

/-- At a STOP the machine is switched off, while without the STOPs it passes over the slot. -/
theorem paired_stop {i : Instruction} (started : Started id r m) (going : m.Going)
    (held : m.slots[m.pointer]? = some (some i)) (stop : i.op = .stop) :
    Paired id r (turn id r) (turn id (r.clearStops id)) := by
  let halted : Machine := { m.advanced with running := false }
  have outcome : m.advanced.Application (r.put id m.advanced).view id i.operands i.op halted
      (.ok "") := by
    rw [stop]
    exact .stopped
  have taken : turn id r = .moved (r.put id halted) :=
    turn_of_applied started.here started.own going held outcome
  have empty : m.clearStops.slots[m.clearStops.pointer]? = some none := by
    change m.clearStops.slots[m.pointer]? = some none
    rw [Machine.clearStops_getElem?, held]
    simp [Option.filter, stop]
  have passed : turn id (r.clearStops id) =
      .moved ((r.clearStops id).put id m.clearStops.advanced) :=
    (turn_eq_iff (machines_clearStops started.here) started.own.clearStops).mpr
      (.skipped ((Machine.going_clearStops m).mpr going) empty)
  have halted_here : (r.put id halted).machines[id]? = some halted :=
    machines_put_self started.here halted
  have restarted : (r.put id halted).start id = r.put id m.advanced := by
    have on : ({ halted with running := true } : Machine) = m.advanced := by
      rw [← started.on]
      rfl
    rw [start_of halted_here, put_put, on]
  have again : Started id ((r.put id halted).start id) m.advanced := by
    rw [restarted]
    exact ⟨machines_put_self started.here _, started.own.of_slots rfl, started.on⟩
  have cleared : ((r.put id halted).start id).clearStops id =
      (r.clearStops id).put id m.clearStops.advanced := by
    rw [restarted, put_clearStops started.here]
    rfl
  rw [taken, passed, ← cleared]
  refine .stop again ?_ ?_
  · rw [isRunning_of halted_here]
  · rw [atStop_of started.here, held]
    simp [stop]

/-- The turns with and without the STOPs go together, one by one. -/
theorem paired_turn (started : Started id r m) :
    Paired id r (turn id r) (turn id (r.clearStops id)) := by
  have cleared_here := machines_clearStops started.here
  have cleared_own := started.own.clearStops
  have going_iff := Machine.going_clearStops m
  have taken := turning_turn started.here started.own
  generalize same : turn id r = t at taken
  cases taken with
  | resting still =>
    rw [turn_of_resting cleared_here (mt going_iff.mp still)]
    exact .rest
  | skipped going empty =>
    have cleared_empty : m.clearStops.slots[m.clearStops.pointer]? = some none := by
      change m.clearStops.slots[m.pointer]? = some none
      rw [Machine.clearStops_getElem?, empty]
      rfl
    have passed : turn id (r.clearStops id) = .moved ((r.put id m.advanced).clearStops id) := by
      rw [put_clearStops started.here]
      exact (turn_eq_iff cleared_here cleared_own).mpr
        (.skipped (going_iff.mpr going) cleared_empty)
    rw [passed]
    refine .move ⟨machines_put_self started.here _, started.own.of_slots rfl, started.on⟩ ?_
    rw [atStop_of started.here, empty]
    rfl
  | @applied i next text going held outcome =>
    by_cases stop : i.op = .stop
    · rw [← same]
      exact paired_stop started going held stop
    · have applied : turn id (r.clearStops id) =
          .moved (((r.put id next).record next.stream text).clearStops id) := by
        rw [record_clearStops, put_clearStops started.here]
        exact (turn_eq_iff cleared_here cleared_own).mpr
          (.applied (going_iff.mpr going) (clearStops_held held stop)
            (application_clearStops started.here outcome))
      rw [applied]
      refine .move ((started.applied stop outcome).record _ _) ?_
      rw [atStop_of started.here, held]
      simp [stop]
  | @aborted i next fault going held outcome =>
    have stop : i.op ≠ .stop := outcome.op_ne_stop
    have failed : turn id (r.clearStops id) =
        .failed ((r.put id next).clearStops id) ⟨m.pointer, i.op, fault⟩ := by
      rw [put_clearStops started.here]
      exact (turn_eq_iff cleared_here cleared_own).mpr
        (.aborted (going_iff.mpr going) (clearStops_held held stop)
          (application_clearStops started.here outcome))
    rw [failed]
    refine .fail (started.applied stop outcome) ?_
    rw [atStop_of started.here, held]
    simp [stop]

theorem Started.execute_eq (started : Started id r m) (fuel : Nat) :
    r.execute id fuel = Loop.run (turn id) fuel r := by
  rw [execute, started.start_eq]

theorem Started.stopsFetched_eq (started : Started id r m) (fuel : Nat) :
    r.stopsFetched id fuel = (Loop.trace (turn id) fuel r).countP (atStop id) := by
  rw [stopsFetched, started.start_eq]

/-- Only what runs come to and how many STOPs they fetch matters to the calls. -/
theorem Calls.of_same {other : Rack} {calls stops : Nat} {final : Loop.Run Rack Abort}
    (same : ∀ fuel, ∃ turns, r.execute id turns = other.execute id fuel ∧
      r.stopsFetched id turns = other.stopsFetched id fuel)
    (h : Calls id other calls stops final) : Calls id r calls stops final := by
  cases h with
  | @last _ final fuel run on =>
    obtain ⟨turns, runs, counted⟩ := same fuel
    rw [← counted]
    exact .last (runs.trans run) on
  | @failed _ final fuel abort run =>
    obtain ⟨turns, runs, counted⟩ := same fuel
    rw [← counted]
    exact .failed (runs.trans run)
  | @again _ next fuel calls stops final run off more =>
    obtain ⟨turns, runs, counted⟩ := same fuel
    rw [← counted]
    exact .again (runs.trans run) off more

theorem Calls.prepend {next : Rack} {n : Machine} {calls stops : Nat}
    {final : Loop.Run Rack Abort} (started : Started id r m) (later : Started id next n)
    (moved : turn id r = .moved next) (other : r.atStop id = false)
    (h : Calls id next calls stops final) : Calls id r calls stops final := by
  refine h.of_same fun fuel => ⟨fuel + 1, ?_, ?_⟩
  · rw [started.execute_eq, later.execute_eq, Loop.run_of_moved _ moved]
  · rw [started.stopsFetched_eq, later.stopsFetched_eq, Loop.trace_of_moved _ moved,
      List.countP_cons_of_neg (by simp [other])]

theorem Calls.stop {next : Rack} {calls stops : Nat} {final : Loop.Run Rack Abort}
    (started : Started id r m) (moved : turn id r = .moved next)
    (off : next.isRunning id = false) (stopped : r.atStop id = true)
    (h : Calls id next calls stops final) : Calls id r (calls + 1) (stops + 1) final := by
  have run : r.execute id 2 = ⟨next, .returned⟩ := by
    rw [started.execute_eq, Loop.run_of_moved _ moved, Loop.run_of_idle _ (turn_of_off off)]
  have counted : r.stopsFetched id 2 = 1 := by
    rw [started.stopsFetched_eq, Loop.trace_of_moved _ moved,
      Loop.trace_of_idle _ (turn_of_off off), List.countP_cons_of_pos stopped, List.countP_nil]
  have both := Calls.again run off h
  rwa [counted, Nat.add_comm 1 stops] at both

/-- It makes no difference to the calls whether the machine is already running. -/
theorem Calls.of_start {calls stops : Nat} {final : Loop.Run Rack Abort}
    (started : Started id (r.start id) m) (h : Calls id (r.start id) calls stops final) :
    Calls id r calls stops final := by
  refine h.of_same fun fuel => ⟨fuel, ?_, ?_⟩
  · rw [execute, execute, started.start_eq]
  · rw [stopsFetched, stopsFetched, started.start_eq]

/-- A run without the STOPs that ends is carried out by repeated calls. -/
theorem calls_of_run (fuel : Nat) {final : Rack} {ending : Loop.Ending Abort}
    (started : Started id r m)
    (run : Loop.run (turn id) fuel (r.clearStops id) = ⟨final, ending⟩)
    (ended : ending ≠ .unfinished) :
    ∃ stops last, Calls id r (stops + 1) stops ⟨last, ending⟩ ∧ (∃ n, Started id last n) ∧
      final = last.clearStops id := by
  -- The fuel is that of the run without the STOPs: the calls are found along it.
  induction fuel generalizing r m with
  | zero =>
    cases run
    exact absurd rfl ended
  | succ fuel ih =>
    have paired := paired_turn started
    generalize with_stops : turn id r = t at paired
    generalize without : turn id (r.clearStops id) = u at paired
    cases paired with
    | rest =>
      rw [Loop.run_of_idle _ without] at run
      cases run
      have call : r.execute id 1 = ⟨r, .returned⟩ := by
        rw [started.execute_eq, Loop.run_of_idle _ with_stops]
      have counted : r.stopsFetched id 1 = 0 := by
        rw [started.stopsFetched_eq, Loop.trace_of_idle _ with_stops, List.countP_nil]
      have last := Calls.last call (by rw [isRunning_of started.here, started.on])
      rw [counted] at last
      exact ⟨0, r, last, ⟨m, started⟩, rfl⟩
    | move later other =>
      rw [Loop.run_of_moved _ without] at run
      obtain ⟨stops, last, calls, same⟩ := ih later run
      exact ⟨stops, last, calls.prepend started later with_stops other, same⟩
    | fail later other =>
      rw [Loop.run_of_failed _ without] at run
      cases run
      have call := started.execute_eq 1
      rw [Loop.run_of_failed _ with_stops] at call
      have counted : r.stopsFetched id 1 = 0 := by
        rw [started.stopsFetched_eq, Loop.trace_of_failed _ with_stops,
          List.countP_cons_of_neg (by simp [other]), List.countP_nil]
      have last := Calls.failed call
      rw [counted] at last
      exact ⟨0, _, last, ⟨_, later⟩, rfl⟩
    | stop later off stopped =>
      rw [Loop.run_of_moved _ without] at run
      obtain ⟨stops, last, calls, same⟩ := ih later run
      exact ⟨stops + 1, last, (calls.of_start later).stop started with_stops off stopped, same⟩

/-- One call, seen without the STOPs: it fetches no STOP and ends in the same way, or it fetches
one as its last instruction and is passed through on the way to the state it is resumed from. -/
theorem call_cleared (fuel : Nat) {next : Rack} {ending : Loop.Ending Abort}
    (started : Started id r m) (run : Loop.run (turn id) fuel r = ⟨next, ending⟩)
    (ended : ending ≠ .unfinished) :
    ((∃ n, Started id next n) ∧ (Loop.trace (turn id) fuel r).countP (atStop id) = 0 ∧
      Loop.run (turn id) fuel (r.clearStops id) = ⟨next.clearStops id, ending⟩) ∨
    (next.isRunning id = false ∧ (Loop.trace (turn id) fuel r).countP (atStop id) = 1 ∧
      ending = .returned ∧ (∃ n, Started id (next.start id) n) ∧
      ∃ turns, ∀ more, Loop.run (turn id) (turns + more) (r.clearStops id) =
        Loop.run (turn id) more ((next.start id).clearStops id)) := by
  induction fuel generalizing r m with
  | zero =>
    cases run
    exact absurd rfl ended
  | succ fuel ih =>
    have paired := paired_turn started
    generalize with_stops : turn id r = t at paired
    generalize without : turn id (r.clearStops id) = u at paired
    cases paired with
    | rest =>
      rw [Loop.run_of_idle _ with_stops] at run
      cases run
      left
      refine ⟨⟨m, started⟩, ?_, Loop.run_of_idle _ without⟩
      rw [Loop.trace_of_idle _ with_stops, List.countP_nil]
    | move later other =>
      rw [Loop.run_of_moved _ with_stops] at run
      rw [Loop.trace_of_moved _ with_stops, List.countP_cons_of_neg (by simp [other])]
      rcases ih later run with ⟨on, none, same⟩ | ⟨off, one, returned, again, turns, through⟩
      · exact Or.inl ⟨on, none, (Loop.run_of_moved _ without).trans same⟩
      · refine Or.inr ⟨off, one, returned, again, turns + 1, ?_⟩
        intro more
        rw [Nat.succ_add, Loop.run_of_moved _ without]
        exact through more
    | fail later other =>
      rw [Loop.run_of_failed _ with_stops] at run
      cases run
      left
      refine ⟨⟨_, later⟩, ?_, Loop.run_of_failed _ without⟩
      rw [Loop.trace_of_failed _ with_stops, List.countP_cons_of_neg (by simp [other]),
        List.countP_nil]
    | stop later off stopped =>
      -- The call ends here, and the run without the STOPs goes on from the machine restarted.
      have idle := turn_of_off off
      rw [Loop.run_of_moved _ with_stops] at run
      cases fuel with
      | zero =>
        cases run
        exact absurd rfl ended
      | succ fuel =>
        rw [Loop.run_of_idle _ idle] at run
        cases run
        refine Or.inr ⟨off, ?_, rfl, ⟨_, later⟩, 1, ?_⟩
        · rw [Loop.trace_of_moved _ with_stops, Loop.trace_of_idle _ idle,
            List.countP_cons_of_pos stopped, List.countP_nil]
        · intro more
          rw [Nat.add_comm, Loop.run_of_moved _ without]

/-- Repeated calls that end are one run without the STOPs, and are one more than the STOPs. -/
theorem run_of_calls {calls stops : Nat} {final : Loop.Run Rack Abort}
    (h : Calls id r calls stops final) (started : Started id (r.start id) m) :
    calls = stops + 1 ∧ (∃ n, Started id final.state n) ∧
      ∃ fuel, Loop.run (turn id) fuel ((r.start id).clearStops id) =
        ⟨final.state.clearStops id, final.ending⟩ := by
  induction h generalizing m with
  | last run on =>
    rcases call_cleared _ started run (by simp) with ⟨there, none, same⟩ | ⟨off, -⟩
    · rw [stopsFetched, none]
      exact ⟨rfl, there, _, same⟩
    · rw [on] at off
      cases off
  | failed run =>
    rcases call_cleared _ started run (by simp) with ⟨there, none, same⟩ | ⟨-, -, returned, -⟩
    · rw [stopsFetched, none]
      exact ⟨rfl, there, _, same⟩
    · cases returned
  | again run off more ih =>
    rcases call_cleared _ started run (by simp) with
      ⟨⟨n, there⟩, -⟩ | ⟨-, one, -, ⟨n, again⟩, turns, through⟩
    · rw [isRunning_of there.here, there.on] at off
      cases off
    · obtain ⟨counted, there, fuel, same⟩ := ih again
      rw [stopsFetched, one]
      exact ⟨by omega, there, turns + fuel, (through fuel).trans same⟩

theorem Calls.ended {calls stops : Nat} {final : Loop.Run Rack Abort}
    (h : Calls id r calls stops final) : final.ending ≠ .unfinished := by
  induction h with
  | last run on => simp
  | failed run => simp
  | again run off more ih => exact ih

/-- In both racks the machine `id` has the same pointer and stack, and the same text has been
printed. -/
def Agree (id : MachineId) (r other : Rack) : Prop :=
  r.printed = other.printed ∧ ∃ m n, r.machines[id]? = some m ∧ other.machines[id]? = some n ∧
    m.pointer = n.pointer ∧ m.stack = n.stack

theorem agree_clearStops (here : r.machines[id]? = some m) : Agree id r (r.clearStops id) := by
  refine ⟨?_, m, m.clearStops, here, machines_clearStops here, rfl, rfl⟩
  rw [clearStops_of here]
  rfl

theorem started_start (here : r.machines[id]? = some m) (own : m.Owned id) :
    Started id (r.start id) { m with running := true } := by
  rw [start_of here]
  exact ⟨machines_put_self here _, own.of_slots rfl, rfl⟩

/-- STOP is a resumable breakpoint of a machine that owns its instructions. If the run without the
STOPs ends, calling the machine again and again ends in the same way, after one call more than
STOPs are fetched; and if calling it again and again ends, so does the run without the STOPs. -/
theorem stop_resumable (here : r.machines[id]? = some m) (own : m.Owned id) :
    (∀ fuel cleared ending, (r.clearStops id).execute id fuel = ⟨cleared, ending⟩ →
      ending ≠ .unfinished →
        ∃ stops final, Calls id r (stops + 1) stops ⟨final, ending⟩ ∧ Agree id final cleared) ∧
    (∀ calls stops final ending, Calls id r calls stops ⟨final, ending⟩ →
      calls = stops + 1 ∧ ending ≠ .unfinished ∧
        ∃ fuel cleared, (r.clearStops id).execute id fuel = ⟨cleared, ending⟩ ∧
          Agree id final cleared) := by
  have started := started_start here own
  constructor
  · intro fuel cleared ending run ended
    rw [execute, ← start_clearStops here] at run
    obtain ⟨stops, final, calls, ⟨n, there⟩, rfl⟩ := calls_of_run fuel started run ended
    exact ⟨stops, final, calls.of_start started, agree_clearStops there.here⟩
  · intro calls stops final ending h
    obtain ⟨counted, ⟨n, there⟩, fuel, run⟩ := run_of_calls h started
    rw [start_clearStops here] at run
    exact ⟨counted, h.ended, fuel, final.clearStops id, run, agree_clearStops there.here⟩

/-- A machine whose last instruction is a STOP: the second call finds nothing left to do. -/
theorem stop_resumable_last_slot :
    let push : Instruction := ⟨0, .push, [.int 7]⟩
    let m : Machine := { slots := #[some push, some ⟨0, .stop, []⟩] }
    let r : Rack := { machines := #[m] }
    let cleared : Rack := { machines := #[⟨#[some push, none], 2, true, [.int 7], none⟩] }
    r.machines[0]? = some m ∧ m.Owned 0 ∧
      (∃ stops final, Calls 0 r (stops + 1) stops ⟨final, .returned⟩ ∧ Agree 0 final cleared) ∧
      ∃ final, Calls 0 r 2 1 ⟨final, .returned⟩ ∧
        ∃ fuel cleared, (r.clearStops 0).execute 0 fuel = ⟨cleared, .returned⟩ ∧
          Agree 0 final cleared := by
  intro push m r cleared
  have here : r.machines[0]? = some m := rfl
  have own : m.Owned 0 := by
    intro address i held
    rcases address with _ | _ | address
    · cases held
      rfl
    · cases held
      rfl
    · simp [m] at held
  let middle : Rack := { machines := #[⟨m.slots, 2, false, [.int 7], none⟩] }
  let final : Rack := { machines := #[⟨m.slots, 2, true, [.int 7], none⟩] }
  have first : r.execute 0 3 = ⟨middle, .returned⟩ := by
    simp [r, m, push, middle, execute, start, put, Loop.run, turn, apply, Machine.apply,
      Machine.applyPush, Machine.push, record]
  have second : middle.execute 0 1 = ⟨final, .returned⟩ := by
    simp [m, middle, final, execute, start, put, Loop.run, turn]
  have emptied : r.clearStops 0 = { machines := #[⟨#[some push, none], 0, false, [], none⟩] } := by
    simp [r, m, push, clearStops, Machine.clearStops, Machine.withSlots, put, Option.filter]
  have whole : (r.clearStops 0).execute 0 3 = ⟨cleared, .returned⟩ := by
    rw [emptied]
    simp [push, cleared, execute, start, put, Loop.run, turn, apply, Machine.apply,
      Machine.applyPush, Machine.push, record]
  have calls := Calls.again first rfl (Calls.last second rfl)
  have fetched : r.stopsFetched 0 3 = 1 := by
    simp [r, m, push, stopsFetched, start, put, Loop.trace, turn, apply, Machine.apply,
      Machine.applyPush, Machine.push, record, List.countP, List.countP.go, atStop]
  have unfetched : middle.stopsFetched 0 1 = 0 := by
    simp [m, middle, stopsFetched, start, put, Loop.trace, turn]
  rw [fetched, unfetched] at calls
  have both := stop_resumable here own
  refine ⟨here, own, both.1 3 cleared _ whole (by simp), final, calls, ?_⟩
  exact (both.2 _ _ _ _ calls).2.2

end Rack

end StackMachine
