import StackMachine.Proofs.Runs
import StackMachine.Proofs.SelfContained

/-!
# The stack frame property

A machine without references is run twice: once as it is, and once among other machines
or with other values below its stack. The two runs match turn by turn, as long as the
first does not run out of values, so what lies below is neither seen nor changed. Runs
that stop for want of values are not compared.
-/

namespace StackMachine.Rack

/-- The machine `id`, which has only instructions of its own and holds no references. -/
structure Enclosed (id : MachineId) (r : Rack) (m : Machine) : Prop where
  here : r.machines[id]? = some m
  own : m.Owned id
  free : m.SelfContained

/-- The machine `id` of the first rack stands in the second with the values `below` under its
stack, it prints to `stream`, and the racks are otherwise related by `P`. -/
structure Twins (id : MachineId) (below : List Value) (stream : Stream) (P : Rack → Rack → Prop)
    (r t : Rack) (m : Machine) : Prop where
  first : r.Enclosed id m
  second : t.machines[id]? = some (m.underlaid below)
  printing : m.stream = stream
  others : P r t

/-- The relation is kept when the machine `id` of both racks changes and prints something. -/
def Kept (id : MachineId) (stream : Stream) (P : Rack → Rack → Prop) : Prop :=
  ∀ (r t : Rack) (m n : Machine) (text : String), P r t →
    P ((r.put id m).record stream text) ((t.put id n).record stream text)

/-- A run with values below its stack need not match one that ran out of values. -/
def Excused (below : List Value) (abort : Abort) : Prop :=
  below ≠ [] ∧ abort.fault.category? = some .stackExceeded

variable {r t : Rack} {id : MachineId} {m next : Machine} {below : List Value} {stream : Stream}
  {P : Rack → Rack → Prop}

theorem Twins.change (twins : Twins id below stream P r t m) (kept : Kept id stream P)
    (own : next.Owned id) (free : next.SelfContained) (output : next.output = m.output)
    (text : String) :
    Twins id below stream P ((r.put id next).record next.stream text)
      ((t.put id (next.underlaid below)).record next.stream text) next := by
  have printing : next.stream = stream := by
    rw [← twins.printing, Machine.stream, output, Machine.stream]
  refine ⟨⟨?_, own, free⟩, ?_, printing, ?_⟩
  · exact machines_put_record twins.first.here next _ text
  · exact machines_put_record twins.second _ _ text
  · rw [printing]
    exact kept _ _ _ _ _ twins.others

theorem Twins.quiet (twins : Twins id below stream P r t m) (kept : Kept id stream P)
    (own : next.Owned id) (free : next.SelfContained) (output : next.output = m.output) :
    Twins id below stream P (r.put id next) (t.put id (next.underlaid below)) next :=
  twins.change kept own free output ""

theorem Enclosed.applied {i : Instruction} {view : View} {result : Except Fault String}
    (enclosed : r.Enclosed id m) (held : m.slots[m.pointer]? = some (some i))
    (outcome : m.advanced.Application view id i.operands i.op next result) :
    next.Owned id ∧ next.SelfContained ∧ next.output = m.output := by
  have slots : next.slots = m.slots := outcome.frame.1
  have given := enclosed.free.slots _ _ held
  have free := enclosed.free.of_slots slots (outcome.selfContained enclosed.free.stack given)
  exact ⟨enclosed.own.of_slots slots, free, outcome.frame.2⟩

theorem Twins.turn_matched (twins : Twins id below stream P r t m) (kept : Kept id stream P) :
    (turn id r).Matched (fun r t => ∃ m, Twins id below stream P r t m) (Excused below)
      (turn id t) := by
  obtain ⟨here, own, free⟩ := twins.first
  have own' : (m.underlaid below).Owned id := own
  have taken := turning_turn here own
  generalize turn id r = a at taken
  cases taken with
  | resting still =>
    rw [turn_of_resting twins.second still]
    exact .idle
  | skipped going empty =>
    have passed : turn id t = .moved (t.put id (m.advanced.underlaid below)) :=
      (turn_eq_iff twins.second own').mpr (.skipped going empty)
    rw [passed]
    exact .moved ⟨_, twins.quiet kept own (free.of_slots rfl free.stack) rfl⟩
  | @applied i next text going held outcome =>
    have given := free.slots _ _ held
    have enough : i.op.effect.pops ≤ m.advanced.stack.length :=
      Nat.le_of_not_lt fun short => by cases outcome.of_short short
    have outcome' := outcome.underlay free.stack given below (Or.inr enough)
      (t.put id (m.underlaid below).advanced).view
    have moved : turn id t =
        .moved ((t.put id (next.underlaid below)).record next.stream text) :=
      turn_of_applied (m := m.underlaid below) twins.second own' going held outcome'
    obtain ⟨nextOwn, nextFree, output⟩ := twins.first.applied held outcome
    rw [moved]
    exact .moved ⟨next, twins.change kept nextOwn nextFree output text⟩
  | @aborted i next fault going held outcome =>
    have given := free.slots _ _ held
    by_cases enough : below = [] ∨ i.op.effect.pops ≤ m.advanced.stack.length
    · have outcome' := outcome.underlay free.stack given below enough
        (t.put id (m.underlaid below).advanced).view
      have failed : turn id t =
          .failed (t.put id (next.underlaid below)) ⟨m.pointer, i.op, fault⟩ :=
        turn_of_aborted (m := m.underlaid below) twins.second own' going held outcome'
      obtain ⟨nextOwn, nextFree, output⟩ := twins.first.applied held outcome
      rw [failed]
      exact .failed ⟨next, twins.quiet kept nextOwn nextFree output⟩
    · have deep : below ≠ [] := fun none => enough (Or.inl none)
      have short : m.advanced.stack.length < i.op.effect.pops :=
        Nat.lt_of_not_le fun le => enough (Or.inr le)
      have exceeded := Except.error.inj (outcome.of_short short)
      exact .excused ⟨deep, by rw [exceeded]; rfl⟩

/-- The runs of the two machines match, unless the first ran out of values. -/
theorem Twins.execute_matched (twins : Twins id below stream P r t m) (kept : Kept id stream P)
    (fuel : Nat)
    (unexcused : ∀ abort, (r.execute id fuel).ending = .failed abort → ¬ Excused below abort) :
    (∃ n, Twins id below stream P (r.execute id fuel).state (t.execute id fuel).state n) ∧
      (t.execute id fuel).ending = (r.execute id fuel).ending := by
  have started : Twins id below stream P (r.start id) (t.start id) { m with running := true } := by
    rw [start_of twins.first.here, start_of twins.second]
    have free := twins.first.free
    exact twins.quiet kept twins.first.own (free.of_slots rfl free.stack) rfl
  exact Loop.run_matched (R := fun r t => ∃ m, Twins id below stream P r t m)
    (fun r t ⟨_, twins⟩ => twins.turn_matched kept) fuel ⟨_, started⟩ unexcused

/-- The racks are the same but for the machine `id`. -/
def SameElsewhere (id : MachineId) (r t : Rack) : Prop := ∀ m, r.put id m = t.put id m

theorem sameElsewhere_kept (id : MachineId) (stream : Stream) :
    Kept id stream (SameElsewhere id) := by
  intro r t m n text same other
  rw [put_record, put_record, put_put, put_put, same]

/-- A run that does not fail for want of values is the same with any values below the stack, which
are there when it ends: it ends in the same way, and all else is as without them. -/
theorem execute_underlaid (enclosed : r.Enclosed id m) (below : List Value) (fuel : Nat)
    (sufficient : ∀ abort, (r.execute id fuel).ending = .failed abort →
      abort.fault.category? ≠ some .stackExceeded) :
    ∃ last, (r.execute id fuel).state.machines[id]? = some last ∧
      (r.put id { m with stack := m.stack ++ below }).execute id fuel =
        ⟨(r.execute id fuel).state.put id { last with stack := last.stack ++ below },
          (r.execute id fuel).ending⟩ := by
  have twins : Twins id below m.stream (SameElsewhere id) r (r.put id (m.underlaid below)) m :=
    ⟨enclosed, machines_put_self enclosed.here _, rfl, fun n => (put_put r id _ n).symm⟩
  obtain ⟨⟨last, ended⟩, ending⟩ := twins.execute_matched (sameElsewhere_kept id _) fuel
    fun abort failed excuse => sufficient abort failed excuse.2
  refine ⟨last, ended.first.here, ?_⟩
  have state := put_of_here ended.second
  rw [← ended.others] at state
  change (r.put id (m.underlaid below)).execute id fuel =
    ⟨(r.execute id fuel).state.put id (last.underlaid below), (r.execute id fuel).ending⟩
  rw [← ending, state]

/-- A machine that multiplies the value on its stack by three leaves a text below it alone. -/
theorem execute_underlaid_product :
    let m : Machine := { slots := #[some ⟨0, .push, [.int 3]⟩, some ⟨0, .mult, []⟩],
                         stack := [.int 2] }
    let r : Rack := { machines := #[m] }
    let ended (stack : List Value) : Loop.Run Rack Abort :=
      ⟨{ machines := #[{ m with pointer := 2, running := true, stack := stack }] }, .returned⟩
    r.Enclosed 0 m ∧ r.execute 0 3 = ended [.int 6] ∧
      (r.put 0 { m with stack := [.int 2, .text "below"] }).execute 0 3 =
        ended [.int 6, .text "below"] := by
  intro m r ended
  have slots : ∀ (address : Nat) (i : Instruction), m.slots[address]? = some (some i) →
      i.owner = 0 ∧ Value.areSelfContained i.operands = true := by
    intro address i held
    rcases address with _ | _ | address
    · cases held
      exact ⟨rfl, rfl⟩
    · cases held
      exact ⟨rfl, rfl⟩
    · simp [m] at held
  have enclosed : r.Enclosed 0 m :=
    ⟨rfl, fun address i held => (slots address i held).1, rfl,
      fun address i held => (slots address i held).2⟩
  have run : r.execute 0 3 = ended [.int 6] := by
    simp [r, m, ended, execute, start, put, Loop.run, turn, apply, Machine.apply,
      Machine.applyPush, Machine.push, Machine.applyMult, Machine.taking, Machine.pop,
      Machine.popCount, Opcode.effect, Machine.multiply, Value.number?, Number.product,
      Number.mul, Value.ofNumber, record]
  obtain ⟨last, there, framed⟩ := execute_underlaid enclosed [.text "below"] 3
    (by rw [run]; intro abort failed; cases failed)
  rw [run] at there framed
  cases there
  exact ⟨enclosed, run, framed⟩

end StackMachine.Rack
