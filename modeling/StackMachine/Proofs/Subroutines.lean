import StackMachine.Proofs.Runs
import StackMachine.Proofs.Turn

/-!
# Subroutine calls

CALL leaves no return address: the caller puts it under the arguments, and RET finds it on top
once the body has used them up. If the body does so, a call comes back to that address, with
the stack below it untouched, and all that is left of the call is what the body printed. Any
number of such calls may follow each other in a run. Bodies that jump themselves are not
considered.
-/

namespace StackMachine

namespace Machine

/-- Applies instructions one after another, as from consecutive slots: the pointer moves on before
each. Gives the machine and the texts printed, unless an instruction fails. -/
def applyAll (view : View) (self : MachineId) :
    List Instruction → Machine → Option (Machine × List String)
  | [], m => some (m, [])
  | i :: rest, m =>
    match m.advanced.apply view self i.op i.operands with
    | (next, .ok text) =>
      (next.applyAll view self rest).map fun result => (result.1, text :: result.2)
    | (_, .error _) => none

variable {view other : View} {self : MachineId} {m next last : Machine}

theorem applyAll_cons {i : Instruction} {rest : List Instruction} {texts : List String}
    (h : m.applyAll view self (i :: rest) = some (last, texts)) :
    ∃ next text more, m.advanced.Application view self i.operands i.op next (.ok text) ∧
      next.applyAll view self rest = some (last, more) ∧ texts = text :: more := by
  rw [applyAll] at h
  split at h
  · rename_i next text applied
    obtain ⟨⟨final, more⟩, later, same⟩ := Option.map_eq_some_iff.mp h
    cases same
    exact ⟨next, text, more, apply_eq_iff.mp applied, later, rfl⟩
  · cases h

/-- An operation sees its own machine as it is, and only the others through the view. -/
theorem Application.of_view {operands : List Value} {op : Opcode} {result : Except Fault String}
    (same : ∀ m : Machine, m.seenFrom view self = m.seenFrom other self)
    (h : m.Application view self operands op next result) :
    m.Application other self operands op next result := by
  cases h with
  | exceeded short => exact .exceeded short
  | unequipped needed absent => exact .unequipped needed absent
  | multiplied top value => exact .multiplied top (same _ ▸ value)
  | unmultiplied top value => exact .unmultiplied top (same _ ▸ value)
  | called given jump => exact .called given (same _ ▸ jump)
  | uncalled given jump => exact .uncalled given (same _ ▸ jump)
  | returned top jump => exact .returned top (same _ ▸ jump)
  | unreturned top jump => exact .unreturned top (same _ ▸ jump)
  | stopped => exact .stopped
  | shown top line => exact .shown top (same _ ▸ line)
  | pushed given => exact .pushed given

/-- An operation that neither jumps nor stops changes nothing but the stack. -/
theorem Application.plain {operands : List Value} {op : Opcode} {result : Except Fault String}
    (plain : op = .push ∨ op = .mult ∨ op = .print)
    (h : m.Application view self operands op next result) : next = m.withStack next.stack := by
  cases h with
  | called | uncalled | returned | unreturned | stopped => simp at plain
  | _ => rfl

end Machine

namespace Rack

def recordAll (r : Rack) (stream : Stream) (texts : List String) : Rack :=
  texts.foldl (fun r text => r.record stream text) r

variable {r : Rack} {id : MachineId} {m next last : Machine}

theorem machines_recordAll (r : Rack) (stream : Stream) (texts : List String) :
    (r.recordAll stream texts).machines = r.machines := by
  induction texts generalizing r with
  | nil => rfl
  | cons text rest ih => exact (ih (r.record stream text)).trans (machines_record r stream text)

theorem put_recordAll (r : Rack) (stream : Stream) (texts : List String) (id : MachineId)
    (m : Machine) : (r.recordAll stream texts).put id m = (r.put id m).recordAll stream texts := by
  induction texts generalizing r with
  | nil => rfl
  | cons text rest ih =>
    refine (ih (r.record stream text)).trans ?_
    rw [put_record]
    rfl

theorem textOn_recordAll (r : Rack) (stream : Stream) (texts : List String) (other : Stream) :
    (r.recordAll stream texts).textOn other =
      if stream = other then r.textOn other ++ String.join texts else r.textOn other := by
  induction texts generalizing r with
  | nil => simp [recordAll]
  | cons text rest ih =>
    refine (ih (r.record stream text)).trans ?_
    rw [textOn_record, String.join_cons]
    by_cases same : stream = other
    · rw [if_pos same, if_pos same, if_pos same, String.append_assoc]
    · rw [if_neg same, if_neg same, if_neg same]

/-- A machine sees the others in the same state, whatever becomes of itself. -/
theorem seenFrom_put (here : r.machines[id]? = some m) (next seen : Machine) :
    seen.seenFrom (r.put id next).view id = seen.seenFrom r.view id := by
  funext other
  rw [view_put here]
  by_cases same : other = id
  · simp [Machine.seenFrom, same]
  · simp [Machine.seenFrom, same]

theorem pointer_lt_of_held {i : Instruction} (held : m.slots[m.pointer]? = some (some i)) :
    m.pointer < m.slots.size :=
  (Array.getElem?_eq_some_iff.mp held).1

/-- Instructions that neither jump nor stop and that stand in the slots from the pointer on are
applied in a turn each. -/
theorem run_of_applyAll {view : View} {body : List Instruction} {texts : List String}
    (here : r.machines[id]? = some m) (own : m.Owned id) (on : m.running = true)
    (sees : ∀ seen : Machine, seen.seenFrom view id = seen.seenFrom r.view id)
    (stored : ∀ k i, body[k]? = some i → m.slots[m.pointer + k]? = some (some i))
    (plain : ∀ i ∈ body, i.op = .push ∨ i.op = .mult ∨ i.op = .print)
    (applied : m.applyAll view id body = some (last, texts)) :
    last = { m with pointer := m.pointer + body.length, stack := last.stack } ∧
      Loop.run (turn id) body.length r =
        ⟨(r.put id last).recordAll m.stream texts, .unfinished⟩ := by
  induction body generalizing r m texts with
  | nil =>
    cases applied
    refine ⟨rfl, ?_⟩
    rw [put_of_here here]
    rfl
  | cons i rest ih =>
    obtain ⟨next, text, more, outcome, later, rfl⟩ := Machine.applyAll_cons applied
    have held : m.slots[m.pointer]? = some (some i) := stored 0 i rfl
    have going : m.Going := ⟨on, pointer_lt_of_held held⟩
    have seen : m.advanced.Application (r.put id m.advanced).view id i.operands i.op next
        (.ok text) :=
      outcome.of_view fun other => (sees other).trans (seenFrom_put here _ other).symm
    have moved := turn_of_applied here own going held seen
    -- Only the pointer and the stack have changed, so the rest stands where it should.
    obtain ⟨stack, rfl⟩ : ∃ stack, next = m.advanced.withStack stack :=
      ⟨next.stack, outcome.plain (plain i List.mem_cons_self)⟩
    have there := machines_put_record here (m.advanced.withStack stack) m.stream text
    have sees' : ∀ seen : Machine, seen.seenFrom view id =
        seen.seenFrom ((r.put id (m.advanced.withStack stack)).record m.stream text).view id := by
      intro seen
      rw [sees, view_record]
      exact (seenFrom_put here _ seen).symm
    have stored' : ∀ k j, rest[k]? = some j → m.slots[m.pointer + 1 + k]? = some (some j) := by
      intro k j inside
      rw [Nat.add_assoc, Nat.add_comm 1]
      exact stored (k + 1) j inside
    obtain ⟨final, run⟩ := ih there own on sees' stored'
      (fun j inside => plain j (List.mem_cons_of_mem _ inside)) later
    constructor
    · rw [final]
      simp [Machine.advanced, Machine.withStack, Nat.add_assoc, Nat.add_comm 1]
    · rw [List.length_cons, Loop.run_of_moved _ moved]
      refine run.trans ?_
      rw [put_record, put_put]
      rfl

/-- A turn at a CALL with a valid address takes the machine there. -/
theorem turn_of_call {i : Instruction} {address : Nat} (here : r.machines[id]? = some m)
    (own : m.Owned id) (on : m.running = true) (held : m.slots[m.pointer]? = some (some i))
    (op : i.op = .call) (target : i.operands.head? = some (.int address))
    (inside : address < m.slots.size) :
    turn id r = .moved (r.put id { m with pointer := address }) := by
  obtain ⟨more, given⟩ := List.head?_eq_some_iff.mp target
  have outcome : m.advanced.Application (r.put id m.advanced).view id i.operands i.op
      { m with pointer := address } (.ok "") := by
    rw [op]
    refine .called given (Machine.setAddress_eq_ok_iff.mpr ⟨address, rfl, by omega, ?_, rfl⟩)
    simp only [Machine.limit, Machine.advanced]
    omega
  exact turn_of_applied here own ⟨on, pointer_lt_of_held held⟩ held outcome

theorem turn_of_ret {i : Instruction} {address : Nat} {rest : List Value}
    (here : r.machines[id]? = some m) (own : m.Owned id) (on : m.running = true)
    (held : m.slots[m.pointer]? = some (some i)) (op : i.op = .ret)
    (top : m.stack = .int address :: rest) (inside : address < m.slots.size) :
    turn id r = .moved (r.put id { m with pointer := address, stack := rest }) := by
  have outcome : m.advanced.Application (r.put id m.advanced).view id i.operands i.op
      { m with pointer := address, stack := rest } (.ok "") := by
    rw [op]
    refine .returned top (Machine.setAddress_eq_ok_iff.mpr ⟨address, rfl, by omega, ?_, rfl⟩)
    simp only [Machine.limit, Machine.advanced, Machine.withStack]
    omega
  exact turn_of_applied here own ⟨on, pointer_lt_of_held held⟩ held outcome

/-- A call of a subroutine: the address of the CALL, that of the body and the instructions there,
the address to come back to, the arguments above it on the stack and the values below it, both with
the topmost first, and the texts that the body prints. -/
structure Call where
  site : Nat
  entry : Nat
  body : List Instruction
  back : Nat
  args : List Value
  below : List Value
  texts : List String

namespace Call

/-- The machine `id` is about to make a call. Its body is followed by RET and, applied to the stack
as it is, uses up the arguments. -/
structure Ready (id : MachineId) (call : Call) (r : Rack) (m : Machine) : Prop where
  here : r.machines[id]? = some m
  own : m.Owned id
  on : m.running = true
  pointer : m.pointer = call.site
  stack : m.stack = call.args ++ .int call.back :: call.below
  calls : ∃ i, m.slots[call.site]? = some (some i) ∧ i.op = .call ∧
    i.operands.head? = some (.int call.entry)
  stored : ∀ k i, call.body[k]? = some i → m.slots[call.entry + k]? = some (some i)
  plain : ∀ i ∈ call.body, i.op = .push ∨ i.op = .mult ∨ i.op = .print
  returns : ∃ i, m.slots[call.entry + call.body.length]? = some (some i) ∧ i.op = .ret
  inside : call.back < m.slots.size
  consumes : ∃ last, { m with pointer := call.entry : Machine }.applyAll r.view id call.body =
    some (last, call.texts) ∧ last.stack = .int call.back :: call.below

/-- The rack after a call: the machine is at the address to come back to, the arguments and that
address are gone, and the body has printed its texts. -/
def returned (id : MachineId) (call : Call) (r : Rack) (m : Machine) : Rack :=
  (r.put id { m with pointer := call.back, stack := call.below }).recordAll m.stream call.texts

variable {call : Call}

/-- The machine at the RET of a call. -/
def leaving (call : Call) (m : Machine) : Machine :=
  { m with
    pointer := call.entry + call.body.length
    stack := .int call.back :: call.below }

/-- The body takes the machine from its entry to its RET. -/
theorem Ready.run_body (ready : call.Ready id r m) :
    Loop.run (turn id) call.body.length (r.put id { m with pointer := call.entry }) =
      ⟨(r.put id (call.leaving m)).recordAll m.stream call.texts, .unfinished⟩ := by
  obtain ⟨last, applied, rest⟩ := ready.consumes
  have there := machines_put_self ready.here { m with pointer := call.entry }
  obtain ⟨final, run⟩ := run_of_applyAll there ready.own ready.on
    (fun seen => (seenFrom_put ready.here _ seen).symm) ready.stored ready.plain applied
  have same : last = call.leaving m := by
    rw [final, rest]
    rfl
  rw [run, put_put, same]
  rfl

theorem Ready.turn_back (ready : call.Ready id r m) :
    turn id ((r.put id (call.leaving m)).recordAll m.stream call.texts) =
      .moved (call.returned id r m) := by
  obtain ⟨i, held, op⟩ := ready.returns
  have there : ((r.put id (call.leaving m)).recordAll m.stream call.texts).machines[id]? =
      some (call.leaving m) := by
    rw [machines_recordAll]
    exact machines_put_self ready.here _
  rw [turn_of_ret there ready.own ready.on held op rfl ready.inside, put_recordAll, put_put]
  rfl

/-- A call comes back after a turn for the CALL, one for each instruction of the body and one for
the RET. -/
theorem Ready.run (ready : call.Ready id r m) :
    Loop.run (turn id) (call.body.length + 2) r = ⟨call.returned id r m, .unfinished⟩ := by
  obtain ⟨i, held, op, target⟩ := ready.calls
  obtain ⟨ret, returning, -⟩ := ready.returns
  have inside := (Array.getElem?_eq_some_iff.mp returning).1
  rw [← ready.pointer] at held
  have called := turn_of_call ready.here ready.own ready.on held op target (by omega)
  rw [Loop.run_of_moved _ called, Loop.run_resumed ready.run_body 1,
    Loop.run_of_moved 0 ready.turn_back]
  rfl

/-- Calls that follow each other in a run, with any number of other turns before each: so many
turns in all, and the rack after the last call. -/
inductive Sequence (id : MachineId) : Rack → List Call → Nat → Rack → Prop
  | nil {r : Rack} : Sequence id r [] 0 r
  | cons {r middle final : Rack} {m : Machine} {call : Call} {calls : List Call} {gap turns : Nat}
      (approach : Loop.run (turn id) gap r = ⟨middle, .unfinished⟩)
      (ready : call.Ready id middle m)
      (rest : Sequence id (call.returned id middle m) calls turns final) :
      Sequence id r (call :: calls) (gap + (call.body.length + 2 + turns)) final

theorem Sequence.run {calls : List Call} {turns : Nat} {final : Rack}
    (sequence : Sequence id r calls turns final) :
    Loop.run (turn id) turns r = ⟨final, .unfinished⟩ := by
  induction sequence with
  | nil => rfl
  | cons approach ready rest ih =>
    rw [Loop.run_resumed approach, Loop.run_resumed ready.run]
    exact ih

/-- A call of a subroutine whose body uses up its arguments comes back, in as many turns as there
are instructions in the body and two more, to the address below the arguments. The machine is then
as it was but for the pointer and the stack, of which the values below are left; the text of the
body has been printed to its stream and nothing else. In one run any number of calls may follow
each other. -/
theorem calls_return (id : MachineId) :
    (∀ (call : Call) (r : Rack) (m : Machine), call.Ready id r m →
      Loop.run (turn id) (call.body.length + 2) r = ⟨call.returned id r m, .unfinished⟩ ∧
        (call.returned id r m).machines =
          (r.put id { m with pointer := call.back, stack := call.below }).machines ∧
        ∀ stream, (call.returned id r m).textOn stream =
          if m.stream = stream then r.textOn stream ++ String.join call.texts
          else r.textOn stream) ∧
    ∀ (r : Rack) (calls : List Call) (turns : Nat) (final : Rack),
      Sequence id (r.start id) calls turns final → r.execute id turns = ⟨final, .unfinished⟩ := by
  constructor
  · intro call r m ready
    refine ⟨ready.run, machines_recordAll _ _ _, ?_⟩
    intro stream
    exact textOn_recordAll _ _ _ _
  · intro r calls turns final sequence
    exact sequence.run

/-- Two calls of a subroutine that prints its argument, the second from where the first comes back
to. -/
theorem calls_return_twice :
    let print : Instruction := ⟨0, .print, []⟩
    let m : Machine :=
      { slots := #[some ⟨0, .call, [.int 2]⟩, some ⟨0, .call, [.int 2]⟩, some print,
          some ⟨0, .ret, []⟩, none],
        stack := [.text "a", .int 1, .text "b", .int 4] }
    let r : Rack := { machines := #[m] }
    let first : Call := ⟨0, 2, [print], 1, [.text "a"], [.text "b", .int 4], ["a\n"]⟩
    let second : Call := ⟨1, 2, [print], 4, [.text "b"], [], ["b\n"]⟩
    let on : Machine := { m with running := true }
    let between : Machine := { on with pointer := 1, stack := [.text "b", .int 4] }
    first.Ready 0 (r.start 0) on ∧
      second.Ready 0 (first.returned 0 (r.start 0) on) between ∧
      ∃ final, r.execute 0 6 = ⟨final, .unfinished⟩ ∧
        final.machines = #[{ on with pointer := 4, stack := [] }] ∧
        final.textOn .standard = "a\nb\n" := by
  intro print m r first second on between
  have own : ∀ (address : Nat) (i : Instruction), m.slots[address]? = some (some i) →
      i.owner = 0 := by
    intro address i held
    rcases address with _ | _ | _ | _ | _ | address <;> cases held <;> rfl
  have stored : ∀ k i, [print][k]? = some i → m.slots[2 + k]? = some (some i) := by
    intro k i inside
    rcases k with _ | k <;> cases inside
    rfl
  have plain : ∀ i ∈ [print], i.op = .push ∨ i.op = .mult ∨ i.op = .print := by
    intro i inside
    cases List.mem_singleton.mp inside
    simp [print]
  have one : first.Ready 0 (r.start 0) on :=
    { here := rfl, own := own, on := rfl, pointer := rfl, stack := rfl,
      calls := ⟨_, rfl, rfl, rfl⟩, stored := stored, plain := plain,
      returns := ⟨_, rfl, rfl⟩, inside := by decide, consumes := ⟨_, rfl, rfl⟩ }
  have two : second.Ready 0 (first.returned 0 (r.start 0) on) between :=
    { here := rfl, own := own, on := rfl, pointer := rfl, stack := rfl,
      calls := ⟨_, rfl, rfl, rfl⟩, stored := stored, plain := plain,
      returns := ⟨_, rfl, rfl⟩, inside := by decide, consumes := ⟨_, rfl, rfl⟩ }
  let final : Rack := second.returned 0 (first.returned 0 (r.start 0) on) between
  have sequence : Sequence 0 (r.start 0) [first, second] 6 final :=
    .cons (show Loop.run (turn 0) 0 (r.start 0) = _ from rfl) one
      (.cons (show Loop.run (turn 0) 0 (first.returned 0 (r.start 0) on) = _ from rfl) two .nil)
  exact ⟨one, two, final, (calls_return 0).2 r [first, second] 6 final sequence, rfl, rfl⟩

end Call

end Rack

end StackMachine
