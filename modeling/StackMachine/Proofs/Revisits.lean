import StackMachine.Proofs.Runs
import StackMachine.Proofs.Turn
import Mathlib.Data.List.Nodup

/-!
# Programs without RET

Where a machine without RET goes from an address is written in the slot there, so the stack
decides only whether it gets there. A run that returns therefore never comes to an address
twice, and makes no more turns than there are slots. Runs that fail may well come back to an
address, and nothing is said about how often.
-/

namespace StackMachine

namespace Loop

variable {σ ε κ : Type} {turn : σ → Turn σ ε} {Inv : σ → Prop} {key : σ → κ} {s t : σ}

/-- From states with the property `Inv`, a key decides whether a loop has anything left to do, and
the key of the next state, unless the turn fails. -/
structure Steered (turn : σ → Turn σ ε) (Inv : σ → Prop) (key : σ → κ) : Prop where
  kept : ∀ s next, Inv s → turn s = .moved next → Inv next
  idle : ∀ s t, Inv s → Inv t → key s = key t → turn s = .idle → turn t = .idle
  moved : ∀ s t next next', Inv s → Inv t → key s = key t → turn s = .moved next →
    turn t = .moved next' → key next = key next'

/-- Two runs that start with the same key and return take equally many turns. -/
theorem Steered.length_eq (steered : Steered turn Inv key) {fuel fuel' : Nat} (hs : Inv s)
    (ht : Inv t) (same : key s = key t) (returned : (run turn fuel s).ending = .returned)
    (returned' : (run turn fuel' t).ending = .returned) :
    (trace turn fuel s).length = (trace turn fuel' t).length := by
  induction fuel generalizing s t fuel' with
  | zero => cases returned
  | succ fuel ih =>
    cases fuel' with
    | zero => cases returned'
    | succ fuel' =>
      cases first : turn s with
      | idle =>
        have second := steered.idle s t hs ht same first
        rw [trace_of_idle _ first, trace_of_idle _ second]
      | failed last cause =>
        rw [run_of_failed _ first] at returned
        cases returned
      | moved next =>
        cases second : turn t with
        | idle =>
          have both := steered.idle t s ht hs same.symm second
          rw [first] at both
          cases both
        | failed last cause =>
          rw [run_of_failed _ second] at returned'
          cases returned'
        | moved next' =>
          rw [run_of_moved _ first] at returned
          rw [run_of_moved _ second] at returned'
          have later := ih (steered.kept s next hs first) (steered.kept t next' ht second)
            (steered.moved s t next next' hs ht same first second) returned returned'
          rw [trace_of_moved _ first, trace_of_moved _ second, List.length_cons,
            List.length_cons, later]

/-- From every state that a returning run passes through, the rest of it returns as well. -/
theorem returned_of_mem_trace {fuel : Nat} (returned : (run turn fuel s).ending = .returned)
    (passed : t ∈ trace turn fuel s) :
    ∃ rest, (run turn rest t).ending = .returned ∧
      (trace turn rest t).length ≤ (trace turn fuel s).length := by
  induction fuel generalizing s with
  | zero => cases returned
  | succ fuel ih =>
    cases taken : turn s with
    | idle =>
      rw [trace_of_idle _ taken] at passed
      cases passed
    | failed last cause =>
      rw [run_of_failed _ taken] at returned
      cases returned
    | moved next =>
      rw [trace_of_moved _ taken] at passed
      rcases List.mem_cons.mp passed with rfl | later
      · exact ⟨fuel + 1, returned, Nat.le_refl _⟩
      · rw [run_of_moved _ taken] at returned
        obtain ⟨rest, ends, short⟩ := ih returned later
        refine ⟨rest, ends, ?_⟩
        rw [trace_of_moved _ taken, List.length_cons]
        omega

/-- A run that returns meets no key twice: the rest of it would be as long from the second time
on as from the first. -/
theorem Steered.nodup (steered : Steered turn Inv key) {fuel : Nat} (hs : Inv s)
    (returned : (run turn fuel s).ending = .returned) :
    ((trace turn fuel s).map key).Nodup := by
  induction fuel generalizing s with
  | zero => cases returned
  | succ fuel ih =>
    cases taken : turn s with
    | idle =>
      rw [trace_of_idle _ taken]
      exact List.nodup_nil
    | failed last cause =>
      rw [run_of_failed _ taken] at returned
      cases returned
    | moved next =>
      have whole := returned
      rw [run_of_moved _ taken] at returned
      have hnext := steered.kept s next hs taken
      rw [trace_of_moved _ taken, List.map_cons, List.nodup_cons]
      refine ⟨?_, ih hnext returned⟩
      intro again
      obtain ⟨t, passed, same⟩ := List.mem_map.mp again
      obtain ⟨rest, ends, short⟩ := returned_of_mem_trace returned passed
      have ht : Inv t := (trace_keeps steered.kept fuel hnext t passed).1
      have long := steered.length_eq hs ht same.symm whole ends
      rw [trace_of_moved _ taken, List.length_cons] at long
      omega

end Loop

namespace Machine

def ReturnFree (m : Machine) : Prop :=
  ∀ (address : Nat) (i : Instruction), m.slots[address]? = some (some i) → i.op ≠ .ret

theorem ReturnFree.of_slots {m next : Machine} (free : m.ReturnFree)
    (slots : next.slots = m.slots) : next.ReturnFree := by
  intro address i held
  exact free address i (slots ▸ held)

/-- Whether a machine without RET is still running after it has been at an address, and where it
is then. -/
def heading (slots : Array (Option Instruction)) (address : Nat) : Bool × Nat :=
  match slots[address]?.join with
  | none => (true, address + 1)
  | some i =>
    match i.op, i.operands with
    | .stop, _ => (false, address + 1)
    | .call, .int target :: _ => (true, target.toNat)
    | _, _ => (true, address + 1)

variable {view : View} {self : MachineId} {m next : Machine}

/-- An instruction other than RET that succeeds takes the machine where its slot says. -/
theorem Application.heading {i : Instruction} {text : String} (going : m.Going)
    (held : m.slots[m.pointer]? = some (some i)) (other : i.op ≠ .ret)
    (h : m.advanced.Application view self i.operands i.op next (.ok text)) :
    (next.running, next.pointer) = heading m.slots m.pointer := by
  obtain ⟨owner, op, operands⟩ := i
  simp only [Machine.heading, held, Option.join_some]
  cases h with
  | called given jump =>
    obtain ⟨target, rfl, -, -, rfl⟩ := setAddress_eq_ok_iff.mp jump
    cases given
    exact congrArg (·, target.toNat) going.1
  | returned => exact absurd rfl other
  | stopped => rfl
  | multiplied | shown | pushed => exact congrArg (·, m.pointer + 1) going.1

end Machine

namespace Rack

def whereabouts (id : MachineId) (r : Rack) : Option (Bool × Nat) :=
  r.machines[id]?.map fun m => (m.running, m.pointer)

/-- The addresses that a run of the machine `id` fetches, in order, one in each turn of its loop. -/
def fetched (id : MachineId) (fuel : Nat) (r : Rack) : List Nat :=
  (Loop.trace (turn id) fuel (r.start id)).filterMap fun r => r.machines[id]?.map Machine.pointer

def Programmed (id : MachineId) (m : Machine) (r : Rack) : Prop :=
  ∃ n, r.machines[id]? = some n ∧ n.slots = m.slots

variable {r : Rack} {id : MachineId} {m : Machine}

/-- A turn of a machine without RET takes it where the slot at its pointer says. -/
theorem whereabouts_of_moved {next : Rack} (here : r.machines[id]? = some m) (own : m.Owned id)
    (free : m.ReturnFree) (moved : turn id r = .moved next) :
    next.Programmed id m ∧
      next.whereabouts id = some (Machine.heading m.slots m.pointer) := by
  have taken := turning_turn here own
  rw [moved] at taken
  cases taken with
  | skipped going empty =>
    have there := machines_put_self here m.advanced
    refine ⟨⟨m.advanced, there, rfl⟩, ?_⟩
    rw [whereabouts, there, Machine.heading, empty]
    exact congrArg (fun running => some (running, m.pointer + 1)) going.1
  | @applied i next text going held outcome =>
    have there := machines_put_record here next next.stream text
    refine ⟨⟨next, there, outcome.frame.1⟩, ?_⟩
    rw [whereabouts, there, ← outcome.heading going held (free _ _ held)]
    rfl

/-- Without RET the loop is steered by the whereabouts of the machine. -/
theorem steered_of_returnFree (own : m.Owned id) (free : m.ReturnFree) :
    Loop.Steered (turn id) (Programmed id m) (whereabouts id) := by
  refine ⟨?_, ?_, ?_⟩
  · rintro r next ⟨n, here, slots⟩ moved
    obtain ⟨⟨n', there, same⟩, -⟩ :=
      whereabouts_of_moved here (own.of_slots slots) (free.of_slots slots) moved
    exact ⟨n', there, same.trans slots⟩
  · rintro r t ⟨n, here, slots⟩ ⟨n', there, slots'⟩ same idle
    have still := (turn_eq_idle_iff here (own.of_slots slots)).mp idle
    refine turn_of_resting there fun going => still ?_
    simp only [whereabouts, here, there, Option.map_some, Option.some.injEq,
      Prod.mk.injEq] at same
    rw [Machine.Going, same.1, same.2, slots, ← slots']
    exact going
  · rintro r t next next' ⟨n, here, slots⟩ ⟨n', there, slots'⟩ same moved moved'
    have first := whereabouts_of_moved here (own.of_slots slots) (free.of_slots slots) moved
    have second := whereabouts_of_moved there (own.of_slots slots') (free.of_slots slots') moved'
    simp only [whereabouts, here, there, Option.map_some, Option.some.injEq,
      Prod.mk.injEq] at same
    rw [first.2, second.2, slots, slots', same.2]

theorem programmed_start (here : r.machines[id]? = some m) : (r.start id).Programmed id m := by
  rw [start_of here]
  exact ⟨_, machines_put_self here _, rfl⟩

theorem going_of_mem_trace (here : r.machines[id]? = some m) (own : m.Owned id)
    (free : m.ReturnFree) (fuel : Nat) :
    ∀ t ∈ Loop.trace (turn id) fuel (r.start id),
      ∃ n, t.machines[id]? = some n ∧ n.slots = m.slots ∧ n.Going := by
  intro t passed
  obtain ⟨⟨n, there, slots⟩, busy⟩ := Loop.trace_keeps (steered_of_returnFree own free).kept fuel
    (programmed_start here) t passed
  refine ⟨n, there, slots, ?_⟩
  by_contra still
  exact busy (turn_of_resting there still)

theorem length_fetched (here : r.machines[id]? = some m) (own : m.Owned id)
    (free : m.ReturnFree) (fuel : Nat) :
    (r.fetched id fuel).length = (Loop.trace (turn id) fuel (r.start id)).length := by
  refine List.filterMap_length_eq_length.mpr fun t passed => ?_
  obtain ⟨n, there, -, -⟩ := going_of_mem_trace here own free fuel t passed
  rw [there]
  rfl

theorem fetched_subset (here : r.machines[id]? = some m) (own : m.Owned id)
    (free : m.ReturnFree) (fuel : Nat) :
    r.fetched id fuel ⊆ List.range m.slots.size := by
  intro address inside
  obtain ⟨t, passed, found⟩ := List.mem_filterMap.mp inside
  obtain ⟨n, there, slots, going⟩ := going_of_mem_trace here own free fuel t passed
  rw [there] at found
  cases found
  rw [List.mem_range, ← slots]
  exact going.2

theorem nodup_fetched (here : r.machines[id]? = some m) (own : m.Owned id)
    (free : m.ReturnFree) {fuel : Nat} (returned : (r.execute id fuel).ending = .returned) :
    (r.fetched id fuel).Nodup := by
  have keys := (steered_of_returnFree own free).nodup (programmed_start here) returned
  rw [List.Nodup, List.pairwise_map] at keys
  rw [fetched, List.Nodup, List.pairwise_filterMap]
  refine keys.imp_of_mem ?_
  intro t u passed passed' apart address found address' found' same
  obtain ⟨n, there, -, going⟩ := going_of_mem_trace here own free fuel t passed
  obtain ⟨n', there', -, going'⟩ := going_of_mem_trace here own free fuel u passed'
  rw [there] at found
  rw [there'] at found'
  cases found
  cases found'
  apply apart
  rw [whereabouts, whereabouts, there, there', Option.map_some, Option.map_some, going.1,
    going'.1, same]

theorem length_fetched_le (here : r.machines[id]? = some m) (own : m.Owned id)
    (free : m.ReturnFree) {fuel : Nat} (returned : (r.execute id fuel).ending = .returned) :
    (r.fetched id fuel).length ≤ m.slots.size := by
  have once := nodup_fetched here own free returned
  have bound := once.length_le_of_subset (fetched_subset here own free fuel)
  rwa [List.length_range] at bound

/-- A run that returns does so when it may take a turn for each slot and see that it has ended. -/
theorem execute_of_size (here : r.machines[id]? = some m) (own : m.Owned id)
    (free : m.ReturnFree) {fuel : Nat} (returned : (r.execute id fuel).ending = .returned) :
    r.execute id (m.slots.size + 1) = r.execute id fuel := by
  have few := length_fetched_le here own free returned
  rw [length_fetched here own free] at few
  obtain ⟨extra, size⟩ := Nat.exists_eq_add_of_le few
  have short : r.execute id ((Loop.trace (turn id) fuel (r.start id)).length + 1) =
      r.execute id fuel := Loop.run_of_trace_length returned
  have ended : (r.execute id
      ((Loop.trace (turn id) fuel (r.start id)).length + 1)).ending ≠ .unfinished := by
    rw [short, returned]
    simp
  rw [size, Nat.add_right_comm, ← short]
  exact Loop.run_add _ extra ended

theorem not_returned_of_revisit (here : r.machines[id]? = some m) (own : m.Owned id)
    (free : m.ReturnFree) {turns address : Nat}
    (twice : 2 ≤ (r.fetched id turns).count address) (fuel : Nat) :
    (r.execute id fuel).ending ≠ .returned := by
  intro returned
  -- The run that returns may have less fuel than the one that fetches the address twice.
  have later : (r.execute id (fuel + turns)).ending = .returned := by
    rw [execute, Loop.run_add fuel turns (by rw [← execute, returned]; simp)]
    exact returned
  have once := nodup_fetched here own free later
  have before : r.fetched id turns <+: r.fetched id (fuel + turns) := by
    rw [Nat.add_comm]
    exact (Loop.trace_prefix turns fuel).filterMap _
  have more := before.sublist.count_le address
  have atMost := List.nodup_iff_count.mp once address
  omega

/-- A run of a machine without RET that returns has fetched no address twice, and so has made no
more turns than there are slots. A run that fetches an address twice never returns: it fails, or
it goes on for ever. -/
theorem execute_never_revisits (here : r.machines[id]? = some m) (own : m.Owned id)
    (free : m.ReturnFree) :
    (∀ fuel, (r.execute id fuel).ending = .returned →
      (r.fetched id fuel).Nodup ∧ (r.fetched id fuel).length ≤ m.slots.size ∧
        r.execute id (m.slots.size + 1) = r.execute id fuel) ∧
    ∀ turns address, 2 ≤ (r.fetched id turns).count address →
      (∀ fuel, (r.execute id fuel).ending ≠ .returned) ∧
        ((∃ fuel abort, (r.execute id fuel).ending = .failed abort) ∨
          ∀ fuel, (r.execute id fuel).ending = .unfinished) := by
  constructor
  · intro fuel returned
    exact ⟨nodup_fetched here own free returned, length_fetched_le here own free returned,
      execute_of_size here own free returned⟩
  · intro turns address twice
    have never := not_returned_of_revisit here own free twice
    refine ⟨never, ?_⟩
    by_cases fails : ∃ fuel abort, (r.execute id fuel).ending = .failed abort
    · exact Or.inl fails
    · right
      intro fuel
      cases ending : (r.execute id fuel).ending with
      | returned => exact absurd ending (never fuel)
      | failed abort => exact absurd ⟨fuel, abort, ending⟩ fails
      | unfinished => rfl

/-- A call forward and a call back lead to a STOP in three turns, and a call of itself does not
end. -/
theorem execute_never_revisits_calls :
    let m : Machine := { slots := #[some ⟨0, .call, [.int 2]⟩, some ⟨0, .stop, []⟩,
      some ⟨0, .call, [.int 1]⟩] }
    let n : Machine := { slots := #[some ⟨1, .call, [.int 0]⟩] }
    let r : Rack := { machines := #[m, n] }
    (m.Owned 0 ∧ m.ReturnFree ∧ (r.execute 0 4).ending = .returned ∧
        r.fetched 0 4 = [0, 2, 1] ∧ (r.fetched 0 4).Nodup) ∧
      n.Owned 1 ∧ n.ReturnFree ∧ r.fetched 1 2 = [0, 0] ∧
        ∀ fuel, (r.execute 1 fuel).ending ≠ .returned := by
  intro m n r
  have calls : ∀ (address : Nat) (i : Instruction), m.slots[address]? = some (some i) →
      i.owner = 0 ∧ i.op ≠ .ret := by
    intro address i held
    rcases address with _ | _ | _ | address <;> cases held <;> exact ⟨rfl, by decide⟩
  have loops : ∀ (address : Nat) (i : Instruction), n.slots[address]? = some (some i) →
      i.owner = 1 ∧ i.op ≠ .ret := by
    intro address i held
    rcases address with _ | address <;> cases held
    exact ⟨rfl, by decide⟩
  have ownM : m.Owned 0 := fun address i held => (calls address i held).1
  have freeM : m.ReturnFree := fun address i held => (calls address i held).2
  have ownN : n.Owned 1 := fun address i held => (loops address i held).1
  have freeN : n.ReturnFree := fun address i held => (loops address i held).2
  have returned : (r.execute 0 4).ending = .returned := by
    simp [r, m, execute, start, put, Loop.run, turn, apply, Machine.apply, Machine.applyCall,
      Machine.setAddress, Machine.limit, Machine.silent, record]
  have path : r.fetched 0 4 = [0, 2, 1] := by
    simp [r, m, fetched, start, put, Loop.trace, turn, apply, Machine.apply, Machine.applyCall,
      Machine.setAddress, Machine.limit, Machine.silent, record]
  have circle : r.fetched 1 2 = [0, 0] := by
    simp [r, n, fetched, start, put, Loop.trace, turn, apply, Machine.apply, Machine.applyCall,
      Machine.setAddress, Machine.limit, Machine.silent, record]
  have once := ((execute_never_revisits rfl ownM freeM).1 4 returned).1
  have twice : 2 ≤ (r.fetched 1 2).count 0 := by
    rw [circle]
    decide
  have never := ((execute_never_revisits rfl ownN freeN).2 2 0 twice).1
  exact ⟨⟨ownM, freeM, returned, path, once⟩, ownN, freeN, circle, never⟩

end Rack

end StackMachine
