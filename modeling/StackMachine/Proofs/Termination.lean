import StackMachine.Proofs.Revisits

/-!
# Programs that end

A program whose calls go forward comes back to an address only by RET, which takes a value
from the stack. If there is no RET, the pointer moves on in every turn; if there is no PUSH,
there are only so many values to come back by. In both cases every run ends, and the slots and
the values on the stack bound its turns together. A program that has both RET and PUSH may run
for ever, and nothing is said about it.
-/

namespace StackMachine

namespace Loop

variable {σ ε : Type} {turn : σ → Turn σ ε} {s : σ}

/-- A loop ends if every turn that goes on lowers a rank, and then takes no more turns than that. -/
theorem ended_of_decreasing {Inv : σ → Prop} {rank : σ → Nat}
    (decreases : ∀ s next, Inv s → turn s = .moved next → Inv next ∧ rank next < rank s)
    {fuel : Nat} (h : Inv s) (enough : rank s < fuel) :
    (run turn fuel s).ending ≠ .unfinished := by
  induction fuel generalizing s with
  | zero => omega
  | succ fuel ih =>
    cases taken : turn s with
    | idle =>
      rw [run_of_idle _ taken]
      simp
    | failed last cause =>
      rw [run_of_failed _ taken]
      simp
    | moved next =>
      obtain ⟨kept, lower⟩ := decreases s next h taken
      rw [run_of_moved _ taken]
      exact ih kept (by omega)

end Loop

namespace Machine

def PushFree (m : Machine) : Prop :=
  ∀ (address : Nat) (i : Instruction), m.slots[address]? = some (some i) → i.op ≠ .push

/-- The first operand of every CALL is no address of the machine, or one after the CALL. -/
def ForwardCalls (m : Machine) : Prop :=
  ∀ (address : Nat) (i : Instruction), m.slots[address]? = some (some i) → i.op = .call →
    ∀ (target : Int) (more : List Value), i.operands = .int target :: more →
      0 ≤ target → target ≤ m.limit → (address : Int) < target

/-- How far the pointer is from the end of the slots, where a value on the stack counts for
`weight` more. -/
def distance (weight : Nat) (m : Machine) : Nat :=
  m.stack.length * weight + (m.slots.size - m.pointer)

/-- What a value on the stack may count for: nothing, if no RET can use it, and more than all the
slots, if no PUSH can bring it back. -/
def Weighs (weight : Nat) (m : Machine) : Prop :=
  (m.ReturnFree ∧ weight = 0) ∨ (m.PushFree ∧ weight = m.slots.size + 1)

variable {view : View} {self : MachineId} {m next : Machine} {weight : Nat}

theorem ForwardCalls.of_slots (forward : m.ForwardCalls) (slots : next.slots = m.slots) :
    next.ForwardCalls := by
  intro address i held call target more given low high
  rw [limit, slots] at high
  exact forward address i (slots ▸ held) call target more given low high

theorem Weighs.of_slots (weighs : m.Weighs weight) (slots : next.slots = m.slots) :
    next.Weighs weight := by
  rcases weighs with ⟨free, zero⟩ | ⟨free, more⟩
  · exact Or.inl ⟨free.of_slots slots, zero⟩
  · exact Or.inr ⟨fun address i held => free address i (slots ▸ held), by rw [more, slots]⟩

theorem exists_weighs (free : m.ReturnFree ∨ m.PushFree) :
    ∃ weight, weight ≤ m.slots.size + 1 ∧ m.Weighs weight := by
  rcases free with free | free
  · exact ⟨0, Nat.zero_le _, Or.inl ⟨free, rfl⟩⟩
  · exact ⟨m.slots.size + 1, Nat.le_refl _, Or.inr ⟨free, rfl⟩⟩

theorem distance_lt (fits : weight ≤ m.slots.size + 1) :
    m.distance weight < (m.stack.length + 1) * (m.slots.size + 1) := by
  have counted : m.stack.length * weight ≤ m.stack.length * (m.slots.size + 1) :=
    Nat.mul_le_mul_left _ fits
  rw [distance, Nat.succ_mul]
  omega

theorem distance_advanced (going : m.Going) : m.advanced.distance weight < m.distance weight := by
  have room := going.2
  simp only [distance, advanced]
  omega

/-- Applying the instruction of a slot brings the end nearer, also where a RET goes back. -/
theorem Application.distance_lt {i : Instruction} {text : String} (forward : m.ForwardCalls)
    (weighs : m.Weighs weight) (going : m.Going) (held : m.slots[m.pointer]? = some (some i))
    (outcome : m.advanced.Application view self i.operands i.op next (.ok text)) :
    next.distance weight < m.distance weight := by
  have room := going.2
  obtain ⟨owner, op, operands⟩ := i
  cases outcome with
  | multiplied top value =>
    change m.stack = _ at top
    simp only [distance, withStack, advanced, top, List.length_cons, Nat.succ_mul]
    omega
  | called given jump =>
    obtain ⟨target, rfl, low, high, rfl⟩ := setAddress_eq_ok_iff.mp jump
    have ahead := forward _ _ held rfl target _ given low high
    simp only [distance, advanced]
    omega
  | returned top jump =>
    change m.stack = _ at top
    obtain ⟨target, -, -, -, rfl⟩ := setAddress_eq_ok_iff.mp jump
    rcases weighs with ⟨free, -⟩ | ⟨-, heavy⟩
    · exact absurd rfl (free _ _ held)
    -- the value that is taken outweighs all the slots that the pointer may go back over
    · simp only [distance, withStack, advanced, top, List.length_cons, Nat.succ_mul]
      omega
  | stopped =>
    simp only [distance, advanced]
    omega
  | shown top line =>
    change m.stack = _ at top
    simp only [distance, withStack, advanced, top, List.length_cons, Nat.succ_mul]
    omega
  | pushed given =>
    rcases weighs with ⟨-, light⟩ | ⟨free, -⟩
    · simp only [distance, withStack, advanced, light, Nat.mul_zero]
      omega
    · exact absurd rfl (free _ _ held)

end Machine

namespace Rack

variable {r next : Rack} {id : MachineId} {m : Machine} {weight : Nat}

/-- The distance of the machine `id` from the end of its slots. -/
def distance (id : MachineId) (weight : Nat) (r : Rack) : Nat :=
  (r.machines[id]?.map (Machine.distance weight)).getD 0

theorem distance_of (here : r.machines[id]? = some m) :
    r.distance id weight = m.distance weight := by
  rw [distance, here, Option.map_some, Option.getD_some]

/-- A turn of a machine whose calls go forward brings the end nearer. -/
theorem distance_of_moved (own : m.Owned id) (forward : m.ForwardCalls) (weighs : m.Weighs weight)
    (programmed : r.Programmed id m) (moved : turn id r = .moved next) :
    next.Programmed id m ∧ next.distance id weight < r.distance id weight := by
  obtain ⟨now, here, slots⟩ := programmed
  have taken := turning_turn here (own.of_slots slots)
  rw [moved] at taken
  rw [distance_of here]
  cases taken with
  | skipped going empty =>
    have there := machines_put_self here now.advanced
    rw [distance_of there]
    exact ⟨⟨_, there, slots⟩, Machine.distance_advanced going⟩
  | @applied i left text going held outcome =>
    have there := machines_put_record here left left.stream text
    rw [distance_of there]
    exact ⟨⟨left, there, outcome.frame.1.trans slots⟩,
      outcome.distance_lt (forward.of_slots slots) (weighs.of_slots slots) going held⟩

/-- A machine whose calls go forward and that has no RET or no PUSH runs to an end, wherever its
pointer is and whatever is on its stack. One more than the values times one more than the slots
are turns enough. -/
theorem execute_ends (here : r.machines[id]? = some m) (own : m.Owned id)
    (forward : m.ForwardCalls) (free : m.ReturnFree ∨ m.PushFree) {fuel : Nat}
    (enough : (m.stack.length + 1) * (m.slots.size + 1) ≤ fuel) :
    (r.execute id fuel).ending ≠ .unfinished := by
  obtain ⟨weight, fits, weighs⟩ := Machine.exists_weighs free
  have started := machines_put_self here { m with running := true }
  rw [← start_of here] at started
  have bound : (r.start id).distance id weight < (m.stack.length + 1) * (m.slots.size + 1) := by
    rw [distance_of started]
    exact Machine.distance_lt (m := m) fits
  have decreases : ∀ r next : Rack, r.Programmed id m → turn id r = .moved next →
      next.Programmed id m ∧ next.distance id weight < r.distance id weight := by
    intro r next programmed moved
    exact distance_of_moved own forward weighs programmed moved
  exact Loop.ended_of_decreasing decreases ⟨_, started, rfl⟩ (Nat.lt_of_lt_of_le bound enough)

/-- A RET that is sent back to the call of itself twice and then to the STOP after it. -/
theorem execute_ends_return :
    let m : Machine :=
      { slots := #[some ⟨0, .call, [.int 1]⟩, some ⟨0, .ret, []⟩, some ⟨0, .stop, []⟩],
        stack := [.int 0, .int 0, .int 2] }
    let r : Rack := { machines := #[m] }
    m.Owned 0 ∧ m.ForwardCalls ∧ m.PushFree ∧ (r.execute 0 16).ending ≠ .unfinished := by
  intro m r
  have own : m.Owned 0 := by
    intro address i held
    rcases address with _ | _ | _ | address <;> cases held <;> rfl
  have forward : m.ForwardCalls := by
    intro address i held call target more given low high
    rcases address with _ | _ | _ | address <;> cases held
    · cases given
      decide
    · cases call
    · cases call
  have free : m.PushFree := by
    intro address i held
    rcases address with _ | _ | _ | address <;> cases held <;> decide
  exact ⟨own, forward, free, execute_ends (r := r) rfl own forward (Or.inr free) (by decide)⟩

end Rack

end StackMachine
