import StackMachine.Proofs.Runs
import StackMachine.Proofs.Turn

/-! # Well-formed machines

A machine built with a count of addresses keeps that many slots, its pointer stays
within them or one past the last, and every slot holds an instruction of its own
machine with enough operands. Each operation on a machine keeps this, and so does
every turn of a run, also one that fails. -/

namespace StackMachine

theorem Opcode.mem_all (op : Opcode) : op ∈ all := by
  cases op <;> decide

/-- An instruction that may stand in a slot of the machine `owner`. -/
structure Instruction.WellFormed (owner : MachineId) (i : Instruction) : Prop where
  known : i.op ∈ Opcode.all
  equipped : i.op.arity ≤ i.operands.length
  owned : i.owner = owner

namespace Machine

/-- The machine with the number `id`, built with `count` addresses. -/
structure WellFormed (id : MachineId) (count : Nat) (m : Machine) : Prop where
  fits : count < indexLimit
  size : m.slots.size = count
  pointer : m.pointer ≤ count
  slots : ∀ (address : Nat) (i : Instruction), m.slots[address]? = some (some i) →
    i.WellFormed id

variable {view : View} {id : MachineId} {count : Nat} {m next : Machine}

theorem WellFormed.of_slots (wf : m.WellFormed id count) (slots : next.slots = m.slots)
    (pointer : next.pointer ≤ count) : next.WellFormed id count :=
  ⟨wf.fits, by rw [slots]; exact wf.size, pointer, by rw [slots]; exact wf.slots⟩

/-- A machine is built from a count that is not too large, and all its slots are empty. -/
theorem create_eq_ok {value : Value} {output : Option Stream}
    (h : create view value output = .ok m) :
    ∃ n : Int, value = .int n ∧ n.toNat < indexLimit ∧
      m = { slots := Array.replicate n.toNat none, output := output } := by
  cases value with
  | int n =>
    simp only [create] at h
    split at h
    · cases h
    · split at h
      · cases h
      · split at h
        · cases h
        · cases h
          exact ⟨n, rfl, by omega, rfl⟩
  | _ => cases h

theorem wellFormed_of_create {value : Value} {output : Option Stream} (id : MachineId)
    (h : create view value output = .ok m) :
    ∃ n : Int, value = .int n ∧ m.WellFormed id n.toNat := by
  obtain ⟨n, rfl, fits, rfl⟩ := create_eq_ok h
  refine ⟨n, rfl, fits, by simp, Nat.zero_le _, ?_⟩
  intro address i held
  rw [Array.getElem?_replicate] at held
  split at held <;> cases held

/-- A slot that is written holds the instruction, and the others what they held. -/
theorem WellFormed.write {i : Instruction} (wf : m.WellFormed id count) (hi : i.WellFormed id)
    (address : Nat) :
    ({ m with slots := m.slots.setIfInBounds address (some i) } : Machine).WellFormed id count := by
  refine ⟨wf.fits, by simpa using wf.size, wf.pointer, ?_⟩
  intro other j held
  rw [Array.getElem?_setIfInBounds] at held
  split at held
  · split at held
    · cases held
      exact hi
    · cases held
  · exact wf.slots other j held

/-- Applying any operation keeps a machine well formed, whether it succeeds or fails. -/
theorem WellFormed.application {self : MachineId} {operands : List Value} {op : Opcode}
    {result : Except Fault String} (wf : m.WellFormed id count)
    (h : m.Application view self operands op next result) : next.WellFormed id count := by
  refine wf.of_slots h.frame.1 ?_
  have := wf.pointer
  have := wf.size
  rcases h.pointer with same | inside <;> omega

/-- The pointer moves on from a slot, which at most puts it past the last one. -/
theorem WellFormed.advanced (wf : m.WellFormed id count) (going : m.Going) :
    m.advanced.WellFormed id count := by
  refine wf.of_slots rfl ?_
  rw [← wf.size]
  exact going.2

theorem WellFormed.owned (wf : m.WellFormed id count) : m.Owned id :=
  fun address i held => (wf.slots address i held).owned

end Machine

namespace Rack

/-- Machines that are well formed and were built with these counts, in this order. -/
structure WellFormed (counts : List Nat) (r : Rack) : Prop where
  size : r.machines.size = counts.length
  machines : ∀ (id : MachineId) (m : Machine), r.machines[id]? = some m →
    ∃ count, counts[id]? = some count ∧ m.WellFormed id count

variable {counts : List Nat} {r : Rack} {id : MachineId} {m : Machine}

theorem WellFormed.put (wf : r.WellFormed counts) (id : MachineId) {next : Machine}
    (keeps : ∀ count, counts[id]? = some count → next.WellFormed id count) :
    (r.put id next).WellFormed counts := by
  refine ⟨by simpa [Rack.put] using wf.size, ?_⟩
  intro other m held
  simp only [Rack.put, Array.getElem?_setIfInBounds] at held
  split at held
  · rename_i same
    subst same
    split at held
    · rename_i inside
      cases held
      rw [wf.size] at inside
      exact ⟨counts[id], List.getElem?_eq_getElem inside,
        keeps _ (List.getElem?_eq_getElem inside)⟩
    · cases held
  · exact wf.machines other m held

/-- A machine may be replaced by one that is well formed if it was. -/
theorem WellFormed.replace {next : Machine} (wf : r.WellFormed counts)
    (here : r.machines[id]? = some m)
    (keeps : ∀ count, m.WellFormed id count → next.WellFormed id count) :
    (r.put id next).WellFormed counts := by
  refine wf.put id fun count known => keeps count ?_
  obtain ⟨count', known', wf'⟩ := wf.machines id m here
  cases known.symm.trans known'
  exact wf'

theorem WellFormed.push (wf : r.WellFormed counts) {count : Nat}
    (new : m.WellFormed counts.length count) :
    ({ r with machines := r.machines.push m } : Rack).WellFormed (counts ++ [count]) := by
  refine ⟨by simp [wf.size], ?_⟩
  intro id m' held
  rw [Array.getElem?_push] at held
  split at held
  · rename_i last
    cases held
    rw [last, wf.size]
    exact ⟨count, by simp, new⟩
  · obtain ⟨count', known, wf'⟩ := wf.machines id m' held
    exact ⟨count', by rw [List.getElem?_append_left (List.getElem?_eq_some_iff.mp known).1, known],
      wf'⟩

theorem WellFormed.record (wf : r.WellFormed counts) (stream : Stream) (text : String) :
    (r.record stream text).WellFormed counts := by
  unfold Rack.record
  split
  · exact wf
  · exact ⟨wf.size, wf.machines⟩

theorem WellFormed.apply (wf : r.WellFormed counts) (i : Instruction) :
    (r.apply i).1.WellFormed counts := by
  cases here : r.machines[i.owner]? with
  | none => simpa only [Rack.apply, here] using wf
  | some m =>
    have outcome := m.application_apply r.view i.owner i.op i.operands
    have kept := wf.replace here fun count wfm => wfm.application outcome
    simp only [Rack.apply, here]
    split
    · rename_i next text applied
      rw [applied] at kept
      exact kept.record next.stream text
    · rename_i next fault applied
      rw [applied] at kept
      exact kept

theorem WellFormed.turn (wf : r.WellFormed counts) (id : MachineId) {next : Rack}
    (h : turn id r = .moved next ∨ ∃ abort, turn id r = .failed next abort) :
    next.WellFormed counts := by
  cases here : r.machines[id]? with
  | none => simp [Rack.turn, here] at h
  | some m =>
    obtain ⟨count, -, wfm⟩ := wf.machines id m here
    have taken := turning_turn here wfm.owned
    obtain moved | ⟨abort, failed⟩ := h
    · rw [moved] at taken
      cases taken with
      | skipped going empty => exact wf.replace here fun _ wfm' => wfm'.advanced going
      | applied going held outcome =>
        exact (wf.replace here fun _ wfm' => (wfm'.advanced going).application outcome).record _ _
    · rw [failed] at taken
      cases taken with
      | aborted going held outcome =>
        exact wf.replace here fun _ wfm' => (wfm'.advanced going).application outcome

theorem WellFormed.start (wf : r.WellFormed counts) (id : MachineId) :
    (r.start id).WellFormed counts := by
  cases here : r.machines[id]? with
  | none => simpa only [Rack.start, here] using wf
  | some m =>
    simp only [Rack.start, here]
    exact wf.replace here fun count wfm => wfm.of_slots rfl wfm.pointer

/-- After any number of turns of a run all machines are well formed. -/
theorem WellFormed.execute (wf : r.WellFormed counts) (id : MachineId) (turns : Nat) :
    (r.execute id turns).state.WellFormed counts :=
  Loop.run_keeps (fun _ _ wf' moved => wf'.turn id (Or.inl moved))
    (fun _ _ abort wf' failed => wf'.turn id (Or.inr ⟨abort, failed⟩)) turns (wf.start id)

end Rack

end StackMachine
