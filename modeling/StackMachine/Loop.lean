/-! # Bounded loops

A loop repeats a turn until it is idle or fails. How often it may turn is bounded
by explicit fuel, and running out of fuel is an ending of its own, distinct from
the other two. -/

namespace StackMachine.Loop

/-- What one turn of a loop does. -/
inductive Turn (σ ε : Type) where
  /-- There is nothing left to do. -/
  | idle
  /-- The loop goes on from the next state. -/
  | moved (next : σ)
  /-- The turn fails, leaving this state behind. -/
  | failed (last : σ) (cause : ε)

inductive Ending (ε : Type) where
  | returned
  | failed (cause : ε)
  | unfinished

structure Run (σ ε : Type) where
  state : σ
  ending : Ending ε

/-- Repeats a turn, at most `fuel` times. -/
def run {σ ε : Type} (turn : σ → Turn σ ε) : Nat → σ → Run σ ε
  | 0, s => ⟨s, .unfinished⟩
  | fuel + 1, s =>
    match turn s with
    | .idle => ⟨s, .returned⟩
    | .moved next => run turn fuel next
    | .failed last cause => ⟨last, .failed cause⟩

variable {σ ε : Type} {turn : σ → Turn σ ε} {s : σ}

theorem run_of_idle (fuel : Nat) (h : turn s = .idle) :
    run turn (fuel + 1) s = ⟨s, .returned⟩ := by
  simp only [run, h]

theorem run_of_moved (fuel : Nat) {next : σ} (h : turn s = .moved next) :
    run turn (fuel + 1) s = run turn fuel next := by
  simp only [run, h]

theorem run_of_failed (fuel : Nat) {last : σ} {cause : ε} (h : turn s = .failed last cause) :
    run turn (fuel + 1) s = ⟨last, .failed cause⟩ := by
  simp only [run, h]

/-- A loop that ends is not changed by more fuel. -/
theorem run_add (fuel extra : Nat) (h : (run turn fuel s).ending ≠ .unfinished) :
    run turn (fuel + extra) s = run turn fuel s := by
  induction fuel generalizing s with
  | zero => exact absurd rfl h
  | succ fuel ih =>
    rw [Nat.succ_add]
    cases ht : turn s with
    | idle => rw [run_of_idle _ ht, run_of_idle _ ht]
    | failed last cause => rw [run_of_failed _ ht, run_of_failed _ ht]
    | moved next =>
      rw [run_of_moved _ ht] at h
      rw [run_of_moved _ ht, run_of_moved _ ht]
      exact ih h

end StackMachine.Loop
