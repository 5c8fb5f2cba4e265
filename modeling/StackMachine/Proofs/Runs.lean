import StackMachine.Loop

/-! # Runs of bounded loops

What is true of the runs of any loop: a property kept by every turn is kept by the
run, a run that fails passes through the state whose turn fails, and two loops whose
turns match, or are the same up to a map of the states, have such runs. No loop is shown
to end here. -/

namespace StackMachine.Loop

variable {σ ε : Type} {turn : σ → Turn σ ε} {s : σ}

/-- The states from which a run takes a turn, in order. -/
def trace (turn : σ → Turn σ ε) : Nat → σ → List σ
  | 0, _ => []
  | fuel + 1, s =>
    match turn s with
    | .idle => []
    | .moved next => s :: trace turn fuel next
    | .failed _ _ => [s]

theorem trace_of_idle (fuel : Nat) (h : turn s = .idle) : trace turn (fuel + 1) s = [] := by
  simp only [trace, h]

theorem trace_of_moved (fuel : Nat) {next : σ} (h : turn s = .moved next) :
    trace turn (fuel + 1) s = s :: trace turn fuel next := by
  simp only [trace, h]

theorem trace_of_failed (fuel : Nat) {last : σ} {cause : ε} (h : turn s = .failed last cause) :
    trace turn (fuel + 1) s = [s] := by
  simp only [trace, h]

/-- A run that is cut off after some turns goes on, with more fuel, from where it was cut off. -/
theorem run_resumed {turns : Nat} {middle : σ} (cut : run turn turns s = ⟨middle, .unfinished⟩)
    (more : Nat) : run turn (turns + more) s = run turn more middle := by
  induction turns generalizing s with
  | zero =>
    cases cut
    rw [Nat.zero_add]
  | succ turns ih =>
    rw [Nat.succ_add]
    cases ht : turn s with
    | idle =>
      rw [run_of_idle _ ht] at cut
      cases cut
    | failed last cause =>
      rw [run_of_failed _ ht] at cut
      cases cut
    | moved next =>
      rw [run_of_moved _ ht] at cut ⊢
      exact ih cut

theorem idle_of_returned {fuel : Nat} (returned : (run turn fuel s).ending = .returned) :
    turn (run turn fuel s).state = .idle := by
  induction fuel generalizing s with
  | zero => cases returned
  | succ fuel ih =>
    cases ht : turn s with
    | idle =>
      rw [run_of_idle _ ht]
      exact ht
    | failed last cause =>
      rw [run_of_failed _ ht] at returned
      cases returned
    | moved next =>
      rw [run_of_moved _ ht] at returned ⊢
      exact ih returned

theorem run_one_failed_iff {cause : ε} :
    (run turn 1 s).ending = .failed cause ↔ ∃ last, turn s = .failed last cause := by
  cases ht : turn s <;> simp [run, ht]

/-- More fuel only adds turns to a run. -/
theorem trace_prefix (fuel extra : Nat) : trace turn fuel s <+: trace turn (fuel + extra) s := by
  induction fuel generalizing s with
  | zero => exact List.nil_prefix
  | succ fuel ih =>
    rw [Nat.succ_add]
    cases ht : turn s with
    | idle =>
      simp only [trace_of_idle _ ht, List.prefix_rfl]
    | failed last cause =>
      simp only [trace_of_failed _ ht, List.prefix_rfl]
    | moved next =>
      rw [trace_of_moved _ ht, trace_of_moved _ ht]
      exact List.cons_prefix_cons.mpr ⟨rfl, ih⟩

/-- A run that returns has no use for fuel beyond its turns and the one that finds nothing left
to do. -/
theorem run_of_trace_length {fuel : Nat} (returned : (run turn fuel s).ending = .returned) :
    run turn ((trace turn fuel s).length + 1) s = run turn fuel s := by
  induction fuel generalizing s with
  | zero => cases returned
  | succ fuel ih =>
    cases ht : turn s with
    | idle => rw [trace_of_idle _ ht, run_of_idle _ ht, run_of_idle _ ht]
    | failed last cause =>
      rw [run_of_failed _ ht] at returned
      cases returned
    | moved next =>
      rw [run_of_moved _ ht] at returned
      rw [trace_of_moved _ ht, List.length_cons, run_of_moved _ ht, run_of_moved _ ht]
      exact ih returned

/-- A property that every turn keeps holds in the state a run ends in, however it ends. -/
theorem run_keeps {P : σ → Prop}
    (moved : ∀ s next, P s → turn s = .moved next → P next)
    (failed : ∀ s last cause, P s → turn s = .failed last cause → P last)
    (fuel : Nat) (h : P s) : P (run turn fuel s).state := by
  induction fuel generalizing s with
  | zero => exact h
  | succ fuel ih =>
    cases ht : turn s with
    | idle =>
      rw [run_of_idle _ ht]
      exact h
    | moved next =>
      rw [run_of_moved _ ht]
      exact ih (moved s next h ht)
    | failed last cause =>
      rw [run_of_failed _ ht]
      exact failed s last cause h ht

/-- A property that every turn keeps holds in all states from which a run takes a turn. -/
theorem trace_keeps {P : σ → Prop}
    (moved : ∀ s next, P s → turn s = .moved next → P next)
    (fuel : Nat) (h : P s) : ∀ t ∈ trace turn fuel s, P t ∧ turn t ≠ .idle := by
  induction fuel generalizing s with
  | zero =>
    intro t inside
    cases inside
  | succ fuel ih =>
    intro t inside
    cases ht : turn s with
    | idle =>
      rw [trace_of_idle _ ht] at inside
      cases inside
    | failed last cause =>
      rw [trace_of_failed _ ht] at inside
      cases List.mem_singleton.mp inside
      exact ⟨h, by rw [ht]; simp⟩
    | moved next =>
      rw [trace_of_moved _ ht] at inside
      rcases List.mem_cons.mp inside with rfl | later
      · exact ⟨h, by rw [ht]; simp⟩
      · exact ih (moved s next h ht) t later

/-- A run that fails comes to a state, still unfinished, whose turn fails. -/
theorem moment_of_failed {fuel : Nat} {last : σ} {cause : ε}
    (h : run turn fuel s = ⟨last, .failed cause⟩) :
    ∃ turns moment, run turn turns s = ⟨moment, .unfinished⟩ ∧
      turn moment = .failed last cause := by
  induction fuel generalizing s with
  | zero => cases h
  | succ fuel ih =>
    cases ht : turn s with
    | idle =>
      rw [run_of_idle _ ht] at h
      cases h
    | moved next =>
      rw [run_of_moved _ ht] at h
      obtain ⟨turns, moment, reached, fails⟩ := ih h
      exact ⟨turns + 1, moment, by rw [run_of_moved _ ht, reached], fails⟩
    | failed last cause =>
      rw [run_of_failed _ ht] at h
      cases h
      exact ⟨0, s, rfl, ht⟩

/-- Two turns that do the same up to a relation between the states. A failure of the first may be
excused, and then nothing is asked of the second. -/
inductive Turn.Matched {τ : Type} (R : σ → τ → Prop) (excused : ε → Prop) :
    Turn σ ε → Turn τ ε → Prop
  | idle : Matched R excused .idle .idle
  | moved {next : σ} {next' : τ} (related : R next next') :
      Matched R excused (.moved next) (.moved next')
  | failed {last : σ} {last' : τ} {cause : ε} (related : R last last') :
      Matched R excused (.failed last cause) (.failed last' cause)
  | excused {last : σ} {cause : ε} {other : Turn τ ε} (excuse : excused cause) :
      Matched R excused (.failed last cause) other

/-- Two loops whose turns match have matching runs, unless the first fails with an excuse. -/
theorem run_matched {τ : Type} {other : τ → Turn τ ε} {R : σ → τ → Prop} {excused : ε → Prop}
    (matched : ∀ s t, R s t → (turn s).Matched R excused (other t)) (fuel : Nat) {t : τ}
    (related : R s t)
    (unexcused : ∀ cause, (run turn fuel s).ending = .failed cause → ¬ excused cause) :
    R (run turn fuel s).state (run other fuel t).state ∧
      (run other fuel t).ending = (run turn fuel s).ending := by
  induction fuel generalizing s t with
  | zero => exact ⟨related, rfl⟩
  | succ fuel ih =>
    have both := matched s t related
    generalize first : turn s = a at both
    generalize second : other t = b at both
    cases both with
    | idle =>
      rw [run_of_idle _ first, run_of_idle _ second]
      exact ⟨related, rfl⟩
    | moved later =>
      rw [run_of_moved _ first] at unexcused ⊢
      rw [run_of_moved _ second]
      exact ih later unexcused
    | failed later =>
      rw [run_of_failed _ first, run_of_failed _ second]
      exact ⟨later, rfl⟩
    | excused excuse =>
      rw [run_of_failed _ first] at unexcused
      exact absurd excuse (unexcused _ rfl)

def Turn.map {τ : Type} (f : σ → τ) : Turn σ ε → Turn τ ε
  | .idle => .idle
  | .moved next => .moved (f next)
  | .failed last cause => .failed (f last) cause

/-- A map of the states that commutes with every turn commutes with the run and with the states
from which it takes a turn. -/
theorem run_map {τ : Type} {other : τ → Turn τ ε} {f : σ → τ}
    (commutes : ∀ s, other (f s) = (turn s).map f) (fuel : Nat) (s : σ) :
    run other fuel (f s) = ⟨f (run turn fuel s).state, (run turn fuel s).ending⟩ ∧
      trace other fuel (f s) = (trace turn fuel s).map f := by
  induction fuel generalizing s with
  | zero => exact ⟨rfl, rfl⟩
  | succ fuel ih =>
    have mapped := commutes s
    cases ht : turn s with
    | idle =>
      rw [ht] at mapped
      rw [run_of_idle _ mapped, run_of_idle _ ht, trace_of_idle _ mapped, trace_of_idle _ ht]
      exact ⟨rfl, rfl⟩
    | failed last cause =>
      rw [ht] at mapped
      rw [run_of_failed _ mapped, run_of_failed _ ht, trace_of_failed _ mapped,
        trace_of_failed _ ht]
      exact ⟨rfl, rfl⟩
    | moved next =>
      rw [ht] at mapped
      obtain ⟨later, passed⟩ := ih next
      rw [run_of_moved _ mapped, run_of_moved _ ht, trace_of_moved _ mapped, trace_of_moved _ ht]
      exact ⟨later, by rw [passed, List.map_cons]⟩

end StackMachine.Loop
