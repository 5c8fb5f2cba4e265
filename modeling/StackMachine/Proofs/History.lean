import StackMachine.Proofs.Operations
import StackMachine.Proofs.WellFormed

/-! # Histories of a session

A history is any list of operations, each carried out whether the ones before it
succeeded or failed. Beside each stands the most turns that a run it starts may take,
so a run may also be left between two turns. Every history leaves all machines well
formed; nothing is said here about the log. -/

namespace StackMachine

theorem Machine.WellFormed.handling {view : View} {id : MachineId} {count : Nat}
    {m next : Machine} {operation : Operation} {answer : Except Fault Reply}
    (wf : m.WellFormed id count) (outcome : m.Handling view id operation next answer) :
    next.WellFormed id count := by
  refine wf.of_slots outcome.slots ?_
  have := wf.pointer
  have := wf.size
  rcases outcome.pointer with same | inside <;> omega

namespace Session

/-- Operations in order, each with the most turns of a run it starts. -/
abbrev History := List (Nat × Operation)

def after (s : Session) : History → Session
  | [] => s
  | (fuel, operation) :: rest => (s.perform fuel operation).1.after rest

/-- The count of addresses of the machine that an operation with this answer has built. -/
def newCount? : Operation → Except Fault Reply → Option Nat
  | .create (.int n) _, .ok _ => some n.toNat
  | _, _ => none

/-- The counts of the machines that a history builds, in order. -/
def builtBy (s : Session) : History → List Nat
  | [] => []
  | (fuel, operation) :: rest =>
    (newCount? operation (s.perform fuel operation).2).toList ++
      (s.perform fuel operation).1.builtBy rest

variable {s : Session} {id : MachineId} {counts : List Nat}

theorem conclude_rack (s : Session) (id : MachineId) (run : Loop.Run Rack Abort) :
    (s.conclude id run).1.rack = run.state := by
  unfold conclude
  cases run.ending with
  | unfinished => rfl
  | failed abort =>
    dsimp only
    split <;> rfl
  | returned =>
    simp only [onMachine, machine?]
    split <;> rfl

theorem execute_rack (fuel : Nat) (s : Session) (id : MachineId) :
    (s.execute fuel id).1.rack = (s.rack.execute id fuel).state := by
  cases here : s.rack.machines[id]? with
  | none =>
    cases fuel with
    | zero => simp [execute, onMachine, machine?, Rack.execute, Rack.start, Loop.run, here]
    | succ fuel =>
      simp [execute, onMachine, machine?, Rack.execute, Rack.start, Loop.run, Rack.turn, here]
  | some m =>
    simp only [execute, onMachine, machine?, here]
    exact conclude_rack _ id _

/-- Only the building of a machine adds a count. -/
theorem newCount?_of_target {operation : Operation} (target : operation.target? = some id)
    (answer : Except Fault Reply) : newCount? operation answer = none := by
  cases operation <;> first | rfl | cases target

theorem unbuilt {r : Rack} (wf : r.WellFormed counts) :
    r.WellFormed (counts ++ (none : Option Nat).toList) := by
  rwa [Option.toList_none, List.append_nil]

theorem perform_rack (wf : s.rack.WellFormed counts) (fuel : Nat) (operation : Operation) :
    (s.perform fuel operation).1.rack.WellFormed
      (counts ++ (newCount? operation (s.perform fuel operation).2).toList) := by
  have outcome := performing_perform fuel s operation
  generalize s.perform fuel operation = performed at outcome ⊢
  cases outcome with
  | created built =>
    obtain ⟨n, rfl, new⟩ := Machine.wellFormed_of_create counts.length built
    exact wf.push new
  | @uncreated value output fault built =>
    cases value <;> exact unbuilt wf
  | absent target nobody =>
    rw [newCount?_of_target target]
    exact unbuilt wf
  | handled here handling =>
    rw [newCount?_of_target handling.target]
    exact unbuilt (wf.replace here fun count wfm => wfm.handling handling)
  | unwritten here insertion =>
    cases Machine.inserting_of_eq insertion with
    | unwritten room known equipped long =>
      exact unbuilt (wf.replace here fun count wfm =>
        wfm.write ⟨Opcode.mem_all _, equipped, rfl⟩ _)
  | stored here insertion =>
    cases Machine.inserting_of_eq insertion with
    | stored room known equipped short shown =>
      refine unbuilt (wf.replace here fun count wfm =>
        (wfm.write ⟨Opcode.mem_all _, equipped, rfl⟩ _).of_slots rfl ?_)
      rw [← wfm.size]
      exact room
  | ran here =>
    rw [conclude_rack]
    exact unbuilt (wf.execute _ fuel)
  | @applied serial i rack result found application =>
    have kept := wf.apply i
    rw [application] at kept
    exact unbuilt kept
  | _ => exact unbuilt wf

/-- A history keeps every machine well formed, and adds the machines it builds. -/
theorem after_rack (wf : s.rack.WellFormed counts) (history : History) :
    (s.after history).rack.WellFormed (counts ++ s.builtBy history) := by
  induction history generalizing s counts with
  | nil =>
    rw [builtBy, List.append_nil]
    exact wf
  | cons act rest ih =>
    obtain ⟨fuel, operation⟩ := act
    rw [builtBy, ← List.append_assoc]
    exact ih (perform_rack wf fuel operation)

theorem empty_rack : ({} : Session).rack.WellFormed [] :=
  ⟨rfl, fun id m held => by simp at held⟩

/-- After every history, and also between any two turns of a run that is then started, each
machine has the slots it was built with, a pointer to one of them or past the last, and in its
slots only instructions of its own. -/
theorem wellFormed_after_history (history : History) :
    (after {} history).rack.WellFormed (builtBy {} history) ∧
      ∀ (id : MachineId) (turns : Nat),
        ((after {} history).rack.execute id turns).state.WellFormed (builtBy {} history) := by
  have wf := after_rack empty_rack history
  rw [List.nil_append] at wf
  exact ⟨wf, fun id turns => wf.execute id turns⟩

end Session

end StackMachine
