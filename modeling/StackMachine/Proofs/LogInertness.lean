import StackMachine.Proofs.Aborts
import StackMachine.Proofs.Transcript

/-!
# The log does not act on machines

Operations on machines are answered and carried out alike whatever the environment and
the state of the log, and the operations of the log leave the machines alone. The events
that machines issue can always be written, in the forms assumed of the renderers, so no
fault of the log is passed over in silence. What the lines of the log say is not described
here.
-/

namespace StackMachine

/-- Whether an operation is one of the log or of the environment it is configured from. -/
def Operation.isLogging : Operation → Bool
  | .setEnvironment _ | .configureLogging _ _ | .emit _ => true
  | _ => false

namespace Session

/-- The machines, what they printed and the instructions are the same in two sessions. -/
def SameMachines (s t : Session) : Prop := s.rack = t.rack ∧ s.instructions = t.instructions

def SameOutcome (a b : Outcome) : Prop := a.2 = b.2 ∧ SameMachines a.1 b.1

variable {s t : Session} {id : MachineId}

/-- The end of a run is the same, though it is entered into different logs. -/
theorem SameMachines.conclude (same : SameMachines s t) (id : MachineId)
    (run : Loop.Run Rack Abort) : SameOutcome (s.conclude id run) (t.conclude id run) := by
  have after : SameMachines { s with rack := run.state } { t with rack := run.state } :=
    ⟨rfl, same.2⟩
  unfold Session.conclude
  cases run.ending with
  | unfinished => exact ⟨rfl, after⟩
  | failed abort =>
    dsimp only
    split <;> exact ⟨rfl, after⟩
  | returned =>
    unfold Session.onMachine machine?
    dsimp only
    split <;> exact ⟨rfl, after⟩

/-- What an operation on machines comes to does not depend on the log or the environment. -/
theorem Performing.transfer {fuel : Nat} {operation : Operation} {outcome : Outcome}
    (performing : Performing fuel s operation outcome) (same : SameMachines s t)
    (other : operation.isLogging = false) :
    ∃ outcome', Performing fuel t operation outcome' ∧ SameOutcome outcome outcome' := by
  -- The two sessions are the same but for their logs and environments, which no condition mentions.
  obtain ⟨rack, instructions, environment, journal⟩ := s
  obtain ⟨rack', instructions', environment', journal'⟩ := t
  obtain ⟨rfl, rfl⟩ : rack = rack' ∧ instructions = instructions' := same
  cases performing with
  | absent target nobody => exact ⟨_, .absent target nobody, rfl, rfl, rfl⟩
  | created built => exact ⟨_, .created built, rfl, rfl, rfl⟩
  | uncreated built => exact ⟨_, .uncreated built, rfl, rfl, rfl⟩
  | handled here handling => exact ⟨_, .handled here handling, rfl, rfl, rfl⟩
  | refused here insertion => exact ⟨_, .refused here insertion, rfl, rfl, rfl⟩
  | unwritten here insertion => exact ⟨_, .unwritten here insertion, rfl, rfl, rfl⟩
  | stored here insertion => exact ⟨_, .stored here insertion, rfl, rfl, rfl⟩
  | ran here =>
    refine ⟨_, .ran here, SameMachines.conclude ?_ _ _⟩
    exact ⟨rfl, rfl⟩
  | constructed built => exact ⟨_, .constructed built, rfl, rfl, rfl⟩
  | unconstructed built => exact ⟨_, .unconstructed built, rfl, rfl, rfl⟩
  | unfound nothing => exact ⟨_, .unfound nothing, rfl, rfl, rfl⟩
  | applied found application => exact ⟨_, .applied found application, rfl, rfl, rfl⟩
  | surrounded | configured | unconfigured | unlogged | emitted | unemitted => cases other

theorem SameMachines.perform (same : SameMachines s t) (fuel : Nat) {operation : Operation}
    (other : operation.isLogging = false) :
    SameOutcome (s.perform fuel operation) (t.perform fuel operation) := by
  obtain ⟨outcome, performing, alike⟩ := (performing_perform fuel s operation).transfer same other
  rwa [perform_eq_iff.mpr performing]

end Session

theorem Event.plain_inserted {address : Nat} (text : String) (fits : address ≤ Machine.indexLimit) :
    (inserted address text).Plain := by
  refine ⟨by simp [inserted, ofMachine, directives], ?_⟩
  intro f hf
  simp only [inserted, ofMachine, List.mem_cons, List.not_mem_nil, or_false] at hf
  rcases hf with rfl | rfl
  · exact Integer.isWritable_of_index fits
  · rfl

theorem Event.plain_finished {pointer : Nat} (running : Bool)
    (fits : pointer ≤ Machine.indexLimit) : (finished pointer running).Plain := by
  refine ⟨by simp [finished, ofMachine, directives], ?_⟩
  intro f hf
  simp only [finished, ofMachine, List.mem_cons, List.not_mem_nil, or_false] at hf
  rcases hf with rfl | rfl
  · exact Integer.isWritable_of_index fits
  · rfl

namespace Journal

variable {j : Journal} {e : Event}

theorem touch_touch (j : Journal) : j.touch.touch = j.touch := by
  cases kept : j.machineRenderer with
  | some renderer => simp only [touch, kept]
  | none => cases settings : j.settings <;> simp [touch, kept, settings]

end Journal

namespace Session

variable {s : Session} {counts : List Nat}

/-- The events with which a run of the machine `id` ends. -/
def closing (id : MachineId) (run : Loop.Run Rack Abort) : List Event :=
  match run.ending with
  | .unfinished => []
  | .failed abort =>
    if abort.fault.isMachineFault then
      [.aborted abort.address abort.op abort.fault.message]
    else []
  | .returned => run.state.machines[id]?.toList.map fun m => .finished m.pointer m.running

def issued (fuel : Nat) (s : Session) : Operation → List Event
  | .insert id name operands =>
    match s.machine? id with
    | none => []
    | some m =>
      match m.insert s.view id name operands with
      | .stored _ address text => [.inserted address text]
      | _ => []
  | .execute id =>
    match s.machine? id with
    | none => []
    | some m => .started m.pointer m.slots.size :: closing id (s.rack.execute id fuel)
  | _ => []

theorem conclude_journal (s : Session) (id : MachineId) (run : Loop.Run Rack Abort) :
    (s.conclude id run).1.journal = (closing id run).foldl Journal.machineEvent s.journal := by
  unfold conclude closing
  cases run.ending with
  | unfinished => rfl
  | failed abort =>
    dsimp only
    split <;> rfl
  | returned =>
    simp only [onMachine, machine?]
    cases run.state.machines[id]? <;> rfl

/-- Every event that an operation issues for a machine. -/
inductive Issuing (fuel : Nat) (s : Session) : Operation → Event → Prop
  | stored {id : MachineId} {name : Value} {operands : List Value} {m next : Machine}
      {address : Nat} {text : String} (here : s.machine? id = some m)
      (insertion : m.insert s.view id name operands = .stored next address text) :
      Issuing fuel s (.insert id name operands) (.inserted address text)
  | started {id : MachineId} {m : Machine} (here : s.machine? id = some m) :
      Issuing fuel s (.execute id) (.started m.pointer m.slots.size)
  | closed {id : MachineId} {m : Machine} {e : Event} (here : s.machine? id = some m)
      (last : e ∈ closing id (s.rack.execute id fuel)) : Issuing fuel s (.execute id) e

theorem mem_issued_iff {fuel : Nat} {operation : Operation} {e : Event} :
    e ∈ s.issued fuel operation ↔ Issuing fuel s operation e := by
  constructor
  · intro inside
    cases operation with
    | insert id name operands =>
      cases here : s.machine? id with
      | none => simp [issued, here] at inside
      | some m =>
        cases insertion : m.insert s.view id name operands with
        | stored next address text =>
          obtain rfl : e = .inserted address text := by simpa [issued, here, insertion] using inside
          exact .stored here insertion
        | refused | unwritten => simp [issued, here, insertion] at inside
    | execute id =>
      cases here : s.machine? id with
      | none => simp [issued, here] at inside
      | some m =>
        simp only [issued, here] at inside
        rcases List.mem_cons.mp inside with rfl | last
        · exact .started here
        · exact .closed here last
    | _ => cases inside
  · intro issuing
    cases issuing with
    | stored here insertion => simp [issued, here, insertion]
    | started here => simp [issued, here]
    | closed here last => simp [issued, here, last]

/-- Only an insertion or a run makes use of the log. -/
theorem perform_journal_same (fuel : Nat) (s : Session) {operation : Operation}
    (other : operation.isLogging = false)
    (noInsert : ∀ id name operands, operation ≠ .insert id name operands)
    (noExecute : ∀ id, operation ≠ .execute id) :
    (s.perform fuel operation).1.journal = s.journal := by
  have outcome := performing_perform fuel s operation
  generalize s.perform fuel operation = performed at outcome ⊢
  cases outcome with
  | refused | unwritten | stored => exact absurd rfl (noInsert _ _ _)
  | ran => exact absurd rfl (noExecute _)
  | surrounded | configured | unconfigured | unlogged | emitted | unemitted => cases other
  | _ => rfl

/-- An operation on machines enters the events it issues into the log. Where an instruction has no
text the log is only made use of. -/
theorem perform_journal (fuel : Nat) (s : Session) {operation : Operation}
    (other : operation.isLogging = false) :
    (s.perform fuel operation).1.journal.touch =
      ((s.issued fuel operation).foldl Journal.machineEvent s.journal).touch := by
  cases operation with
  | insert id name operands =>
    simp only [perform, insert, onMachine, issued]
    cases s.machine? id with
    | none => rfl
    | some m =>
      dsimp only
      cases m.insert s.view id name operands with
      | refused fault => rfl
      | unwritten next => exact Journal.touch_touch s.journal
      | stored next address text => rfl
  | execute id =>
    simp only [perform, execute, onMachine, issued]
    cases s.machine? id with
    | none => rfl
    | some m => exact congrArg Journal.touch (conclude_journal _ id _)
  | _ => exact congrArg Journal.touch (perform_journal_same fuel s other (by simp) (by simp))

/-- The events with which a run of well-formed machines ends are plain. -/
theorem plain_closing {r : Rack} (wf : r.WellFormed counts) (id : MachineId) (fuel : Nat) :
    ∀ e ∈ closing id (r.execute id fuel), e.Plain := by
  intro e inside
  cases run : r.execute id fuel with
  | mk last ending =>
    have kept := wf.execute id fuel
    rw [run] at inside kept
    cases ending with
    | unfinished => cases inside
    | failed abort =>
      simp only [closing] at inside
      split at inside
      · obtain ⟨before, i, -, ⟨count, wfm⟩, address, -⟩ := Rack.failsAt_of_failed wf run
        rw [List.mem_singleton.mp inside]
        refine Event.plain_aborted _ _ ?_
        have fits := wfm.fits
        have pointer := wfm.pointer
        omega
      · cases inside
    | returned =>
      obtain ⟨m, there, rfl⟩ := List.mem_map.mp inside
      obtain ⟨count, -, wfm⟩ := kept.machines id m (Option.mem_toList.mp there)
      refine Event.plain_finished _ ?_
      have fits := wfm.fits
      have pointer := wfm.pointer
      omega

theorem plain_issued (wf : s.rack.WellFormed counts) (fuel : Nat) (operation : Operation) :
    ∀ e ∈ s.issued fuel operation, e.Plain := by
  intro e inside
  cases mem_issued_iff.mp inside with
  | stored here insertion =>
    obtain ⟨count, -, wfm⟩ := wf.machines _ _ here
    have fits := wfm.fits
    have size := wfm.size
    cases Machine.inserting_of_eq insertion with
    | stored room known equipped short shown => exact Event.plain_inserted _ (by omega)
  | started here =>
    obtain ⟨count, -, wfm⟩ := wf.machines _ _ here
    have fits := wfm.fits
    have size := wfm.size
    have pointer := wfm.pointer
    exact Event.plain_started (by omega) (by omega)
  | closed here last => exact plain_closing wf _ fuel e last

end Session

end StackMachine
