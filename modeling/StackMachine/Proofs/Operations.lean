import StackMachine.Proofs.Insertion

/-!
# What an operation comes to

One relation lists every outcome of an operation of a session, with the condition under which it
arises, and is shown to be exactly the function. The operations that leave the slots of a machine
alone have a relation of their own. What a run, an instruction or the writing of an event comes to
is left to the functions that carry them out.
-/

namespace StackMachine

/-- The machine that is asked for an operation. -/
def Operation.target? : Operation → Option MachineId
  | .setAddress id _ | .insert id _ _ | .execute id | .setRunning id _ | .pop id _ | .push id _
  | .setOutput id _ => some id
  | _ => none

/-- Every outcome of an operation that leaves the slots of a machine alone: the machine that is
left, and the answer. -/
inductive Machine.Handling (view : View) (id : MachineId) (m : Machine) :
    Operation → Machine → Except Fault Reply → Prop
  | moved {address : Value} {next : Machine} (jump : m.setAddress view address = .ok next) :
      Handling view id m (.setAddress id address) next (.ok .done)
  | unmoved {address : Value} {fault : Fault} (jump : m.setAddress view address = .error fault) :
      Handling view id m (.setAddress id address) m (.error fault)
  | switched (b : Bool) :
      Handling view id m (.setRunning id (.bool b)) { m with running := b } (.ok .done)
  | unswitched {flag : Value} {fault : Fault} (switch : m.setRunning view flag = .error fault) :
      Handling view id m (.setRunning id flag) m (.error fault)
  | popped {count : Value} {values : List Value} {next : Machine}
      (taken : m.pop count = .ok (values, next)) :
      Handling view id m (.pop id count) next (.ok (.values values))
  | unpopped {count : Value} {fault : Fault} (taken : m.pop count = .error fault) :
      Handling view id m (.pop id count) m (.error fault)
  | pushed (v : Value) : Handling view id m (.push id v) (m.push v) (.ok .done)
  | directed (output : Option Stream) :
      Handling view id m (.setOutput id output) { m with output := output } (.ok .done)

namespace Machine

variable {view : View} {id : MachineId} {m next : Machine} {operation : Operation}
  {answer : Except Fault Reply}

theorem Handling.target (outcome : m.Handling view id operation next answer) :
    operation.target? = some id := by
  cases outcome <;> rfl

theorem Handling.slots (outcome : m.Handling view id operation next answer) :
    next.slots = m.slots := by
  cases outcome with
  | moved jump =>
    obtain ⟨a, -, -, -, rfl⟩ := setAddress_eq_ok_iff.mp jump
    rfl
  | popped taken =>
    rw [(pop_eq_ok taken).2]
    rfl
  | _ => rfl

/-- The pointer stays where it is or is put on a slot. -/
theorem Handling.pointer (outcome : m.Handling view id operation next answer) :
    next.pointer = m.pointer ∨ next.pointer < m.slots.size := by
  cases outcome with
  | moved jump =>
    obtain ⟨a, -, low, high, rfl⟩ := setAddress_eq_ok_iff.mp jump
    right
    simp only [limit] at high ⊢
    omega
  | popped taken =>
    rw [(pop_eq_ok taken).2]
    exact Or.inl rfl
  | _ => exact Or.inl rfl

end Machine

namespace Session

variable {fuel : Nat} {s : Session} {id : MachineId} {operation : Operation} {outcome : Outcome}

/-- Every outcome of an operation: the session that is left, and the answer. -/
inductive Performing (fuel : Nat) (s : Session) : Operation → Outcome → Prop
  | absent {operation : Operation} {id : MachineId} (target : operation.target? = some id)
      (nobody : s.machine? id = none) : Performing fuel s operation (s, .ok .noMachine)
  | created {count : Value} {output : Option Stream} {m : Machine}
      (built : Machine.create s.view count output = .ok m) :
      Performing fuel s (.create count output)
        ({ s with rack := { s.rack with machines := s.rack.machines.push m } },
          .ok (.created s.rack.machines.size))
  | uncreated {count : Value} {output : Option Stream} {fault : Fault}
      (built : Machine.create s.view count output = .error fault) :
      Performing fuel s (.create count output) (s, .error fault)
  | handled {operation : Operation} {id : MachineId} {m next : Machine}
      {answer : Except Fault Reply} (here : s.machine? id = some m)
      (handling : m.Handling s.view id operation next answer) :
      Performing fuel s operation (s.put id next, answer)
  | refused {id : MachineId} {name : Value} {operands : List Value} {m : Machine} {fault : Fault}
      (here : s.machine? id = some m)
      (insertion : m.insert s.view id name operands = .refused fault) :
      Performing fuel s (.insert id name operands) (s, .error fault)
  | unwritten {id : MachineId} {name : Value} {operands : List Value} {m next : Machine}
      (here : s.machine? id = some m)
      (insertion : m.insert s.view id name operands = .unwritten next) :
      Performing fuel s (.insert id name operands)
        ({ s.put id next with journal := s.journal.touch }, .error .digitLimit)
  | stored {id : MachineId} {name : Value} {operands : List Value} {m next : Machine}
      {address : Nat} {text : String} (here : s.machine? id = some m)
      (insertion : m.insert s.view id name operands = .stored next address text) :
      Performing fuel s (.insert id name operands)
        ((s.put id next).log (.inserted address text), .ok .done)
  | ran {id : MachineId} {m : Machine} (here : s.machine? id = some m) :
      Performing fuel s (.execute id)
        ((s.log (.started m.pointer m.slots.size)).conclude id (s.rack.execute id fuel))
  | constructed {machine name operands : Value} {i : Instruction}
      (built : Instruction.build s.view machine name operands = .ok i) :
      Performing fuel s (.construct machine name operands)
        ({ s with instructions := s.instructions.push i },
          .ok (.constructed s.instructions.size))
  | unconstructed {machine name operands : Value} {fault : Fault}
      (built : Instruction.build s.view machine name operands = .error fault) :
      Performing fuel s (.construct machine name operands) (s, .error fault)
  | unfound {serial : Nat} (nothing : s.instructions[serial]? = none) :
      Performing fuel s (.apply serial) (s, .ok .noInstruction)
  | applied {serial : Nat} {i : Instruction} {rack : Rack} {result : Except Fault Unit}
      (found : s.instructions[serial]? = some i) (application : s.rack.apply i = (rack, result)) :
      Performing fuel s (.apply serial)
        ({ s with rack := rack }, result.map fun _ => Reply.done)
  | surrounded (environment : Environment) :
      Performing fuel s (.setEnvironment environment)
        ({ s with environment := environment }, .ok .done)
  | configured {level renderer : Value} {settings : Settings}
      (resolved : Settings.resolve s.view s.environment .null level renderer = .ok settings) :
      Performing fuel s (.configureLogging level renderer)
        ({ s with journal := s.journal.configure settings }, .ok (.configured settings))
  | unconfigured {level renderer : Value} {fault : Fault}
      (resolved : Settings.resolve s.view s.environment .null level renderer = .error fault) :
      Performing fuel s (.configureLogging level renderer) (s, .error fault)
  | unlogged {event : Event} (logged : s.journal.emit? s.view event = none) :
      Performing fuel s (.emit event) (s, .ok .notConfigured)
  | emitted {event : Event} {journal : Journal}
      (logged : s.journal.emit? s.view event = some (.ok journal)) :
      Performing fuel s (.emit event) ({ s with journal := journal }, .ok .done)
  | unemitted {event : Event} {fault : Fault}
      (logged : s.journal.emit? s.view event = some (.error fault)) :
      Performing fuel s (.emit event) (s, .error fault)

theorem put_of_here {m : Machine} (here : s.machine? id = some m) : s.put id m = s := by
  rw [put, Rack.put_of_here here]

/-- An operation that is asked of a machine is carried out on it, if it is there. -/
theorem performing_onMachine {f : Machine → Outcome} (target : operation.target? = some id)
    (each : ∀ m, s.machine? id = some m → Performing fuel s operation (f m)) :
    Performing fuel s operation (s.onMachine id f) := by
  unfold onMachine
  cases here : s.machine? id with
  | none => exact .absent target here
  | some m => exact each m here

theorem performing_perform (fuel : Nat) (s : Session) (operation : Operation) :
    Performing fuel s operation (s.perform fuel operation) := by
  -- An operation that a machine refuses leaves that machine as it is.
  have left : ∀ {operation : Operation} {id : MachineId} {m : Machine} {fault : Fault},
      s.machine? id = some m → m.Handling s.view id operation m (.error fault) →
        Performing fuel s operation (s, .error fault) := by
    intro operation id m fault here handling
    have outcome : Performing fuel s operation (s.put id m, .error fault) := .handled here handling
    rwa [put_of_here here] at outcome
  cases operation with
  | create count output =>
    rw [perform, create]
    cases built : Machine.create s.view count output with
    | ok m => exact .created built
    | error fault => exact .uncreated built
  | setAddress id address =>
    refine performing_onMachine rfl fun m here => ?_
    cases jump : m.setAddress s.view address with
    | ok next => exact .handled here (.moved jump)
    | error fault => exact left here (.unmoved jump)
  | setRunning id flag =>
    refine performing_onMachine rfl fun m here => ?_
    cases switch : m.setRunning s.view flag with
    | error fault => exact left here (.unswitched switch)
    | ok next =>
      cases flag with
      | bool b =>
        cases switch
        exact .handled here (.switched b)
      | _ => cases switch
  | pop id count =>
    refine performing_onMachine rfl fun m here => ?_
    cases taken : m.pop count with
    | ok rest => exact .handled here (.popped taken)
    | error fault => exact left here (.unpopped taken)
  | push id v => exact performing_onMachine rfl fun m here => .handled here (.pushed v)
  | setOutput id output =>
    exact performing_onMachine rfl fun m here => .handled here (.directed output)
  | insert id name operands =>
    refine performing_onMachine rfl fun m here => ?_
    cases insertion : m.insert s.view id name operands with
    | refused fault => exact .refused here insertion
    | unwritten next => exact .unwritten here insertion
    | stored next address text => exact .stored here insertion
  | execute id => exact performing_onMachine rfl fun m here => .ran here
  | construct machine name operands =>
    rw [perform, construct]
    cases built : Instruction.build s.view machine name operands with
    | ok i => exact .constructed built
    | error fault => exact .unconstructed built
  | apply serial =>
    rw [perform, apply]
    cases found : s.instructions[serial]? with
    | none => exact .unfound found
    | some i =>
      cases application : s.rack.apply i with
      | mk rack result =>
        have outcome : Performing fuel s (.apply serial) _ := .applied found application
        dsimp only
        rw [application]
        cases result with
        | ok done => exact outcome
        | error fault => exact outcome
  | setEnvironment environment => exact .surrounded environment
  | configureLogging level renderer =>
    rw [perform, configureLogging]
    cases resolved : Settings.resolve s.view s.environment .null level renderer with
    | ok settings => exact .configured resolved
    | error fault => exact .unconfigured resolved
  | emit event =>
    rw [perform, emit]
    cases logged : s.journal.emit? s.view event with
    | none => exact .unlogged logged
    | some written =>
      cases written with
      | ok journal => exact .emitted logged
      | error fault => exact .unemitted logged

theorem perform_of_handling {m next : Machine} {answer : Except Fault Reply}
    (here : s.machine? id = some m) (handling : m.Handling s.view id operation next answer) :
    s.perform fuel operation = (s.put id next, answer) := by
  cases handling with
  | moved jump => simp only [perform, setAddress, onMachine, here, jump, replacing]
  | unmoved jump =>
    simp only [perform, setAddress, onMachine, here, jump, replacing, put_of_here here]
  | switched b => simp only [perform, setRunning, onMachine, here, Machine.setRunning, replacing]
  | unswitched switch =>
    simp only [perform, setRunning, onMachine, here, switch, replacing, put_of_here here]
  | popped taken => simp only [perform, pop, onMachine, here, taken]
  | unpopped taken => simp only [perform, pop, onMachine, here, taken, put_of_here here]
  | pushed v => simp only [perform, push, onMachine, here]
  | directed output => simp only [perform, setOutput, onMachine, here]

theorem perform_of_absent (target : operation.target? = some id) (nobody : s.machine? id = none) :
    s.perform fuel operation = (s, .ok .noMachine) := by
  cases operation with
  | setAddress | insert | execute | setRunning | pop | push | setOutput =>
    cases target
    simp only [perform, setAddress, insert, execute, setRunning, pop, push, setOutput, onMachine,
      nobody]
  | _ => cases target

/-- An operation that is asked of a machine, and neither stores nor runs, handles it. -/
theorem exists_handling {m : Machine} (fuel : Nat) (here : s.machine? id = some m)
    (target : operation.target? = some id)
    (noInsert : ∀ id name operands, operation ≠ .insert id name operands)
    (noExecute : ∀ id, operation ≠ .execute id) :
    ∃ next answer, m.Handling s.view id operation next answer ∧
      s.perform fuel operation = (s.put id next, answer) := by
  have outcome := performing_perform fuel s operation
  generalize s.perform fuel operation = performed at outcome ⊢
  cases outcome with
  | absent target' nobody =>
    cases target.symm.trans target'
    cases here.symm.trans nobody
  | handled here' handling =>
    cases target.symm.trans handling.target
    cases here.symm.trans here'
    exact ⟨_, _, handling, rfl⟩
  | refused | unwritten | stored => exact absurd rfl (noInsert _ _ _)
  | ran => exact absurd rfl (noExecute _)
  | _ => cases target

/-- The outcomes are exactly those of the function. -/
theorem perform_eq_iff :
    s.perform fuel operation = outcome ↔ Performing fuel s operation outcome := by
  constructor
  · rintro rfl
    exact performing_perform fuel s operation
  intro outcome
  cases outcome with
  | absent target nobody => exact perform_of_absent target nobody
  | created built | uncreated built => simp only [perform, create, built]
  | handled here handling => exact perform_of_handling here handling
  | refused here insertion | unwritten here insertion | stored here insertion =>
    simp only [perform, insert, onMachine, here, insertion]
  | ran here => simp only [perform, execute, onMachine, here]
  | constructed built | unconstructed built => simp only [perform, construct, built]
  | unfound nothing => simp only [perform, apply, nothing]
  | @applied _ _ _ result found application =>
    simp only [perform, apply, found, application]
    cases result <;> rfl
  | surrounded environment => rfl
  | configured resolved | unconfigured resolved => simp only [perform, configureLogging, resolved]
  | unlogged logged | emitted logged | unemitted logged => simp only [perform, emit, logged]

end Session

end StackMachine
