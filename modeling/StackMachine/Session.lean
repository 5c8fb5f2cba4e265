import StackMachine.Log.Journal
import StackMachine.Rack

/-! # Sessions

A rack of machines together with the instructions built outside of slots, the
environment of the process and the log, and the operations on all of them. Every
operation gives the next session whether it succeeds or fails. -/

namespace StackMachine

structure Session where
  rack : Rack := {}
  instructions : Array Instruction := #[]
  environment : Environment := []
  journal : Journal := {}

/-- An instruction as it is written in a program: its mnemonic and its operands. -/
abbrev Line := Value × List Value

inductive Operation where
  | create (count : Value) (output : Option Stream)
  | setAddress (id : MachineId) (address : Value)
  | insert (id : MachineId) (name : Value) (operands : List Value)
  | execute (id : MachineId)
  | setRunning (id : MachineId) (flag : Value)
  | pop (id : MachineId) (count : Value)
  | push (id : MachineId) (v : Value)
  | setOutput (id : MachineId) (output : Option Stream)
  | construct (machine name operands : Value)
  | apply (serial : Nat)
  | setEnvironment (environment : Environment)
  | configureLogging (level renderer : Value)
  | emit (event : Event)

/-- What an operation answers when it does not fail. -/
inductive Reply where
  | done
  | created (id : MachineId)
  | constructed (serial : Nat)
  /-- These values were removed from the stack, the most recent first. -/
  | values (vs : List Value)
  /-- The log is configured so. -/
  | configured (s : Settings)
  /-- A run did not end within the fuel. -/
  | unfinished
  /-- There is no machine with that number. -/
  | noMachine
  /-- There is no instruction with that number. -/
  | noInstruction
  /-- The log has no configuration. -/
  | notConfigured

namespace Session

abbrev Outcome := Session × Except Fault Reply

def view (s : Session) : View := s.rack.view

def machine? (s : Session) (id : MachineId) : Option Machine := s.rack.machines[id]?

def put (s : Session) (id : MachineId) (m : Machine) : Session := { s with rack := s.rack.put id m }

def log (s : Session) (e : Event) : Session := { s with journal := s.journal.machineEvent e }

def onMachine (s : Session) (id : MachineId) (f : Machine → Outcome) : Outcome :=
  match s.machine? id with
  | none => (s, .ok .noMachine)
  | some m => f m

/-- The outcome of an operation that replaces a machine or else changes nothing. -/
def replacing (s : Session) (id : MachineId) : Except Fault Machine → Outcome
  | .ok m => (s.put id m, .ok .done)
  | .error fault => (s, .error fault)

def create (s : Session) (count : Value) (output : Option Stream) : Outcome :=
  match Machine.create s.view count output with
  | .ok m =>
    ({ s with rack := { s.rack with machines := s.rack.machines.push m } },
      .ok (.created s.rack.machines.size))
  | .error fault => (s, .error fault)

def setAddress (s : Session) (id : MachineId) (address : Value) : Outcome :=
  s.onMachine id fun m => s.replacing id (m.setAddress s.view address)

def insert (s : Session) (id : MachineId) (name : Value) (operands : List Value) : Outcome :=
  s.onMachine id fun m =>
    match m.insert s.view id name operands with
    | .refused fault => (s, .error fault)
    -- the logger is looked up before the text is made, and that counts as its first use
    | .unwritten next => ({ s.put id next with journal := s.journal.touch }, .error .digitLimit)
    | .stored next address text => ((s.put id next).log (.inserted address text), .ok .done)

/-- Ends a run: its state is taken over and its ending is logged. -/
def conclude (s : Session) (id : MachineId) (run : Loop.Run Rack Abort) : Outcome :=
  let after := { s with rack := run.state }
  match run.ending with
  | .unfinished => (after, .ok .unfinished)
  | .failed abort =>
    -- only the faults of machines are caught on their way out and logged
    (if abort.fault.isMachineFault then
        after.log (.aborted abort.address abort.op abort.fault.message)
      else after,
      .error abort.fault)
  | .returned =>
    after.onMachine id fun m => (after.log (.finished m.pointer m.running), .ok .done)

def execute (fuel : Nat) (s : Session) (id : MachineId) : Outcome :=
  s.onMachine id fun m =>
    (s.log (.started m.pointer m.slots.size)).conclude id (s.rack.execute id fuel)

def setRunning (s : Session) (id : MachineId) (flag : Value) : Outcome :=
  s.onMachine id fun m => s.replacing id (m.setRunning s.view flag)

def pop (s : Session) (id : MachineId) (count : Value) : Outcome :=
  s.onMachine id fun m =>
    match m.pop count with
    | .ok (vs, next) => (s.put id next, .ok (.values vs))
    | .error fault => (s, .error fault)

def push (s : Session) (id : MachineId) (v : Value) : Outcome :=
  s.onMachine id fun m => (s.put id (m.push v), .ok .done)

def setOutput (s : Session) (id : MachineId) (output : Option Stream) : Outcome :=
  s.onMachine id fun m => (s.put id { m with output := output }, .ok .done)

def construct (s : Session) (machine name operands : Value) : Outcome :=
  match Instruction.build s.view machine name operands with
  | .ok i =>
    ({ s with instructions := s.instructions.push i }, .ok (.constructed s.instructions.size))
  | .error fault => (s, .error fault)

/-- Applies an instruction that is in no slot. -/
def apply (s : Session) (serial : Nat) : Outcome :=
  match s.instructions[serial]? with
  | none => (s, .ok .noInstruction)
  | some i =>
    match s.rack.apply i with
    | (rack, .ok _) => ({ s with rack := rack }, .ok .done)
    | (rack, .error fault) => ({ s with rack := rack }, .error fault)

/-- Configures the log; absent arguments are taken from the environment. -/
def configureLogging (s : Session) (level renderer : Value) : Outcome :=
  match Settings.resolve s.view s.environment .null level renderer with
  | .ok settings =>
    ({ s with journal := s.journal.configure settings }, .ok (.configured settings))
  | .error fault => (s, .error fault)

def emit (s : Session) (e : Event) : Outcome :=
  match s.journal.emit? s.view e with
  | none => (s, .ok .notConfigured)
  | some (.ok journal) => ({ s with journal := journal }, .ok .done)
  | some (.error fault) => (s, .error fault)

/-- Performs an operation; a run takes at most `fuel` turns. -/
def perform (fuel : Nat) (s : Session) : Operation → Outcome
  | .create count output => s.create count output
  | .setAddress id address => s.setAddress id address
  | .insert id name operands => s.insert id name operands
  | .execute id => s.execute fuel id
  | .setRunning id flag => s.setRunning id flag
  | .pop id count => s.pop id count
  | .push id v => s.push id v
  | .setOutput id output => s.setOutput id output
  | .construct machine name operands => s.construct machine name operands
  | .apply serial => s.apply serial
  | .setEnvironment environment => ({ s with environment := environment }, .ok .done)
  | .configureLogging level renderer => s.configureLogging level renderer
  | .emit event => s.emit event

/-- Performs operations one after another until one of them fails. -/
def performAll (fuel : Nat) (s : Session) : List Operation → Outcome
  | [] => (s, .ok .done)
  | operation :: rest =>
    match s.perform fuel operation with
    | (next, .ok _) => performAll fuel next rest
    | failed => failed

/-- The operations that load a program: the pointer is moved first, if an address
is given, and the lines are stored one after another. -/
def loading (id : MachineId) (address : Option Value) (program : List Line) : List Operation :=
  (address.toList.map fun a => .setAddress id a) ++
    program.map fun line => .insert id line.1 line.2

end Session

end StackMachine
