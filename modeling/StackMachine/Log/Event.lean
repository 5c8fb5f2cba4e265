import StackMachine.Log.Level
import StackMachine.Template
import StackMachine.Text.Utf8

/-! # Log events

An event has a name and fields, and is issued by a logger at a level. Some fields
direct how the event is written: they name another logger, give the arguments of
the name as a template, or ask for a trace that events do not have.

The rules are those of structlog, the logging library that the program configures and
that is not a part of it. They are written out here in the order of the program's chain
of processors, up to the renderer. What is assumed of the library is that its calls refuse
the fields named below and no others, that a trace which is asked for is taken
out and nothing is put in its place, and that the time is one text for all events. -/

namespace StackMachine

/-- The fields of an event, in the order in which they were given. -/
abbrev Fields := List (String × Value)

/-- Sets a field: in its place if it is there, otherwise at the end. -/
def Fields.set (name : String) (v : Value) : Fields → Fields
  | [] => [(name, v)]
  | field :: rest => if field.1 = name then (name, v) :: rest else field :: set name v rest

structure Event where
  logger : String
  level : Level
  name : String
  fields : Fields

namespace Event

def machineLogger : String := "stackvm.computer"

def settingsLogger : String := "stackvm.logs"

def ofMachine (name : String) (fields : Fields) : Event := ⟨machineLogger, .debug, name, fields⟩

def inserted (address : Nat) (instruction : String) : Event :=
  ofMachine "Instruction inserted" [("address", .int address), ("instruction", .text instruction)]

def started (pointer addresses : Nat) : Event :=
  ofMachine "Execution started" [("pointer", .int pointer), ("addresses", .int addresses)]

/-- A run ends by a machine fault. -/
def aborted (address : Nat) (op : Opcode) (message : String) : Event :=
  ofMachine "Execution aborted"
    [("address", .int address), ("opcode", .text op.mnemonic), ("error", .text message)]

def finished (pointer : Nat) (running : Bool) : Event :=
  ofMachine "Execution finished" [("pointer", .int pointer), ("running", .bool running)]

def configured (level : Level) (renderer : Renderer) : Event :=
  ⟨settingsLogger, .debug, "Logging configured",
    [("log_level", .text level.name), ("renderer", .text renderer.name)]⟩

/-- Why an event cannot be issued: a field bears the name of an argument of the library's call, or
else of the one it is passed on by. Both calls are assumed to have these arguments. -/
def clash? (e : Event) : Option Fault :=
  match e.fields.find? fun f => f.1 == "event" || f.1 == "self" with
  | some f => some (.repeatedArgument ("BoundLogger." ++ e.level.label) f.1)
  | none =>
    if e.fields.any fun f => f.1 == "method_name" then
      some (.repeatedArgument "BoundLogger._proxy_to_logger" "method_name")
    else none

/-- The value of a field; one that is nothing is not there. -/
def given? (e : Event) (name : String) : Option Value :=
  match e.fields.lookup name with
  | some .null => none
  | found => found

/-- The name of the root of all loggers, which has no name of its own. -/
def rootLogger : String := "root"

/-- The logger under which an event is written: that of its record, if it has one. -/
def writtenLogger (e : Event) : Except Fault String :=
  match e.given? "_record" with
  | none => .ok (if e.logger = "" then rootLogger else e.logger)
  | some (.opcode op) => .ok op.mnemonic
  | some v => .error (.noAttribute v.qualifiedKind "name")

def itemCount? (view : View) : Value → Option Nat
  | .text s => some s.length
  | .bytes bs => some bs.length
  | .list items => some items.length
  | .tuple items => some items.length
  | .mapping entries => some entries.length
  | .machine id => some (view id).addresses
  | _ => none

/-- The only item of a value; a mapping is asked for the key zero. -/
def onlyItem (v : Value) : Except Fault Value :=
  match v with
  | .list (item :: _) => .ok item
  | .tuple (item :: _) => .ok item
  | .mapping entries => (Value.valueUnder? (.int 0) entries).elim (.error (.missingKey "0")) .ok
  | .machine _ => .error (.noItems v.kind)
  | v => .ok v

/-- The argument of a name as a template. A mapping with entries that is the only item of a value
stands for itself. -/
def templateArgument (view : View) (v : Value) : Except Fault Value :=
  match itemCount? view v with
  | none => .error (.noLength v.qualifiedKind)
  | some 1 => do
    match ← onlyItem v with
    | .mapping (entry :: rest) => return .mapping (entry :: rest)
    | _ => return v
  | some _ => .ok v

/-- Whether a value counts as an argument. One that is zero or empty does not, nor does a machine
without addresses. -/
def isArgument (view : View) (v : Value) : Bool := v.isGiven && itemCount? view v != some 0

/-- The name under which an event is written: a template if an argument is given for it. Without
one, directives stand for themselves. -/
def writtenName (view : View) (e : Event) : Except Fault String :=
  match e.given? "positional_args" with
  | none => .ok e.name
  | some v =>
    if isArgument view v then (templateArgument view v).bind (Template.fill view e.name)
    else .ok e.name

/-- Whether a field is written: not if it asks for a trace, or has been used. -/
def isWritten : String × Value → Bool
  | ("stack_info", _) => false
  | ("exc_info", _) => false
  | ("positional_args", v) => match v with
    | .null => true
    | _ => false
  | _ => true

/-- An event as the processors before the renderer leave it. -/
def resolve (view : View) (e : Event) : Except Fault Event := do
  -- the processor of the logger stands before that of the name
  let logger ← e.writtenLogger
  let name ← e.writtenName view
  return { e with logger := logger, name := name, fields := e.fields.filter isWritten }

/-- What stands for the time of an event. -/
def timestamp : String := "<ts>"

/-- All fields of the line of an event that is resolved. Bytes are read as text. -/
def allFields (e : Event) : Fields :=
  let given := e.fields.map fun (name, v) => match v with
    | .bytes bs => (name, .text (Text.ofBytes bs))
    | v => (name, v)
  Fields.set "timestamp" (.text timestamp) <|
    Fields.set "level" (.text e.level.label) <|
      Fields.set "logger" (.text e.logger) <|
        Fields.set "event" (.text e.name) given

end Event

end StackMachine
