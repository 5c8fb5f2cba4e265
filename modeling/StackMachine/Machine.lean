import StackMachine.Instruction

/-! # Machines

A stack machine with a fixed number of slots for instructions. The operations
here act on one machine; the states of the others are given as a view, since the
texts of values may refer to them. Operations that fail leave the machine alone,
except that an instruction which fails after taking values from the stack does
not put them back, and that one which is stored and has no text stays stored. -/

namespace StackMachine

/-- Where printed text goes. -/
inductive Stream where
  | standard
  | named (name : String)
  | closed
  deriving DecidableEq, Repr

def Stream.name : Stream → String
  | .standard => "stdout"
  | .named name => name
  | .closed => "closed"

/-- A machine: its slots, the pointer, the running flag, the stack with its top
first, and the stream chosen for printing, if one was chosen. -/
structure Machine where
  slots : Array (Option Instruction)
  pointer : Nat := 0
  running : Bool := false
  stack : List Value := []
  output : Option Stream := none

namespace Machine

/-- The number of addresses from which on no machine fits into memory. This is the memory of one
environment, and it is assumed: the program itself sets no such bound. -/
def memoryLimit : Nat := 0x100000000

/-- The number of addresses from which on a count is no index. -/
def indexLimit : Nat := 0x8000000000000000

def create (view : View) (count : Value) (output : Option Stream) : Except Fault Machine :=
  match count with
  | .int n =>
    if n < 0 then .error (.showing view count .invalidAddressCount)
    -- a count that is no index is refused before any memory is asked for
    else if indexLimit ≤ n.toNat then .error .countTooLarge
    else if memoryLimit ≤ n.toNat then .error .outOfMemory
    else .ok { slots := Array.replicate n.toNat none, output := output }
  | _ => .error (.showing view count .invalidAddressCount)

/-- The highest address, which is `-1` for a machine without slots. -/
def limit (m : Machine) : Int := (m.slots.size : Int) - 1

def summary (m : Machine) : Summary := ⟨m.slots.size, m.pointer, m.running, m.stack.length⟩

def stream (m : Machine) : Stream := m.output.getD .standard

/-- The names of what can be read and not assigned. -/
def readOnlyNames : List String :=
  ["pointer", "ptr", "running", "stack", "addresses", "limit", "output_stream"]

/-- The view in which the machine `self` is in the state `m`. -/
def seenFrom (view : View) (self : MachineId) (m : Machine) : View :=
  fun id => if id = self then m.summary else view id

def setAddress (view : View) (address : Value) (m : Machine) : Except Fault Machine :=
  match address with
  | .int a =>
    if 0 ≤ a ∧ a ≤ m.limit then .ok { m with pointer := a.toNat }
    else if Integer.isWritable a then .error (.addressOutOfBounds a m.limit)
    else .error .digitLimit
  | v => .error (.showing view v .invalidAddress)

def setRunning (view : View) (flag : Value) (m : Machine) : Except Fault Machine :=
  match flag with
  | .bool b => .ok { m with running := b }
  | v => .error (.showing view v .invalidRunningState)

def push (v : Value) (m : Machine) : Machine := { m with stack := v :: m.stack }

/-- The fault of removing more values than there are, with the number in words. -/
def exceeded (m : Machine) (wanted : Option String) : Fault :=
  match wanted with
  | some text => .stackExceeded text m.stack.length
  | none => .digitLimit

/-- Removes `n` values, the most recent first. A count of zero or less removes none. -/
def popCount (wanted : Option String) (n : Int) (m : Machine) :
    Except Fault (List Value × Machine) :=
  if (m.stack.length : Int) < n then .error (m.exceeded wanted)
  else .ok (m.stack.take n.toNat, { m with stack := m.stack.drop n.toNat })

/-- The outcome for a number that is not an integer: the stack is too shallow for
it, or it is no count. -/
def refuseCount (m : Machine) (count : Value) (isMore : Bool) (text : Option String) : Fault :=
  if isMore then m.exceeded text else .notCountable count.qualifiedKind

/-- Removes as many values as a value says. Only integers and truth values count;
other numbers are compared with the depth before they are refused. -/
def pop (count : Value) (m : Machine) : Except Fault (List Value × Machine) :=
  let depth := m.stack.length
  match count with
  | .int n => m.popCount (Integer.text? n) n
  | .bool b => m.popCount (some (boolText b)) (if b then 1 else 0)
  | .float x =>
    .error (m.refuseCount count (Float.ofNat depth < x) (some (Binary64.Layout.real.write x)))
  | .rational q => .error (m.refuseCount count ((depth : Rat) < q) (rationalDisplay? q))
  | .decimal d =>
    match d.exceeds? depth with
    | some isMore => .error (m.refuseCount count isMore (some d.text))
    | none => .error .decimalInvalid
  | v => .error (.notComparable v.kind)

theorem stack_of_popCount {m next : Machine} {wanted : Option String} {n : Int}
    {values : List Value} (h : m.popCount wanted n = .ok (values, next)) :
    m.stack = values ++ next.stack := by
  unfold popCount at h
  split at h
  · cases h
  · cases h
    exact (List.take_append_drop _ _).symm

/-- What storing an instruction comes to. -/
inductive Insertion where
  /-- The instruction is refused and nothing changes. -/
  | refused (fault : Fault)
  /-- The instruction is stored but has no text, and the pointer stays. -/
  | unwritten (m : Machine)
  /-- The instruction is stored and the pointer moves on. -/
  | stored (m : Machine) (address : Nat) (text : String)

/-- Stores an instruction at the pointer and moves the pointer on. -/
def insert (view : View) (self : MachineId) (name : Value) (operands : List Value) (m : Machine) :
    Insertion :=
  if m.slots.size ≤ m.pointer then .refused (.noSlotLeft m.pointer m.limit)
  else
    match Instruction.bind view self name operands with
    | .error fault => .refused fault
    | .ok i =>
      let written := { m with slots := m.slots.setIfInBounds m.pointer (some i) }
      -- the text is for the log, and is made when the slot is written but the pointer not moved
      match i.text? view with
      | none => .unwritten written
      | some text => .stored { written with pointer := m.pointer + 1 } m.pointer text

def multiply (view : View) (first second : Value) : Except Fault Value :=
  match first.number?, second.number? with
  | some a, some b =>
    match Number.product a b with
    | .ok n => .ok (.ofNumber n)
    | .error failure => .error (.ofProduct first second failure)
  | none, _ => .error (.showing view first (.notNumeric first.kind))
  | _, none => .error (.showing view second (.notNumeric second.kind))

def printed (view : View) (stream : Stream) (v : Value) : Except Fault String :=
  match v.display? view with
  | none => .error .digitLimit
  -- the stream is not looked at until there is something to write
  | some text => if stream = .closed then .error .closedStream else .ok (text ++ "\n")

/-- The machine after an operation, with the text it printed or its fault. -/
abbrev Applied := Machine × Except Fault String

/-- An operation that prints nothing and, when it fails, changes nothing. -/
def silent (m : Machine) : Except Fault Machine → Applied
  | .ok next => (next, .ok "")
  | .error fault => (m, .error fault)

/-- Takes values from the stack and goes on with them. -/
def taking (m : Machine) (count : Nat) (next : List Value → Machine → Applied) : Applied :=
  match m.pop (.int count) with
  | .error fault => (m, .error fault)
  | .ok (values, rest) => next values rest

def applyMult (view : View) (self : MachineId) (m : Machine) : Applied :=
  m.taking Opcode.mult.effect.pops fun values rest =>
    match values with
    | [first, second] =>
      -- the factors are taken by now, and are shown by a fault with the stack they leave
      match multiply (rest.seenFrom view self) first second with
      | .ok product => (rest.push product, .ok "")
      | .error fault => (rest, .error fault)
    | _ => (rest, .error .missingOperand)

def applyCall (view : View) (self : MachineId) (operands : List Value) (m : Machine) : Applied :=
  match operands with
  | address :: _ => m.silent (m.setAddress (m.seenFrom view self) address)
  | [] => (m, .error .missingOperand)

def applyRet (view : View) (self : MachineId) (m : Machine) : Applied :=
  m.taking Opcode.ret.effect.pops fun values rest =>
    match values with
    -- an address that is refused stays taken
    | address :: _ => rest.silent (rest.setAddress (rest.seenFrom view self) address)
    | [] => (rest, .error .missingOperand)

def applyPrint (view : View) (self : MachineId) (m : Machine) : Applied :=
  m.taking Opcode.print.effect.pops fun values rest =>
    match values with
    | v :: _ => (rest, printed (rest.seenFrom view self) rest.stream v)
    | [] => (rest, .error .missingOperand)

def applyPush (operands : List Value) (m : Machine) : Applied :=
  match operands with
  | v :: _ => (m.push v, .ok "")
  | [] => (m, .error .missingOperand)

def apply (view : View) (self : MachineId) (op : Opcode) (operands : List Value) (m : Machine) :
    Applied :=
  match op with
  | .mult => m.applyMult view self
  | .call => m.applyCall view self operands
  | .ret => m.applyRet view self
  | .stop => ({ m with running := false }, .ok "")
  | .print => m.applyPrint view self
  | .push => m.applyPush operands

end Machine

end StackMachine
