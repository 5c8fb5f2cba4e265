import StackMachine.Template.Problem
import StackMachine.Value.Text

/-! # Faults

Everything that can go wrong, by cause, with the one place where each is put into
words. The faults of machines and instructions form a family of categories; the
others come from the values involved and belong to none, but to a class of errors
in general. -/

namespace StackMachine

inductive Category where
  | machine
  | computer
  | invalidAddressCount
  | invalidAddress
  | addressOutOfBounds
  | stackExceeded
  | invalidRunningState
  | instruction
  | invalidComputer
  | invalidInstruction
  | insufficientArguments
  | invalidArgumentType
  deriving DecidableEq, Repr

namespace Category

/-- All categories, the broader before the narrower. -/
def all : List Category :=
  [.machine, .computer, .invalidAddressCount, .invalidAddress, .addressOutOfBounds,
    .stackExceeded, .invalidRunningState, .instruction, .invalidComputer, .invalidInstruction,
    .insufficientArguments, .invalidArgumentType]

def name : Category → String
  | .machine => "StackVMError"
  | .computer => "ComputerError"
  | .invalidAddressCount => "InvalidAddressCount"
  | .invalidAddress => "InvalidAddress"
  | .addressOutOfBounds => "AddressOutOfBounds"
  | .stackExceeded => "StackExceeded"
  | .invalidRunningState => "InvalidRunningState"
  | .instruction => "InstructionError"
  | .invalidComputer => "InvalidComputer"
  | .invalidInstruction => "InvalidInstruction"
  | .insufficientArguments => "InsufficientArguments"
  | .invalidArgumentType => "InvalidArgumentType"

def ofName? (name : String) : Option Category := all.find? fun c => c.name == name

theorem ofName?_name (c : Category) : ofName? c.name = some c := by
  cases c <;> rfl

theorem ofName?_errorClass (c : ErrorClass) : ofName? c.name = none := by
  cases c <;> rfl

/-- The category itself and the broader ones it belongs to, narrowest first. -/
def lineage : Category → List Category
  | .machine => [.machine]
  | .computer => [.computer, .machine]
  | .invalidAddressCount => [.invalidAddressCount, .computer, .machine]
  | .invalidAddress => [.invalidAddress, .computer, .machine]
  | .addressOutOfBounds => [.addressOutOfBounds, .computer, .machine]
  | .stackExceeded => [.stackExceeded, .computer, .machine]
  | .invalidRunningState => [.invalidRunningState, .computer, .machine]
  | .instruction => [.instruction, .machine]
  | .invalidComputer => [.invalidComputer, .instruction, .machine]
  | .invalidInstruction => [.invalidInstruction, .instruction, .machine]
  | .insufficientArguments => [.insufficientArguments, .instruction, .machine]
  | .invalidArgumentType => [.invalidArgumentType, .instruction, .machine]

/-- The message of a fault of the category that gives none of its own. -/
def defaultMessage : Category → String
  | .machine | .computer | .instruction => "Stack machine error."
  | .invalidAddressCount => "Invalid address count provided."
  | .invalidAddress => "Invalid address provided."
  | .addressOutOfBounds => "Address out of bounds."
  | .stackExceeded => "Program stack exceeded."
  | .invalidRunningState => "Invalid running state provided."
  | .invalidComputer => "Invalid Computer provided."
  | .invalidInstruction => "Invalid instruction provided."
  | .insufficientArguments => "Insufficient arguments provided for this instruction."
  | .invalidArgumentType => "Invalid argument type provided."

end Category

/-- A cause of failure. Where a message shows a value, the cause holds its text. -/
inductive Fault where
  /-- A machine cannot have so many addresses. -/
  | invalidAddressCount (shown : String)
  /-- An address is not an integer. -/
  | invalidAddress (shown : String)
  /-- An address lies outside the machine. -/
  | addressOutOfBounds (address limit : Int)
  /-- The pointer is past the last address when an instruction is to be stored. -/
  | noSlotLeft (pointer : Nat) (limit : Int)
  /-- The stack has fewer values than were to be removed. -/
  | stackExceeded (wanted : String) (depth : Nat)
  /-- A running flag is not a truth value. -/
  | invalidRunningState (shown : String)
  /-- An instruction is to be bound to something other than a machine. -/
  | invalidComputer (shown : String)
  /-- A name is not a mnemonic. -/
  | invalidInstruction (shown : String)
  /-- An instruction has too few operands. -/
  | insufficientArguments (op : Opcode) (given : Nat)
  /-- A factor is not a number. -/
  | notNumeric (kind shown : String)
  /-- Two numbers have no common product. -/
  | notMultipliable (first second : String)
  /-- An integer is too long to be written. -/
  | digitLimit
  | closedStream
  /-- A value cannot be compared with the depth of the stack. -/
  | notComparable (kind : String)
  /-- A value is not the number of times to do something. -/
  | notCountable (kind : String)
  /-- An instruction lacks an operand it needs. -/
  | missingOperand
  | integerTooLarge
  | quotientTooLarge
  | decimalOverflow
  /-- A decimal operation has no meaning. -/
  | decimalInvalid
  | outOfMemory
  /-- A count of addresses exceeds every index. -/
  | countTooLarge
  /-- A value has no attribute of that name. -/
  | noAttribute (kind name : String)
  | unknownLevel (shown expected : String)
  | unknownRenderer (shown expected : String)
  /-- A field is assigned that cannot change. -/
  | frozenField (shown : String)
  /-- A mutable value is used as a key. -/
  | unhashable (kind : String)
  | signalingKey
  | missingKey (shown : String)
  /-- A key of a mapping cannot be a name in a log line. -/
  | unnamableKey (kind : String)
  /-- An argument is given both by its place and by its name. -/
  | repeatedArgument (callee argument : String)
  | noLength (kind : String)
  | noItems (kind : String)
  /-- A value that is no text is to follow a text. -/
  | notText (kind : String)
  | template (problem : Template.Problem)
  deriving DecidableEq, Repr

namespace Fault

def category? : Fault → Option Category
  | .invalidAddressCount _ => some .invalidAddressCount
  | .invalidAddress _ => some .invalidAddress
  | .addressOutOfBounds _ _ => some .addressOutOfBounds
  | .noSlotLeft _ _ => some .addressOutOfBounds
  | .stackExceeded _ _ => some .stackExceeded
  | .invalidRunningState _ => some .invalidRunningState
  | .invalidComputer _ => some .invalidComputer
  | .invalidInstruction _ => some .invalidInstruction
  | .insufficientArguments _ _ => some .insufficientArguments
  | .notNumeric _ _ => some .invalidArgumentType
  | .notMultipliable _ _ => some .invalidArgumentType
  | _ => none

def isMachineFault (f : Fault) : Bool := f.category?.isSome

/-- The class of a fault apart from its category; for machine faults, the one their family stands
under. -/
def errorClass : Fault → ErrorClass
  | .digitLimit | .closedStream | .unknownLevel _ _ | .unknownRenderer _ _ => .value
  | .notComparable _ | .notCountable _ | .unhashable _ | .signalingKey | .unnamableKey _
  | .repeatedArgument _ _ | .noLength _ | .noItems _ | .notText _ => .type
  | .missingOperand => .index
  | .missingKey _ => .key
  | .noAttribute _ _ => .attribute
  | .frozenField _ => .frozenField
  | .outOfMemory => .memory
  | .integerTooLarge | .quotientTooLarge | .countTooLarge => .overflow
  | .decimalOverflow => .decimalOverflow
  | .decimalInvalid => .decimalInvalid
  | .template problem => problem.errorClass
  | .invalidAddressCount _ | .invalidAddress _ | .addressOutOfBounds _ _ | .noSlotLeft _ _
  | .stackExceeded _ _ | .invalidRunningState _ | .invalidComputer _ | .invalidInstruction _
  | .insufficientArguments _ _ | .notNumeric _ _ | .notMultipliable _ _ => .any

/-- The name under which a fault is raised. -/
def errorName (f : Fault) : String := f.category?.elim f.errorClass.name Category.name

/-- The name of a fault shows whether it is one of machines, and of which category. -/
theorem ofName?_errorName (f : Fault) : Category.ofName? f.errorName = f.category? := by
  unfold errorName
  cases f.category? with
  | none => exact Category.ofName?_errorClass f.errorClass
  | some category => exact Category.ofName?_name category

def message : Fault → String
  | .invalidAddressCount shown => s!"Invalid address count provided: {shown}"
  | .invalidAddress shown => s!"Invalid address provided: {shown}"
  | .addressOutOfBounds address limit => s!"Address {address} out of bounds (0..{limit})"
  | .noSlotLeft pointer limit => s!"Cannot insert at address {pointer} (0..{limit})"
  | .stackExceeded wanted depth => s!"Cannot pop {wanted} value(s) from a stack of depth {depth}"
  | .invalidRunningState shown => s!"Invalid running state provided: {shown}"
  | .invalidComputer shown => s!"Invalid Computer provided: {shown}"
  | .invalidInstruction shown => s!"Invalid instruction provided: {shown}"
  | .insufficientArguments op given =>
    op.mnemonic ++ " expects at least " ++ toString op.arity ++ s!" operand(s), got {given}"
  | .notNumeric kind shown => s!"MULT expects numeric operands, got {kind}: {shown}"
  | .notMultipliable first second => s!"MULT cannot multiply {first} by {second}"
  | .digitLimit => "Exceeds the limit (4300 digits) for integer string conversion; " ++
      "use sys.set_int_max_str_digits() to increase the limit"
  | .closedStream => "I/O operation on closed file"
  | .notComparable kind => s!"'<' not supported between instances of 'int' and '{kind}'"
  | .notCountable kind => s!"'{kind}' object cannot be interpreted as an integer"
  | .missingOperand => "tuple index out of range"
  | .integerTooLarge => "int too large to convert to float"
  | .quotientTooLarge => "integer division result too large for a float"
  | .decimalOverflow => "[<class 'decimal.Overflow'>]"
  | .decimalInvalid => "[<class 'decimal.InvalidOperation'>]"
  | .outOfMemory => ""
  | .countTooLarge => "cannot fit 'int' into an index-sized integer"
  | .noAttribute kind name => s!"'{kind}' object has no attribute '{name}'"
  | .unknownLevel shown expected => s!"Unknown log level {shown}, expected one of {expected}"
  | .unknownRenderer shown expected => s!"Unknown log renderer {shown}, expected one of {expected}"
  | .frozenField shown => s!"cannot assign to field {shown}"
  | .unhashable kind => s!"unhashable type: '{kind}'"
  | .signalingKey => "Cannot hash a signaling NaN value"
  | .missingKey shown => shown
  | .unnamableKey kind => s!"keys must be str, int, float, bool or None, not {kind}"
  | .repeatedArgument callee argument =>
    callee ++ "() got multiple values for argument '" ++ argument ++ "'"
  | .noLength kind => "object of type '" ++ kind ++ "' has no len()"
  | .noItems kind => s!"'{kind}' object is not subscriptable"
  | .notText kind => s!"can only concatenate str (not \"{kind}\") to str"
  | .template problem => problem.message

def ofProduct (first second : Value) : Number.Failure → Fault
  | .mismatch => .notMultipliable first.kind second.kind
  | .integerTooLarge => .integerTooLarge
  | .quotientTooLarge => .quotientTooLarge
  | .decimal .overflow => .decimalOverflow
  | .decimal .invalid => .decimalInvalid

/-- The fault that shows a value, or the digit limit when the value has no text. -/
def showing (view : View) (v : Value) (fault : String → Fault) : Fault :=
  match v.literal? view with
  | some shown => fault shown
  | none => .digitLimit

end Fault

end StackMachine
