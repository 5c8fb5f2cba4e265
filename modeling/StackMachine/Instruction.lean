import StackMachine.Fault

/-! # Instructions

An operation with its operands, bound to the machine it acts on. An instruction
is built from arbitrary values, which are checked in a fixed order: the machine,
the mnemonic, then the number of operands. -/

namespace StackMachine

/-- An operation bound to the machine that owns it. -/
structure Instruction where
  owner : MachineId
  op : Opcode
  operands : List Value

namespace Instruction

/-- An instruction whose owner is known to be a machine. -/
def bind (view : View) (owner : MachineId) (name : Value) (operands : List Value) :
    Except Fault Instruction :=
  match name.opcode? with
  | none => .error (.showing view name .invalidInstruction)
  | some op =>
    if operands.length < op.arity then .error (.insufficientArguments op operands.length)
    else .ok ⟨owner, op, operands⟩

/-- An instruction from values of any kind, of which the machine is checked first. -/
def build (view : View) (machine name operands : Value) : Except Fault Instruction :=
  match machine with
  | .machine owner => bind view owner name operands.operands
  | v => .error (.showing view v .invalidComputer)

def text? (view : View) (i : Instruction) : Option String :=
  (Value.literals? view i.operands).map (instructionText i.op)

def readOnlyNames : List String := ["computer", "opcode", "operands"]

def toValue (i : Instruction) (serial : Nat) : Value :=
  .instruction serial i.owner i.op i.operands

end Instruction

end StackMachine
