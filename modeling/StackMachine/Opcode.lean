/-! # Opcodes

The six operations of the machine, with their mnemonics, the least number of
operands each is written with, and its effect on the depth of the stack. -/

namespace StackMachine

inductive Opcode where
  | mult
  | call
  | ret
  | stop
  | print
  | push
  deriving DecidableEq, Repr, Inhabited

/-- How many values an operation takes from the stack and how many it leaves there. -/
structure StackEffect where
  pops : Nat
  pushes : Nat
  deriving DecidableEq, Repr

namespace Opcode

/-- All operations, in the order of their definition. -/
def all : List Opcode := [.mult, .call, .ret, .stop, .print, .push]

def mnemonic : Opcode → String
  | .mult => "MULT"
  | .call => "CALL"
  | .ret => "RET"
  | .stop => "STOP"
  | .print => "PRINT"
  | .push => "PUSH"

/-- The least number of operands an instruction must have. -/
def arity : Opcode → Nat
  | .call | .push => 1
  | .mult | .ret | .stop | .print => 0

def effect : Opcode → StackEffect
  | .mult => ⟨2, 1⟩
  | .call => ⟨0, 0⟩
  | .ret => ⟨1, 0⟩
  | .stop => ⟨0, 0⟩
  | .print => ⟨1, 0⟩
  | .push => ⟨0, 1⟩

/-- The operation with a mnemonic; case matters. -/
def ofMnemonic? (name : String) : Option Opcode := all.find? fun op => op.mnemonic == name

end Opcode

end StackMachine
