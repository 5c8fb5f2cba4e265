import StackMachine.Value.Mapping

/-! # Tables of opcodes

The tables of arities and stack effects, asked with keys of any kind. Only the
operations themselves are keys; their mnemonics are not. -/

namespace StackMachine.Table

/-- What a table of operations holds under a key. -/
def find {α : Type} (table : Opcode → α) (view : View) (key : Value) : Except Fault α :=
  match key with
  | .opcode op => .ok (table op)
  | v => .error (v.keyFault?.getD (.showing view v .missingKey))

def effect (view : View) (key : Value) : Except Fault StackEffect := find Opcode.effect view key

def arity (view : View) (key : Value) : Except Fault Nat := find Opcode.arity view key

/-- The public names, in the order in which they are listed. -/
def publicNames : List String :=
  ["Computer", "Instruction", "Opcode", "ARITY", "get_stack_effect"] ++
    Category.all.map Category.name ++ ["Settings", "configure_logging"]

end StackMachine.Table
