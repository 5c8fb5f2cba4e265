import StackMachine.Number
import StackMachine.Opcode

/-! # Values

Everything that operands, stack cells and arguments may hold. A machine is held
by reference and an instruction by its content: instructions never change, so
the content together with its serial number stands for the instruction. -/

namespace StackMachine

/-- The number of a machine within its rack. -/
abbrev MachineId := Nat

/-- A dynamic value. The entries of a mapping keep the order of insertion. -/
inductive Value where
  | null
  | bool (b : Bool)
  | int (n : Int)
  | float (x : Float)
  | decimal (d : Decimal)
  | rational (q : Rat)
  | complex (z : Complex)
  | text (s : String)
  | bytes (bs : List UInt8)
  | list (items : List Value)
  | tuple (items : List Value)
  | mapping (entries : List (Value × Value))
  | opcode (op : Opcode)
  | machine (id : MachineId)
  | instruction (serial : Nat) (owner : MachineId) (op : Opcode) (operands : List Value)
  deriving Inhabited

namespace Value

/-- The name of the kind of a value, as messages give it. -/
def kind : Value → String
  | .null => "NoneType"
  | .bool _ => "bool"
  | .int _ => "int"
  | .float _ => "float"
  | .decimal _ => "Decimal"
  | .rational _ => "Fraction"
  | .complex _ => "complex"
  | .text _ => "str"
  | .bytes _ => "bytes"
  | .list _ => "list"
  | .tuple _ => "tuple"
  | .mapping _ => "dict"
  | .opcode _ => "Opcode"
  | .machine _ => "Computer"
  | .instruction _ _ _ _ => "Instruction"

/-- The name of the kind where it is given in full. -/
def qualifiedKind : Value → String
  | .decimal _ => "decimal.Decimal"
  | v => v.kind

/-- The number in a value; truth values are not numbers. -/
def number? : Value → Option Number
  | .int n => some (.int n)
  | .float x => some (.float x)
  | .decimal d => some (.decimal d)
  | .rational q => some (.rational q)
  | .complex z => some (.complex z)
  | _ => none

def ofNumber : Number → Value
  | .int n => .int n
  | .rational q => .rational q
  | .float x => .float x
  | .complex z => .complex z
  | .decimal d => .decimal d

/-- Whether a value is an integer; truth values are not. -/
def isInteger : Value → Bool
  | .int _ => true
  | _ => false

def isNumber (v : Value) : Bool := v.number?.isSome

/-- The operation a value names, which it does as a text that is a mnemonic. -/
def opcode? : Value → Option Opcode
  | .text name => Opcode.ofMnemonic? name
  | _ => none

/-- The operands a value stands for: those of a list or tuple, otherwise itself. -/
def operands : Value → List Value
  | .list items => items
  | .tuple items => items
  | v => [v]

/-- Whether a value counts as given. Nothing, false, zero and the empty are not. -/
def isGiven : Value → Bool
  | .null => false
  | .bool b => b
  | .int n => n != 0
  | .float x => !(x == 0.0)
  | .decimal d => !d.isZero
  | .rational q => q.num != 0
  | .complex z => !(z.re == 0.0 && z.im == 0.0)
  | .text s => s != ""
  | .bytes bs => !bs.isEmpty
  | .list items => !items.isEmpty
  | .tuple items => !items.isEmpty
  | .mapping entries => !entries.isEmpty
  | .opcode _ => true
  | .machine _ => true
  | .instruction _ _ _ _ => true

end Value

end StackMachine
