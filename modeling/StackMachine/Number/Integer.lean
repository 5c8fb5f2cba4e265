import StackMachine.Number.Rounding

/-! # Integers as text

An integer is written in decimal as long as it has at most 4300 digits; a longer
one has no text. -/

namespace StackMachine.Integer

/-- The most digits an integer may have to be written, its sign not counted. -/
def digitLimit : Nat := 4300

/-- The least magnitude that is too long to be written. -/
def unwritable : Nat := tenPow digitLimit

def isWritable (n : Int) : Bool := n.natAbs < unwritable

def text? (n : Int) : Option String := if isWritable n then some (toString n) else none

end StackMachine.Integer
