/-! # Classes of errors

The classes that exist whether there are machines or not, by which the errors of
values, of numbers and of templates are known. -/

namespace StackMachine

inductive ErrorClass where
  /-- The class above all others. -/
  | any
  | value
  | type
  | index
  | key
  | attribute
  | frozenField
  | memory
  | overflow
  | decimalOverflow
  | decimalInvalid
  deriving DecidableEq, Repr

def ErrorClass.name : ErrorClass → String
  | .any => "Exception"
  | .value => "ValueError"
  | .type => "TypeError"
  | .index => "IndexError"
  | .key => "KeyError"
  | .attribute => "AttributeError"
  | .frozenField => "FrozenInstanceError"
  | .memory => "MemoryError"
  | .overflow => "OverflowError"
  | .decimalOverflow => "Overflow"
  | .decimalInvalid => "InvalidOperation"

end StackMachine
