import StackMachine.Fault

/-! # Reports of faults by category

A fault of a category as it is reported on its own: with the message that was
given, or the default one of the category when none was. -/

namespace StackMachine

structure Report where
  category : Category
  message : Value

namespace Report

/-- A report with the given message, if it counts as given. -/
def of (category : Category) (message : Value) : Report :=
  ⟨category, if message.isGiven then message else .text category.defaultMessage⟩

def display? (view : View) (r : Report) : Option String := r.message.display? view

def literal? (view : View) (r : Report) : Option String :=
  (r.message.literal? view).map fun shown => r.category.name ++ "(" ++ shown ++ ")"

end Report

end StackMachine
