/-! # Joined texts

The items of a list written one after another. -/

namespace StackMachine.Text

/-- The texts in order, with `separator` between neighbours. -/
def joinWith (separator : String) : List String → String
  | [] => ""
  | [last] => last
  | first :: rest => first ++ separator ++ joinWith separator rest

def commaSeparated (items : List String) : String := joinWith ", " items

def repeated (c : Char) (n : Nat) : String := String.ofList (List.replicate n c)

/-- A text filled up with spaces on the right; longer texts are kept. -/
def padRight (width : Nat) (s : String) : String := s ++ repeated ' ' (width - s.length)

def padLeft (width : Nat) (s : String) : String := repeated ' ' (width - s.length) ++ s

def trimSpacesRight (s : String) : String :=
  String.ofList (s.toList.reverse.dropWhile (· == ' ')).reverse

end StackMachine.Text
