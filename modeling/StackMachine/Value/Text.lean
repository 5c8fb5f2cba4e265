import StackMachine.Number.Integer
import StackMachine.Text.Quoted
import StackMachine.Value

/-! # Values as text

A value has two texts: its literal, which messages show, and its display, which
is printed. They differ for texts, decimals, rationals and opcodes only. A value
that holds an integer too long to be written has neither. References to machines
are shown by the state of the machine at that time.

Values nest to any depth. A text is put together by one call for each level, and it
is assumed that the room for calls never runs out: a value nested a thousand levels
deep, which an interpreter may refuse, has its texts here like any other. Whatever is
said of the values that have a text, and of what fails for want of one, is exact
under this assumption only. -/

namespace StackMachine

/-- What the text of a machine tells about it. -/
structure Summary where
  addresses : Nat
  pointer : Nat
  running : Bool
  depth : Nat
  deriving DecidableEq, Repr, Inhabited

abbrev View := MachineId → Summary

def boolText (b : Bool) : String := if b then "True" else "False"

def Summary.text (s : Summary) : String :=
  "Computer(addresses=" ++ toString s.addresses ++ ", pointer=" ++ toString s.pointer ++
    ", running=" ++ boolText s.running ++ ", stack_depth=" ++ toString s.depth ++ ")"

def Opcode.literal (op : Opcode) : String :=
  "<Opcode." ++ op.mnemonic ++ ": '" ++ op.mnemonic ++ "'>"

def Opcode.display (op : Opcode) : String := "Opcode." ++ op.mnemonic

def rationalLiteral? (q : Rat) : Option String :=
  match Integer.text? q.num, Integer.text? q.den with
  | some n, some d => some ("Fraction(" ++ n ++ ", " ++ d ++ ")")
  | _, _ => none

/-- The display of a rational: a whole number has no denominator. -/
def rationalDisplay? (q : Rat) : Option String :=
  if q.den = 1 then Integer.text? q.num
  else
    match Integer.text? q.num, Integer.text? q.den with
    | some n, some d => some (n ++ "/" ++ d)
    | _, _ => none

def instructionText (op : Opcode) (operands : List String) : String :=
  "Instruction(" ++ Text.commaSeparated (op.mnemonic :: operands) ++ ")"

/-- The text of a tuple, in which a single item is followed by a comma. -/
def tupleText : List String → String
  | [item] => "(" ++ item ++ ",)"
  | items => "(" ++ Text.commaSeparated items ++ ")"

namespace Value

mutual

/-- The literal of a value. -/
def literal? (view : View) : Value → Option String
  | .null => some "None"
  | .bool b => some (boolText b)
  | .int n => Integer.text? n
  | .float x => some (Binary64.Layout.real.write x)
  | .decimal d => some ("Decimal('" ++ d.text ++ "')")
  | .rational q => rationalLiteral? q
  | .complex z => some z.text
  | .text s => some (Text.quoted s)
  | .bytes bs => some (Text.quotedBytes bs)
  | .list items =>
    (literals? view items).map fun texts => "[" ++ Text.commaSeparated texts ++ "]"
  | .tuple items => (literals? view items).map tupleText
  | .mapping entries =>
    (entryLiterals? view entries).map fun texts => "\x7b" ++ Text.commaSeparated texts ++ "\x7d"
  | .opcode op => some op.literal
  | .machine id => some (view id).text
  | .instruction _ _ op operands => (literals? view operands).map (instructionText op)

/-- The literals of some values, when all of them have one. -/
def literals? (view : View) : List Value → Option (List String)
  | [] => some []
  | v :: rest =>
    match literal? view v, literals? view rest with
    | some shown, some others => some (shown :: others)
    | _, _ => none

def entryLiterals? (view : View) : List (Value × Value) → Option (List String)
  | [] => some []
  | (k, v) :: rest =>
    match literal? view k, literal? view v, entryLiterals? view rest with
    | some key, some shown, some others => some ((key ++ ": " ++ shown) :: others)
    | _, _, _ => none

end

def display? (view : View) : Value → Option String
  | .text s => some s
  | .decimal d => some d.text
  | .rational q => rationalDisplay? q
  | .opcode op => some op.display
  | v => v.literal? view

end Value

end StackMachine
