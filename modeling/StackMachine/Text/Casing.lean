import StackMachine.Text.CaseTable
import StackMachine.Text.Cased

/-! # Upper and lower case

Full case conversion: one character may become several, and a capital sigma is
lowered to its final form at the end of a word. -/

namespace StackMachine.Text

/-- The case of a character beyond the first block, by its two tables. -/
def mapped (runs : List CaseRun) (expansions : List (Nat × List Nat)) (c : Char) : List Char :=
  match expansions.find? (fun e => e.1 == c.toNat) with
  | some e => e.2.map Char.ofNat
  | none =>
    match runs.find? (fun r => r.holds c.toNat) with
    | some r => [Char.ofNat ((c.toNat : Int) + r.shift).toNat]
    | none => [c]

def upperOf (c : Char) : List Char :=
  if c.toNat < 0x80 then [c.toUpper] else mapped upperRuns upperExpansions c

def upper (s : String) : String := String.ofList (s.toList.flatMap upperOf)

/-- Whether a capital sigma with these surroundings ends a word. The characters
before it are given nearest first. -/
def endsWord (before after : List Char) : Bool :=
  (before.dropWhile isCaseIgnorable).head?.any isCased &&
    !(after.dropWhile isCaseIgnorable).head?.any isCased

def lowerOf (before : List Char) (c : Char) (after : List Char) : List Char :=
  if c.toNat < 0x80 then [c.toLower]
  else if c = 'Σ' then [if endsWord before after then 'ς' else 'σ']
  else mapped lowerRuns lowerExpansions c

/-- The lower case of the characters of a text, given those before them. -/
def lowerFrom : List Char → List Char → List Char
  | _, [] => []
  | before, c :: after => lowerOf before c after ++ lowerFrom (c :: before) after

def lower (s : String) : String := String.ofList (lowerFrom [] s.toList)

/-- One byte in upper case, if it is a letter of the first block. -/
def upperByte (b : UInt8) : UInt8 := if 0x61 ≤ b && b ≤ 0x7a then b - 0x20 else b

def lowerByte (b : UInt8) : UInt8 := if 0x41 ≤ b && b ≤ 0x5a then b + 0x20 else b

end StackMachine.Text
