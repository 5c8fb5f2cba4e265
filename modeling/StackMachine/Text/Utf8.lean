/-! # Reading bytes as text

A decoder that never fails: every longest piece that could have begun a
character and did not, becomes one replacement character. -/

namespace StackMachine.Text

/-- What is known of a character between two of its bytes: the bits read, how many
bytes are missing, and the bounds on the next one. -/
structure Pending where
  bits : Nat
  missing : Nat
  low : Nat
  high : Nat

def replacement : Char := Char.ofNat 0xfffd

/-- The characters completed by a byte that begins a character, and what it leaves open. -/
def beginCharacter (b : Nat) : List Char × Option Pending :=
  if b < 0x80 then ([Char.ofNat b], none)
  else if b < 0xc2 then ([replacement], none)
  else if b < 0xe0 then ([], some ⟨b - 0xc0, 1, 0x80, 0xbf⟩)
  else if b = 0xe0 then ([], some ⟨0, 2, 0xa0, 0xbf⟩)
  else if b = 0xed then ([], some ⟨0xd, 2, 0x80, 0x9f⟩)
  else if b < 0xf0 then ([], some ⟨b - 0xe0, 2, 0x80, 0xbf⟩)
  else if b = 0xf0 then ([], some ⟨0, 3, 0x90, 0xbf⟩)
  else if b < 0xf4 then ([], some ⟨b - 0xf0, 3, 0x80, 0xbf⟩)
  else if b = 0xf4 then ([], some ⟨4, 3, 0x80, 0x8f⟩)
  else ([replacement], none)

def readByte (b : Nat) : Option Pending → List Char × Option Pending
  | none => beginCharacter b
  | some p =>
    if p.low ≤ b && b ≤ p.high then
      let bits := p.bits * 64 + (b - 0x80)
      if p.missing = 1 then ([Char.ofNat bits], none)
      else ([], some ⟨bits, p.missing - 1, 0x80, 0xbf⟩)
    else
      -- the byte that does not fit is read again as the first of a character
      let next := beginCharacter b
      (replacement :: next.1, next.2)

/-- The characters of a byte string whose first character may already be begun. -/
def readBytes : Option Pending → List UInt8 → List Char
  | none, [] => []
  | some _, [] => [replacement]
  | pending, b :: rest =>
    let next := readByte b.toNat pending
    next.1 ++ readBytes next.2 rest

def ofBytes (bytes : List UInt8) : String := String.ofList (readBytes none bytes)

end StackMachine.Text
