import StackMachine.Text.Printable

/-! # Quoted texts

Texts and byte strings between quotes. The quote is an apostrophe unless the
content has an apostrophe and no double quote. Line breaks are always escaped, so
a quoted text stands on one line. -/

namespace StackMachine.Text

/-- The lowest `width` hexadecimal digits of `n`, most significant first. -/
def hexDigits : Nat → Nat → List Char
  | 0, _ => []
  | width + 1, n => hexDigits width (n / 16) ++ [Nat.digitChar (n % 16)]

def delimiter (content : List Char) : Char :=
  if content.contains '\x27' && !content.contains '\x22' then '\x22' else '\x27'

/-- A character written by its number, in the shortest of the three forms that has room for it. -/
def byNumber (c : Char) : List Char :=
  if c.toNat < 0x100 then '\\' :: 'x' :: hexDigits 2 c.toNat
  else if c.toNat < 0x10000 then '\\' :: 'u' :: hexDigits 4 c.toNat
  else '\\' :: 'U' :: hexDigits 8 c.toNat

/-- How one character stands between two `quote` characters; `keep` says which
characters other than the escaped ones are written as themselves. -/
def escaped (keep : Char → Bool) (quote c : Char) : List Char :=
  if c = quote ∨ c = '\\' then ['\\', c]
  else if c = '\n' then ['\\', 'n']
  else if c = '\r' then ['\\', 'r']
  else if c = '\t' then ['\\', 't']
  else if keep c then [c]
  else byNumber c

/-- The content between delimiters, with everything escaped that has to be. -/
def enclosed (keep : Char → Bool) (content : List Char) : List Char :=
  let quote := delimiter content
  quote :: (content.flatMap (escaped keep quote) ++ [quote])

def quoted (s : String) : String := String.ofList (enclosed isPrintable s.toList)

/-- The characters kept in a quoted byte string: the printable ones of the first block. -/
def isPlainByte (c : Char) : Bool := 0x20 ≤ c.toNat && c.toNat < 0x7f

/-- A byte string between quotes, marked by a leading `b`. -/
def quotedBytes (bytes : List UInt8) : String :=
  String.ofList ('b' :: enclosed isPlainByte (bytes.map fun b => Char.ofNat b.toNat))

/-- A text in which all characters beyond the first block are written by their numbers. -/
def inFirstBlock (s : String) : String :=
  String.ofList (s.toList.flatMap fun c => if c.toNat < 0x80 then [c] else byNumber c)

end StackMachine.Text
