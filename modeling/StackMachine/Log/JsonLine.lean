import StackMachine.Log.Event

/-! # Events as lines of JSON

Every character other than the printable ones of the first block is escaped, by
its UTF-16 units. Values that JSON does not know are written as the text of their
literal.

This is the form of structlog's JSONRenderer, which is not a part of the program. It is
assumed that it keeps the order of the fields, that it breaks no line and that it
refuses an event only for a value without a text or a key that is no name. -/

namespace StackMachine.JsonLine

/-- A UTF-16 unit as an escape. -/
def unit (n : Nat) : List Char := '\\' :: 'u' :: Text.hexDigits 4 n

def escaped (c : Char) : List Char :=
  if c = '\x22' then ['\\', '\x22']
  else if c = '\\' then ['\\', '\\']
  else if c = '\n' then ['\\', 'n']
  else if c = '\r' then ['\\', 'r']
  else if c = '\t' then ['\\', 't']
  else if c.toNat = 0x08 then ['\\', 'b']
  else if c.toNat = 0x0c then ['\\', 'f']
  else if 0x20 ≤ c.toNat ∧ c.toNat ≤ 0x7e then [c]
  else if c.toNat < 0x10000 then unit c.toNat
  else
    let offset := c.toNat - 0x10000
    unit (0xd800 + offset / 0x400) ++ unit (0xdc00 + offset % 0x400)

def quoted (s : String) : String :=
  String.ofList ('\x22' :: (s.toList.flatMap escaped ++ ['\x22']))

/-- A double, whose special values are spelled out. -/
def number (x : Float) : String :=
  match Binary64.parts x with
  | .nan => "NaN"
  | .infinite negative => if negative then "-Infinity" else "Infinity"
  | .finite _ _ _ => Binary64.Layout.real.write x

def truth (b : Bool) : String := if b then "true" else "false"

def integer (n : Int) : Except Fault String :=
  (Integer.text? n).elim (.error .digitLimit) .ok

def key : Value → Except Fault String
  | .text s => .ok s
  | .null => .ok "null"
  | .bool b => .ok (truth b)
  | .int n => integer n
  | .float x => .ok (number x)
  | v => .error (.unnamableKey v.qualifiedKind)

def member (name value : String) : String := quoted name ++ ": " ++ value

def object (members : List String) : String := "\x7b" ++ Text.commaSeparated members ++ "\x7d"

def asLiteral (view : View) (v : Value) : Except Fault String :=
  (v.literal? view).elim (.error .digitLimit) fun text => .ok (quoted text)

mutual

def value (view : View) : Value → Except Fault String
  | .null => .ok "null"
  | .bool b => .ok (truth b)
  | .int n => integer n
  | .float x => .ok (number x)
  | .text s => .ok (quoted s)
  | .list items => (values view items).map fun texts => "[" ++ Text.commaSeparated texts ++ "]"
  | .tuple items => (values view items).map fun texts => "[" ++ Text.commaSeparated texts ++ "]"
  | .mapping entries => (members view entries).map object
  | v => asLiteral view v

def values (view : View) : List Value → Except Fault (List String)
  | [] => .ok []
  | v :: rest => do
    let first ← value view v
    let others ← values view rest
    return first :: others

def members (view : View) : List (Value × Value) → Except Fault (List String)
  | [] => .ok []
  | (k, v) :: rest => do
    let name ← key k
    let first ← value view v
    let others ← members view rest
    return member name first :: others

end

def line (view : View) (e : Event) : Except Fault String :=
  (members view (e.allFields.map fun (name, v) => (.text name, v))).map object

end StackMachine.JsonLine
