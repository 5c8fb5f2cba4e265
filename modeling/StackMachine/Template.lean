import StackMachine.Template.Conversion
import StackMachine.Value.Mapping

/-! # Filling templates

The directives of a template take arguments from left to right. A tuple is many
arguments and any other value is one; directives with a key take the value under
it instead, from a mapping that is the only argument. All arguments of a template
without a mapping have to be used. -/

namespace StackMachine.Template

/-- The arguments that are left, and where keys are looked up. -/
structure Arguments where
  left : List Value
  keyed : Option Value

namespace Arguments

def of : Value → Arguments
  | .tuple items => ⟨items, none⟩
  | .mapping entries => ⟨[.mapping entries], some (.mapping entries)⟩
  | .list items => ⟨[.list items], some (.list items)⟩
  | .bytes bs => ⟨[.bytes bs], some (.bytes bs)⟩
  | v => ⟨[v], none⟩

def next (a : Arguments) : Except Fault (Value × Arguments) :=
  match a.left with
  | v :: rest => .ok (v, { a with left := rest })
  | [] => .error (.template .tooFewArguments)

/-- The value under a key. Only a mapping has keys; a sequence has positions. -/
def under (name : String) : Value → Except Fault Value
  | .mapping entries =>
    (Value.valueUnder? (.text name) entries).elim (.error (.missingKey (Text.quoted name))) .ok
  | v => .error (.template (.positionRequired (match v with
    | .bytes _ => "byte"
    | v => v.kind)))

/-- Goes to the key of a directive: the value under it is then the only argument. -/
def goTo (key : Key) (a : Arguments) : Except Fault Arguments :=
  match key, a.keyed with
  | .absent, _ => .ok a
  | _, none => .error (.template .noMapping)
  | .unclosed, some _ => .error (.template .unclosedKey)
  | .named name, some source => (under name source).map fun v => { a with left := [v] }

def isUnused (a : Arguments) : Bool := a.keyed.isNone && !a.left.isEmpty

end Arguments

/-- What a width or a precision may be: at most `greatest`, and as an argument also down to the
opposite of one more. -/
structure Extent where
  greatest : Nat
  /-- The problem of a larger number in a template. -/
  tooLarge : Problem
  /-- The problem of a number out of range as an argument. -/
  outOfRange : Problem

def Extent.width : Extent := ⟨0x7fffffffffffffff, .widthTooLarge, .widthOutOfRange⟩

def Extent.precision : Extent := ⟨0x7fffffff, .precisionTooLarge, .precisionOutOfRange⟩

def Extent.ofValue (extent : Extent) : Value → Except Fault Int
  | .int n =>
    if -(extent.greatest : Int) - 1 ≤ n ∧ n ≤ extent.greatest then .ok n
    else .error (.template extent.outOfRange)
  | .bool b => .ok (if b then 1 else 0)
  | _ => .error (.template .sizeNotInteger)

/-- A size, which may take the next argument. -/
def Extent.take (extent : Extent) (s : Size) (a : Arguments) :
    Except Fault (Option Int × Arguments) :=
  match s with
  | .absent => .ok (none, a)
  | .given n =>
    if n ≤ extent.greatest then .ok (some n, a) else .error (.template extent.tooLarge)
  | .argument => do
    let (v, rest) ← a.next
    let n ← extent.ofValue v
    return (some n, rest)

/-- The width from which on no text fits into memory. Like the memory of machines it is assumed. -/
def roomLimit : Nat := 0x80000000

/-- A body filled up to a width. A negative width fills on the right; the least of all, which has
no opposite, fills nothing. -/
def Body.laidOut (flags : Flags) (width : Int) (b : Body) : Except Fault String :=
  let count := if width < -(Extent.width.greatest : Int) then 0 else width.natAbs
  if roomLimit ≤ count then .error .outOfMemory
  else .ok (b.filled flags (flags.left || width < 0) count)

/-- The text of a directive and the arguments it leaves. A negative precision is zero. -/
def apply (view : View) (d : Directive) (a : Arguments) : Except Fault (String × Arguments) := do
  -- the letter is missed only when the key and both sizes are found to be right
  let a ← a.goTo d.key
  let (width, a) ← Extent.width.take d.width a
  let (precision, a) ← Extent.precision.take d.precision a
  match d.letter with
  | none => .error (.template .cutShort)
  | some letter =>
    let (v, a) ← a.next
    let body ← convert view letter d.flags (precision.map Int.toNat) v
    let text ← body.laidOut d.flags (width.getD 0)
    return (text, a)

def fillPieces (view : View) : List Piece → Arguments → Except Fault String
  | [], a => if a.isUnused then .error (.template .tooManyArguments) else .ok ""
  | .plain c :: rest, a => (fillPieces view rest a).map (c.toString ++ ·)
  | .directive d :: rest, a => do
    let (first, left) ← apply view d a
    let others ← fillPieces view rest left
    return first ++ others

/-- A template filled with a value, which may be many arguments. -/
def fill (view : View) (template : String) (argument : Value) : Except Fault String :=
  fillPieces view (pieces template) (.of argument)

end StackMachine.Template
