import StackMachine.Fault
import StackMachine.Number.Exact

/-! # Mappings

Mappings hold each key once. Lists and mappings, which could change, are no keys,
and neither is a signaling NaN. Numbers are the same key when they are equal, of
whatever kind they are, and truth values count as zero and one. The first of equal
keys is kept, with the value given last. -/

namespace StackMachine.Value

mutual

/-- Why a value cannot be a key, looking at the first offending part. -/
def keyFault? : Value → Option Fault
  | .list items => some (.unhashable (Value.list items).kind)
  | .mapping entries => some (.unhashable (Value.mapping entries).kind)
  | .decimal (.nan _ true _) => some .signalingKey
  | .tuple items => partFault? items
  | _ => none

def partFault? : List Value → Option Fault
  | [] => none
  | v :: rest =>
    match keyFault? v with
    | some fault => some fault
    | none => partFault? rest

end

def keyNumber? : Value → Option Number
  | .bool b => some (.int (if b then 1 else 0))
  | v => v.number?

def sameNumber (v w : Value) : Bool :=
  match v.keyNumber?, w.keyNumber? with
  | some a, some b => a.isEqual b
  | _, _ => false

mutual

def sameKey : Value → Value → Bool
  | .null, .null => true
  | .text s, .text t => s == t
  | .bytes s, .bytes t => s == t
  | .opcode s, .opcode t => s == t
  | .machine s, .machine t => s == t
  -- instructions are compared by which one they are, not by what they say
  | .instruction s _ _ _, .instruction t _ _ _ => s == t
  | .tuple vs, .tuple ws => sameKeys vs ws
  | v, w => sameNumber v w

def sameKeys : List Value → List Value → Bool
  | [], [] => true
  | v :: vs, w :: ws => sameKey v w && sameKeys vs ws
  | _, _ => false

end

def valueUnder? (key : Value) (entries : List (Value × Value)) : Option Value :=
  (entries.find? fun e => e.1.sameKey key).map Prod.snd

/-- Sets an entry under a key that may be one: the value is replaced if the key is there. -/
def setEntry (entries : List (Value × Value)) (k v : Value) : List (Value × Value) :=
  if entries.any (fun e => e.1.sameKey k) then
    entries.map fun e => if e.1.sameKey k then (e.1, v) else e
  else entries ++ [(k, v)]

/-- Sets an entry, unless the key cannot be one. -/
def addEntry (entries : List (Value × Value)) (k v : Value) :
    Except Fault (List (Value × Value)) :=
  match k.keyFault? with
  | some fault => .error fault
  | none => .ok (setEntry entries k v)

end StackMachine.Value
