import StackMachine.Loop
import StackMachine.Machine

/-! # Racks of machines

Machines that are numbered in the order of their creation, with all the text they
have printed. An instruction acts on its owner, which is the machine that runs it
as long as every slot holds instructions of its own machine. -/

namespace StackMachine

/-- Some machines and the pieces of text printed so far, in order. -/
structure Rack where
  machines : Array Machine := #[]
  printed : Array (Stream × String) := #[]

/-- Why a run stopped early: the instruction at `address` failed. -/
structure Abort where
  address : Nat
  op : Opcode
  fault : Fault

namespace Rack

/-- The states of the machines, for the texts that refer to them. -/
def view (r : Rack) : View := fun id => (r.machines[id]?.map Machine.summary).getD default

def put (r : Rack) (id : MachineId) (m : Machine) : Rack :=
  { r with machines := r.machines.setIfInBounds id m }

theorem machines_put_self {r : Rack} {id : MachineId} {old : Machine}
    (h : r.machines[id]? = some old) (m : Machine) : (r.put id m).machines[id]? = some m := by
  have inside : id < r.machines.size := (Array.getElem?_eq_some_iff.mp h).1
  simp [put, inside]

theorem machines_put_of_ne {r : Rack} {id other : MachineId} (h : id ≠ other) (m : Machine) :
    (r.put id m).machines[other]? = r.machines[other]? := by
  simp [put, h]

/-- The text printed to a stream, as one piece. -/
def textOn (r : Rack) (stream : Stream) : String :=
  r.printed.foldl (fun text piece => if piece.1 = stream then text ++ piece.2 else text) ""

/-- Records a piece of text; the empty text leaves no trace. -/
def record (r : Rack) (stream : Stream) (text : String) : Rack :=
  if text = "" then r else { r with printed := r.printed.push (stream, text) }

def apply (r : Rack) (i : Instruction) : Rack × Except Fault Unit :=
  match r.machines[i.owner]? with
  | none => (r, .ok ())
  | some m =>
    match m.apply r.view i.owner i.op i.operands with
    | (next, .ok text) => ((r.put i.owner next).record next.stream text, .ok ())
    -- the owner is replaced here too: what was taken from its stack is lost
    | (next, .error fault) => (r.put i.owner next, .error fault)

/-- One turn of the machine `id`: while it is running and its pointer is at a slot,
the pointer moves on and then the instruction of the slot, if any, is applied. -/
def turn (id : MachineId) (r : Rack) : Loop.Turn Rack Abort :=
  match r.machines[id]? with
  | none => .idle
  | some m =>
    if m.running && m.pointer < m.slots.size then
      -- CALL and RET set the pointer, so it has to have moved before they are applied
      let advanced := r.put id { m with pointer := m.pointer + 1 }
      match m.slots[m.pointer]?.join with
      | none => .moved advanced
      | some i =>
        match advanced.apply i with
        | (next, .ok _) => .moved next
        | (next, .error fault) => .failed next ⟨m.pointer, i.op, fault⟩
    else .idle

def start (id : MachineId) (r : Rack) : Rack :=
  match r.machines[id]? with
  | none => r
  | some m => r.put id { m with running := true }

/-- Runs the machine `id` from its pointer, for at most `fuel` turns. -/
def execute (id : MachineId) (fuel : Nat) (r : Rack) : Loop.Run Rack Abort :=
  Loop.run (turn id) fuel (r.start id)

end Rack

end StackMachine
