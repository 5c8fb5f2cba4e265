import StackMachine.Proofs.Insertion

/-!
# Loading a program

The lines of a program are stored one after another from an address on, until one of them is
refused: there is no slot left for it, its name is no mnemonic, or it has too few operands, in
this order. What is stored are the lines before it, each in its slot, and all else is as it
was. Lines that cannot be written are left out, since those may be stored and fail all the same.
-/

namespace StackMachine

theorem Opcode.ofMnemonic?_eq_some_iff {name : String} {op : Opcode} :
    ofMnemonic? name = some op ↔ name = op.mnemonic := by
  constructor
  · intro found
    have same := List.find?_some found
    exact (beq_iff_eq.mp same).symm
  · rintro rfl
    cases op <;> rfl

/-- A value names an operation exactly when it is the mnemonic of the operation as a text. -/
theorem Value.opcode?_eq_some_iff {v : Value} {op : Opcode} :
    v.opcode? = some op ↔ v = .text op.mnemonic := by
  cases v with
  | text name => simpa [opcode?] using Opcode.ofMnemonic?_eq_some_iff
  | _ => simp [opcode?]

namespace Line

/-- Whether a line names an operation and has the operands that it needs. -/
def isComplete (line : Line) : Bool := line.1.opcode?.any fun op => op.arity ≤ line.2.length

/-- A line is refused at a place of a machine with so many slots, with a fault of this category. -/
inductive Refused (size place : Nat) (line : Line) : Category → Prop
  | full (past : place = size) : Refused size place line .addressOutOfBounds
  | unknown (room : place < size) (unnamed : ∀ op : Opcode, line.1 ≠ .text op.mnemonic) :
      Refused size place line .invalidInstruction
  | unequipped {op : Opcode} (room : place < size) (named : line.1 = .text op.mnemonic)
      (few : line.2.length < op.arity) : Refused size place line .insufficientArguments

/-- The index of the first line of a program that cannot be stored, if the lines are stored from
`place` on in a machine with `size` slots: it is not complete, or its place is past the last slot.
If there is no such line, it is the number of the lines. -/
def firstRefused (size place : Nat) (program : List Line) : Nat :=
  (program.zipIdx place).findIdx fun entry => !entry.1.isComplete || entry.2 == size

variable {size place : Nat} {line : Line} {category : Category} {rest : List Line}

theorem isComplete_of_named {op : Opcode} (named : line.1 = .text op.mnemonic) :
    line.isComplete = decide (op.arity ≤ line.2.length) := by
  rw [isComplete, Value.opcode?_eq_some_iff.mpr named, Option.any_some]

/-- A line of which no instruction can be made is refused where there is room for one. -/
theorem refused_of_bind {view : View} {owner : MachineId} {fault : Fault} (room : place < size)
    (name : line.1.isWritable = true)
    (refusal : Instruction.bind view owner line.1 line.2 = .error fault) :
    ∃ category, fault.category? = some category ∧ line.Refused size place category := by
  unfold Instruction.bind at refusal
  cases known : line.1.opcode? with
  | none =>
    rw [known] at refusal
    cases refusal
    have unnamed : ∀ op : Opcode, line.1 ≠ .text op.mnemonic := by
      intro op named
      rw [Value.opcode?_eq_some_iff.mpr named] at known
      cases known
    rcases Fault.showing_eq view line.1 .invalidInstruction with ⟨-, shown, same⟩ | ⟨long, -⟩
    · exact ⟨_, by rw [same]; rfl, .unknown room unnamed⟩
    · rw [name] at long
      cases long
  | some op =>
    rw [known] at refusal
    dsimp only at refusal
    split at refusal
    · rename_i few
      cases refusal
      exact ⟨_, rfl, .unequipped room (Value.opcode?_eq_some_iff.mp known) few⟩
    · cases refusal

/-- A line that is refused is the first. -/
theorem Refused.first (refused : line.Refused size place category) (rest : List Line) :
    firstRefused size place (line :: rest) = 0 := by
  have bad : (!line.isComplete || place == size) = true := by
    cases refused with
    | full past => simp [past]
    | unknown room unnamed =>
      cases known : line.1.opcode? with
      | none => simp [isComplete, known]
      | some op => exact absurd (Value.opcode?_eq_some_iff.mp known) (unnamed op)
    | unequipped room named few => simp [isComplete_of_named named, few]
  simp [firstRefused, List.findIdx_cons, bad]

theorem firstRefused_of_complete (complete : line.isComplete = true) (room : place < size)
    (rest : List Line) :
    firstRefused size place (line :: rest) = firstRefused size (place + 1) rest + 1 := by
  have good : (!line.isComplete || place == size) = false := by
    simp [complete, Nat.ne_of_lt room]
  simp [firstRefused, List.findIdx_cons, good]

end Line

namespace Machine

/-- The machine `last` is `m` with these lines stored from its pointer on, as instructions of its
own, and with the pointer moved past them. -/
structure Filled (id : MachineId) (lines : List Line) (m last : Machine) : Prop where
  rest : last = { m with slots := last.slots, pointer := m.pointer + lines.length }
  stored : ∀ (x : Nat) (line : Line), lines[x]? = some line → ∃ op : Opcode,
    line.1 = .text op.mnemonic ∧ last.slots[m.pointer + x]? = some (some ⟨id, op, line.2⟩)
  others : ∀ address, address < m.pointer ∨ m.pointer + lines.length ≤ address →
    last.slots[address]? = m.slots[address]?

variable {id : MachineId} {m last : Machine} {line : Line} {lines : List Line} {op : Opcode}

theorem filled_nil (id : MachineId) (m : Machine) : m.Filled id [] m :=
  ⟨rfl, fun _ _ none => by simp at none, fun _ _ => rfl⟩

theorem Filled.cons (room : m.pointer < m.slots.size) (named : line.1 = .text op.mnemonic)
    (filled : (m.holding ⟨id, op, line.2⟩).advanced.Filled id lines last) :
    m.Filled id (line :: lines) last := by
  have slots : ∀ address, (m.holding ⟨id, op, line.2⟩).advanced.slots[address]? =
      if m.pointer = address then some (some ⟨id, op, line.2⟩) else m.slots[address]? := by
    intro address
    simp only [advanced, holding, Array.getElem?_setIfInBounds, room, if_true]
  refine ⟨?_, ?_, ?_⟩
  · have count : (m.holding ⟨id, op, line.2⟩).advanced.pointer + lines.length =
        m.pointer + (line :: lines).length := by
      simp only [advanced, holding, List.length_cons]
      omega
    have same := filled.rest
    rw [count] at same
    exact same
  · intro x line' found
    cases x with
    | zero =>
      cases found
      refine ⟨op, named, ?_⟩
      rw [Nat.add_zero, filled.others m.pointer (Or.inl (Nat.lt_succ_self _)), slots, if_pos rfl]
    | succ x =>
      obtain ⟨op', named', held⟩ := filled.stored x line' found
      refine ⟨op', named', ?_⟩
      rw [← held]
      congr 1
      simp only [advanced, holding]
      omega
  · intro address outside
    rw [List.length_cons] at outside
    rw [filled.others address (by simp only [advanced, holding]; omega), slots,
      if_neg (by omega)]

end Machine

namespace Session

variable {s : Session} {id : MachineId} {m : Machine} {line : Line} {fuel : Nat}

theorem performAll_of_ok {operation : Operation} {next : Session} {reply : Reply}
    (done : s.perform fuel operation = (next, .ok reply)) (rest : List Operation) :
    s.performAll fuel (operation :: rest) = next.performAll fuel rest := by
  simp only [performAll, done]

theorem performAll_of_error {operation : Operation} {next : Session} {fault : Fault}
    (failed : s.perform fuel operation = (next, .error fault)) (rest : List Operation) :
    s.performAll fuel (operation :: rest) = (next, .error fault) := by
  simp only [performAll, failed]

/-- A line that can be written is stored at the pointer, which moves on, or it is refused and
nothing changes. -/
theorem perform_insert_line (fuel : Nat) (here : s.machine? id = some m)
    (inside : m.pointer ≤ m.slots.size) (name : line.1.isWritable = true)
    (operands : Value.areWritable line.2 = true) :
    (∃ op text, m.pointer < m.slots.size ∧ line.1 = .text op.mnemonic ∧ line.isComplete = true ∧
      s.perform fuel (.insert id line.1 line.2) =
        ((s.put id (m.holding ⟨id, op, line.2⟩).advanced).log (.inserted m.pointer text),
          .ok .done)) ∨
    (∃ fault category, s.perform fuel (.insert id line.1 line.2) = (s, .error fault) ∧
      fault.category? = some category ∧ line.Refused m.slots.size m.pointer category) := by
  have outcome := Machine.inserting_insert s.view id line.1 line.2 m
  simp only [perform, insert, onMachine, here]
  generalize m.insert s.view id line.1 line.2 = insertion at outcome ⊢
  cases outcome with
  | full past => exact Or.inr ⟨_, _, rfl, rfl, .full (by omega)⟩
  | unbound room refusal =>
    obtain ⟨category, known, refused⟩ := Line.refused_of_bind room name refusal
    exact Or.inr ⟨_, category, rfl, known, refused⟩
  | unwritten room known equipped long =>
    rw [operands] at long
    cases long
  | @stored op text room known equipped short shown =>
    have named := Value.opcode?_eq_some_iff.mp known
    refine Or.inl ⟨op, text, room, named, ?_, rfl⟩
    rw [Line.isComplete_of_named named, decide_eq_true equipped]

/-- Lines that can be written are stored from the pointer on, up to the first that is refused,
and the category of its fault says why. -/
theorem performAll_insert (fuel : Nat) {program : List Line} (here : s.machine? id = some m)
    (inside : m.pointer ≤ m.slots.size)
    (writable : ∀ line ∈ program, line.1.isWritable = true ∧ Value.areWritable line.2 = true) :
    let outcome := s.performAll fuel (program.map fun line => .insert id line.1 line.2)
    let stored := Line.firstRefused m.slots.size m.pointer program
    ∃ last, outcome.1.rack = s.rack.put id last ∧ m.Filled id (program.take stored) last ∧
      (stored = program.length → outcome.2 = .ok .done) ∧
      ∀ line, program[stored]? = some line → ∃ fault category, outcome.2 = .error fault ∧
        fault.category? = some category ∧
        line.Refused m.slots.size (m.pointer + stored) category := by
  -- every line that is stored changes the slots and the journal, so `s` and `m` vary
  induction program generalizing s m with
  | nil =>
    intro outcome stored
    exact ⟨m, (Rack.put_of_here here).symm, Machine.filled_nil id m, fun _ => rfl,
      fun _ none => by simp at none⟩
  | cons line rest ih =>
    intro outcome stored
    obtain ⟨head, tail⟩ := List.forall_mem_cons.mp writable
    rcases perform_insert_line fuel here inside head.1 head.2 with
      ⟨op, text, room, named, complete, done⟩ | ⟨fault, category, failed, known, refused⟩
    · have next : stored =
          Line.firstRefused m.slots.size (m.pointer + 1) rest + 1 :=
        Line.firstRefused_of_complete complete room rest
      have size : (m.holding ⟨id, op, line.2⟩).advanced.slots.size = m.slots.size := by
        simp [Machine.advanced, Machine.holding]
      have later := ih
        (s := (s.put id (m.holding ⟨id, op, line.2⟩).advanced).log (.inserted m.pointer text))
        (m := (m.holding ⟨id, op, line.2⟩).advanced)
        (Rack.machines_put_self here _) (by rw [size]; exact room) tail
      dsimp only at later
      rw [size] at later
      obtain ⟨last, rack, filled, all, first⟩ := later
      have same : outcome = performAll fuel
          ((s.put id (m.holding ⟨id, op, line.2⟩).advanced).log (.inserted m.pointer text))
          (rest.map fun line => .insert id line.1 line.2) := performAll_of_ok done _
      rw [same, next]
      refine ⟨last, ?_, filled.cons room named, ?_, ?_⟩
      · exact rack.trans (Rack.put_put s.rack id _ last)
      · intro whole
        exact all (Nat.succ.inj whole)
      · intro line' found
        obtain ⟨fault, category, failed, known, refused⟩ := first line' found
        refine ⟨fault, category, failed, known, ?_⟩
        have place : m.pointer + (Line.firstRefused m.slots.size (m.pointer + 1) rest + 1) =
            m.pointer + 1 + Line.firstRefused m.slots.size (m.pointer + 1) rest := by omega
        rw [place]
        exact refused
    · have none : stored = 0 := refused.first rest
      have same : outcome = (s, .error fault) := performAll_of_error failed _
      rw [same, none]
      refine ⟨m, (Rack.put_of_here here).symm, Machine.filled_nil id m, ?_, ?_⟩
      · intro empty
        simp at empty
      · intro line' found
        cases found
        exact ⟨fault, category, rfl, known, refused⟩

/-- A program whose lines can be written is loaded from an address of a machine up to the first
line that is refused. The lines before it are in the slots from that address on, the pointer is
after the last of them, and nothing else in the rack changes. If no line is refused, the loading
succeeds; otherwise it fails because there is no slot left for the line, else because the line
names no operation, else because it has too few operands. -/
theorem loading_stores_prefix {program : List Line} {address : Nat}
    (here : s.machine? id = some m) (inside : address < m.slots.size)
    (writable : ∀ line ∈ program, line.1.isWritable = true ∧ Value.areWritable line.2 = true)
    (fuel : Nat) :
    let outcome := s.performAll fuel (loading id (some (.int address)) program)
    let stored := Line.firstRefused m.slots.size address program
    ∃ last, outcome.1.rack = s.rack.put id last ∧
      Machine.Filled id (program.take stored) { m with pointer := address } last ∧
      (stored = program.length → outcome.2 = .ok .done) ∧
      ∀ line, program[stored]? = some line → ∃ fault category, outcome.2 = .error fault ∧
        fault.category? = some category ∧
        line.Refused m.slots.size (address + stored) category := by
  intro outcome stored
  let there : Machine := { m with pointer := address }
  have jump : m.setAddress s.view (.int address) = .ok there :=
    Machine.setAddress_eq_ok_iff.mpr
      ⟨address, rfl, Int.natCast_nonneg _, by rw [Machine.limit]; omega, rfl⟩
  have moved : s.perform fuel (.setAddress id (.int address)) = (s.put id there, .ok .done) := by
    simp only [perform, setAddress, onMachine, here, jump, replacing]
  have same : outcome = (s.put id there).performAll fuel
      (program.map fun line => .insert id line.1 line.2) := performAll_of_ok moved _
  have found : (s.put id there).machine? id = some there := Rack.machines_put_self here there
  obtain ⟨last, rack, filled, all, first⟩ :=
    performAll_insert fuel found (Nat.le_of_lt inside) writable
  rw [same]
  exact ⟨last, rack.trans (Rack.put_put s.rack id there last), filled, all, first⟩

/-- Of three lines that are loaded into the last two of three slots, the second lacks an operand
and is refused before the third runs out of slots. -/
theorem loading_stores_prefix_call :
    let s := single { slots := #[none, none, none], stack := [.null] }
    let program : List Line :=
      [(.text "PUSH", [.int 5]), (.text "CALL", []), (.text "STOP", [])]
    let outcome := s.performAll 0 (loading 0 (some (.int 1)) program)
    (∀ line ∈ program, line.1.isWritable = true ∧ Value.areWritable line.2 = true) ∧
      ∃ last fault, outcome.1.rack = s.rack.put 0 last ∧ last.pointer = 2 ∧
        last.stack = [.null] ∧ last.slots[0]? = some none ∧
        last.slots[1]? = some (some ⟨0, .push, [.int 5]⟩) ∧ last.slots[2]? = some none ∧
        outcome.2 = .error fault ∧ fault.category? = some .insufficientArguments := by
  intro s program outcome
  have five : Integer.isWritable 5 = true := Integer.isWritable_of_index (by decide)
  have writable : ∀ line ∈ program,
      line.1.isWritable = true ∧ Value.areWritable line.2 = true := by
    simp [program, Value.isWritable, Value.areWritable, five]
  have stored : Line.firstRefused 3 1 program = 1 := by decide
  have here : s.machine? 0 = some { slots := #[none, none, none], stack := [.null] } := rfl
  have inside : 1 < (#[none, none, none] : Array (Option Instruction)).size := by decide
  obtain ⟨last, rack, filled, -, first⟩ := loading_stores_prefix here inside writable 0
  change Machine.Filled 0 (program.take (Line.firstRefused 3 1 program)) _ last at filled
  change ∀ line, program[Line.firstRefused 3 1 program]? = some line → _ at first
  rw [stored] at filled first
  obtain ⟨fault, category, failed, known, refused⟩ := first _ rfl
  obtain ⟨op, named, held⟩ := filled.stored 0 _ rfl
  have push : some .push = some op := Value.opcode?_eq_some_iff.mpr named
  cases push
  have same : outcome = s.performAll 0 (loading 0 (some (.int (1 : Nat))) program) := rfl
  rw [← same] at rack failed
  refine ⟨writable, last, fault, rack, by rw [filled.rest]; rfl, by rw [filled.rest],
    filled.others 0 (by decide), held, filled.others 2 (by decide), failed, ?_⟩
  cases refused with
  | full past => cases past
  | unknown room unnamed => exact absurd rfl (unnamed .call)
  | unequipped => exact known

end Session

end StackMachine
