import StackMachine.Proofs.Memory
import StackMachine.Proofs.OneLine
import Mathlib

/-!
# What a run prints

Every PRINT that succeeds writes the display of the value it takes and a line feed, to the
stream of its machine; nothing else writes anything, and a PRINT that fails writes nothing. So
the text of a run is made of the values it has printed, in order, however it ends. Integers can
be read from it again. Other values cannot, in general: their displays may hold line feeds. Nor
is anything said of values nested too deeply for a text, of which there are none here.
-/

namespace StackMachine

theorem rationalDisplay?_isSome (q : Rat) :
    (rationalDisplay? q).isSome = (Integer.isWritable q.num && Integer.isWritable q.den) := by
  unfold rationalDisplay?
  by_cases whole : q.den = 1
  · have one : Integer.isWritable ((1 : Nat) : Int) = true :=
      Integer.isWritable_of_index (by decide)
    rw [if_pos whole, whole, one, Bool.and_true, Integer.text?_isSome]
  · rw [if_neg whole, ← Integer.text?_isSome q.num, ← Integer.text?_isSome q.den]
    generalize Integer.text? q.num = num
    generalize Integer.text? q.den = den
    cases num <;> cases den <;> rfl

/-- A value can be displayed exactly when it can be written. -/
theorem Value.display?_isSome (view : View) (v : Value) :
    (v.display? view).isSome = v.isWritable := by
  cases v with
  | rational q => exact rationalDisplay?_isSome q
  | text | decimal | opcode => rfl
  | _ => exact literal?_isSome view _

namespace Text

/-- Some texts, each on a line of its own. -/
def lines (texts : List String) : String := String.join (texts.map fun text => text ++ "\n")

theorem lines_append (first rest : List String) :
    lines (first ++ rest) = lines first ++ lines rest := by
  rw [lines, List.map_append, String.join_append, lines, lines]

/-- Texts that are on one line are the pieces between the line feeds, and an empty piece follows
the last line feed. -/
theorem split_lines {texts : List String} (each : ∀ text ∈ texts, OneLine text) :
    ((lines texts).split '\n').toList.map String.Slice.copy = texts ++ [""] := by
  have unbroken : ∀ line ∈ texts.map String.toList, ∀ c ∈ line, (c == '\n') = false := by
    intro line inside c found
    obtain ⟨text, given, rfl⟩ := List.mem_map.mp inside
    exact (Bool.or_eq_false_iff.mp (each text given c found)).1
  have characters : (lines texts).toList =
      (texts.map String.toList).flatMap fun line => line ++ ['\n'] := by
    simp [lines, String.toList_join, List.flatMap_map]
  have pieces := splitOnP_lines rfl unbroken
  rw [String.toList_split_char, List.splitOn_eq_splitOnP, characters, pieces]
  simp

end Text

theorem Integer.toInt?_of_text? {n : Int} {text : String} (written : text? n = some text) :
    text.toInt? = some n := by
  unfold text? at written
  split at written
  · cases written
    exact Int.toInt?_repr n
  · cases written

namespace Machine

/-- A PRINT cannot be completed: there is no value to print, it has no text, or there is nowhere
to print it. -/
def CannotPrint (m : Machine) : Prop :=
  m.stack = [] ∨ (∃ v rest, m.stack = v :: rest ∧ v.isWritable = false) ∨ m.stream = .closed

variable {view : View} {self : MachineId} {m next : Machine} {operands : List Value} {op : Opcode}

/-- Only PRINT has a text, and its text is the display of the value it takes, on a line. -/
theorem Application.text {text : String}
    (h : m.Application view self operands op next (.ok text)) :
    (op = .print ∧ ∃ v rest shown, m.stack = v :: rest ∧
      v.display? ((m.withStack rest).seenFrom view self) = some shown ∧ text = shown ++ "\n") ∨
    (op ≠ .print ∧ text = "") := by
  cases h with
  | @shown v rest _ top line =>
    unfold printed at line
    split at line
    · cases line
    · rename_i shown display
      split at line
      · cases line
      · cases line
        exact Or.inl ⟨rfl, v, rest, shown, top, display, rfl⟩
  | _ => exact Or.inr ⟨by simp, rfl⟩

theorem Application.cannotPrint {fault : Fault}
    (h : m.Application view self operands .print next (.error fault)) : m.CannotPrint := by
  cases h with
  | exceeded short => exact Or.inl (List.length_eq_zero_iff.mp (Nat.lt_one_iff.mp short))
  | unequipped needed => exact absurd needed (Nat.lt_irrefl 0)
  | @shown v rest _ top line =>
    unfold printed at line
    split at line
    · rename_i undisplayed
      refine Or.inr (Or.inl ⟨v, rest, top, ?_⟩)
      rw [← Value.display?_isSome, undisplayed]
      rfl
    · split at line
      · rename_i closed
        exact Or.inr (Or.inr closed)
      · cases line

end Machine

namespace Rack

/-- A value that is printed, and the states of the machines when it is. -/
structure Printing where
  value : Value
  view : View

def Printing.text? (p : Printing) : Option String := p.value.display? p.view

/-- What the machine `id` prints in its next turn: the value on top of its stack, if the turn is a
PRINT and succeeds. By then the pointer has moved on and the value is off the stack. -/
def printing? (id : MachineId) (r : Rack) : Option Printing :=
  match r.machines[id]?, turn id r with
  | some m, .moved _ =>
    match m.slots[m.pointer]?.join.map Instruction.op, m.stack with
    | some .print, v :: rest => some ⟨v, (r.put id (m.advanced.withStack rest)).view⟩
    | _, _ => none
  | _, _ => none

/-- What a run of the machine `id` prints, in order. -/
def printings (id : MachineId) (fuel : Nat) (r : Rack) : List Printing :=
  (Loop.trace (turn id) fuel (r.start id)).filterMap (printing? id)

variable {r next : Rack} {id : MachineId} {m : Machine}

theorem printing?_of_moved (here : r.machines[id]? = some m) (moved : turn id r = .moved next) :
    r.printing? id =
      match m.slots[m.pointer]?.join.map Instruction.op, m.stack with
      | some .print, v :: rest => some ⟨v, (r.put id (m.advanced.withStack rest)).view⟩
      | _, _ => none := by
  simp only [printing?, here, moved]

theorem printing?_of_failed {last : Rack} {abort : Abort}
    (failed : turn id r = .failed last abort) : r.printing? id = none := by
  simp only [printing?, failed]
  split <;> simp_all

theorem seenFrom_eq_view (here : r.machines[id]? = some m) (next seen : Machine) :
    seen.seenFrom (r.put id next).view id = (r.put id seen).view := by
  rw [view_put here, view_put here]
  funext other
  by_cases same : other = id
  · simp [Machine.seenFrom, same]
  · simp [Machine.seenFrom, same]

theorem textOn_put (r : Rack) (id : MachineId) (m : Machine) (stream : Stream) :
    (r.put id m).textOn stream = r.textOn stream := rfl

/-- A turn that goes on keeps the slots and the stream of the machine, and adds to the text there
what is printed in it, on a line. It adds nothing to any other text. -/
theorem textOn_of_moved (here : r.machines[id]? = some m) (own : m.Owned id)
    (moved : turn id r = .moved next) :
    ∃ now texts, next.machines[id]? = some now ∧ now.slots = m.slots ∧ now.stream = m.stream ∧
      (r.printing? id).toList.map Printing.text? = texts.map some ∧
      ∀ stream, next.textOn stream =
        r.textOn stream ++ if stream = m.stream then Text.lines texts else "" := by
  have printing := printing?_of_moved here moved
  have taken := turning_turn here own
  rw [moved] at taken
  cases taken with
  | skipped going empty =>
    rw [empty] at printing
    refine ⟨_, [], machines_put_self here _, rfl, rfl, by rw [printing]; rfl, fun stream => ?_⟩
    simp [Text.lines, textOn_put]
  | @applied i left text going held outcome =>
    rw [held] at printing
    have output : left.stream = m.stream := by
      rw [Machine.stream, outcome.frame.2]
      rfl
    refine ⟨left, ?_⟩
    rcases outcome.text with ⟨print, v, rest, shown, top, display, rfl⟩ | ⟨other, rfl⟩
    -- the display is taken with the machine already advanced and without the value
    · change m.stack = v :: rest at top
      simp only [Option.join_some, Option.map_some, print, top] at printing
      rw [seenFrom_eq_view here] at display
      refine ⟨[shown], machines_put_record here _ _ _, outcome.frame.1, output, ?_, ?_⟩
      · rw [printing]
        simp [Printing.text?, display]
      · intro stream
        rw [textOn_record, textOn_put, output]
        by_cases same : stream = m.stream
        · simp [same, Text.lines]
        · simp [same, Ne.symm same]
    · refine ⟨[], machines_put_record here _ _ _, outcome.frame.1, output, ?_, ?_⟩
      · rw [printing]
        simp [other]
      · intro stream
        rw [textOn_record, textOn_put]
        simp [Text.lines]

/-- A turn that fails prints nothing. -/
theorem printed_of_failed {last : Rack} {abort : Abort} (here : r.machines[id]? = some m)
    (own : m.Owned id) (failed : turn id r = .failed last abort) : last.printed = r.printed := by
  have taken := turning_turn here own
  rw [failed] at taken
  cases taken with
  | aborted going held outcome => rfl

theorem textOn_of_printed (same : next.printed = r.printed) (stream : Stream) :
    next.textOn stream = r.textOn stream := by
  rw [textOn, same, textOn]

/-- Some turns of a machine add to the text on its stream what is printed in them, each on a line,
and nothing to any other text, however they end. -/
theorem textOn_run (fuel : Nat) (here : r.machines[id]? = some m) (own : m.Owned id) :
    ∃ texts, ((Loop.trace (turn id) fuel r).filterMap (printing? id)).map Printing.text? =
        texts.map some ∧
      ∀ stream, (Loop.run (turn id) fuel r).state.textOn stream =
        r.textOn stream ++ if stream = m.stream then Text.lines texts else "" := by
  induction fuel generalizing r m with
  | zero => exact ⟨[], rfl, by simp [Loop.run, Text.lines]⟩
  | succ fuel ih =>
    cases taken : turn id r with
    | idle =>
      rw [Loop.run_of_idle _ taken, Loop.trace_of_idle _ taken]
      exact ⟨[], rfl, by simp [Text.lines]⟩
    | failed last abort =>
      rw [Loop.run_of_failed _ taken, Loop.trace_of_failed _ taken]
      refine ⟨[], by simp [printing?_of_failed taken], fun stream => ?_⟩
      rw [textOn_of_printed (printed_of_failed here own taken)]
      simp [Text.lines]
    | moved next =>
      obtain ⟨now, first, there, slots, output, shown, grown⟩ := textOn_of_moved here own taken
      obtain ⟨rest, shown', grown'⟩ := ih there (own.of_slots slots)
      rw [Loop.run_of_moved _ taken, Loop.trace_of_moved _ taken]
      refine ⟨first ++ rest, ?_, fun stream => ?_⟩
      · rw [List.map_append, ← shown, ← shown', ← List.map_append]
        cases printed : r.printing? id with
        | none => rw [List.filterMap_cons_none printed]; rfl
        | some p => rw [List.filterMap_cons_some printed]; rfl
      · rw [grown', grown, output, Text.lines_append, String.append_assoc]
        by_cases same : stream = m.stream
        · simp [same]
        · simp [same]

/-- Where integers are printed, the texts are on one line each and read as the integers. -/
theorem Printing.toInt?_texts {printings : List Printing} {texts : List String} {ns : List Int}
    (shown : printings.map Printing.text? = texts.map some)
    (integers : printings.map Printing.value = ns.map Value.int) :
    (∀ text ∈ texts, Text.OneLine text) ∧ texts.map String.toInt? = ns.map some := by
  induction printings generalizing texts ns with
  | nil =>
    cases List.map_eq_nil_iff.mp shown.symm
    cases List.map_eq_nil_iff.mp integers.symm
    simp
  | cons p rest ih =>
    obtain ⟨text, texts', rfl, display, shown'⟩ := List.map_eq_cons_iff.mp shown.symm
    obtain ⟨n, ns', rfl, value, integers'⟩ := List.map_eq_cons_iff.mp integers.symm
    have written : Integer.text? n = some text := by
      rw [display, Printing.text?, ← value]
      rfl
    obtain ⟨unbroken, read⟩ := ih shown'.symm integers'.symm
    refine ⟨List.forall_mem_cons.mpr ⟨Integer.oneLine_text? written, unbroken⟩, ?_⟩
    rw [List.map_cons, List.map_cons, Integer.toInt?_of_text? written, read]

/-- A PRINT with which a run fails could not be completed, and it has printed nothing. -/
theorem cannotPrint_of_failed {fuel : Nat} {abort : Abort} (here : r.machines[id]? = some m)
    (own : m.Owned id) (failed : (r.execute id fuel).ending = .failed abort)
    (print : abort.op = .print) :
    ∃ turns moment before, r.execute id turns = ⟨moment, .unfinished⟩ ∧
      moment.machines[id]? = some before ∧ before.pointer = abort.address ∧
      before.CannotPrint ∧ (r.execute id fuel).state.printed = moment.printed := by
  have run : r.execute id fuel = ⟨(r.execute id fuel).state, .failed abort⟩ := by rw [← failed]
  obtain ⟨turns, moment, before, reached, there, own', fails, taken⟩ :=
    turning_of_aborted here own run
  have quiet := printed_of_failed there own' fails
  generalize (r.execute id fuel).state = last at taken quiet
  cases taken with
  | @aborted i left fault going held outcome =>
    rw [show i.op = .print from print] at outcome
    exact ⟨turns, moment, before, reached, there, rfl, outcome.cannotPrint, quiet⟩

/-- The text that a run adds to the stream of its machine is made of the displays of the values
that are printed, in order, each with a line feed after it, and no other stream gets any text. A
PRINT that fails finds no value, a value without a text or a closed stream, and adds nothing. Where
all the values are integers, the pieces of that text between the line feeds read as these. -/
theorem execute_output (here : r.machines[id]? = some m) (own : m.Owned id) (fuel : Nat) :
    ∃ texts, (r.printings id fuel).map Printing.text? = texts.map some ∧
      (∀ stream, (r.execute id fuel).state.textOn stream =
        r.textOn stream ++ if stream = m.stream then Text.lines texts else "") ∧
      (∀ abort, (r.execute id fuel).ending = .failed abort → abort.op = .print →
        ∃ turns moment before, r.execute id turns = ⟨moment, .unfinished⟩ ∧
          moment.machines[id]? = some before ∧ before.pointer = abort.address ∧
          before.CannotPrint ∧ (r.execute id fuel).state.printed = moment.printed) ∧
      ∀ ns : List Int, (r.printings id fuel).map Printing.value = ns.map Value.int →
        ((Text.lines texts).split '\n').toList.map String.Slice.copy = texts ++ [""] ∧
          texts.map String.toInt? = ns.map some := by
  have started := machines_put_self here { m with running := true }
  rw [← start_of here] at started
  obtain ⟨texts, shown, grown⟩ := textOn_run fuel started own
  refine ⟨texts, shown, ?_, ?_, ?_⟩
  · intro stream
    have before : (r.start id).textOn stream = r.textOn stream := by
      rw [start_of here, textOn_put]
    rw [← before]
    exact grown stream
  · intro abort failed print
    exact cannotPrint_of_failed here own failed print
  · intro ns integers
    obtain ⟨unbroken, read⟩ := Printing.toInt?_texts shown integers
    exact ⟨Text.split_lines unbroken, read⟩

/-- Two integers are printed, one of them from the stack, before a PRINT finds the stack empty. -/
theorem execute_output_integers :
    let m : Machine :=
      { slots := #[some ⟨0, .print, []⟩, some ⟨0, .push, [.int 12]⟩, some ⟨0, .print, []⟩,
          some ⟨0, .print, []⟩],
        stack := [.int (-7)], output := some (.named "out") }
    let r : Rack := { machines := #[m] }
    m.Owned 0 ∧ (r.execute 0 4).ending = .failed ⟨3, .print, .stackExceeded "1" 0⟩ ∧
      (r.printings 0 4).map Printing.value = [.int (-7), .int 12] ∧
      (r.execute 0 4).state.textOn (.named "out") = "-7\n12\n" ∧
      (r.execute 0 4).state.textOn .standard = "" := by
  intro m r
  have own : m.Owned 0 := by
    intro address i held
    rcases address with _ | _ | _ | _ | address <;> cases held <;> rfl
  have seven : Integer.text? (-7) = some "-7" := by
    rw [Integer.text?, Integer.isWritable_of_index (by decide)]
    rfl
  have twelve : Integer.text? 12 = some "12" := Integer.text?_of_index (n := 12) (by decide)
  have one : Integer.text? 1 = some "1" := Integer.text?_of_index (n := 1) (by decide)
  have run : (r.execute 0 4).ending = .failed ⟨3, .print, .stackExceeded "1" 0⟩ ∧
      (r.printings 0 4).map (fun p => (p.value, p.text?)) =
        [(.int (-7), some "-7"), (.int 12, some "12")] := by
    simp [r, m, execute, printings, printing?, Printing.text?, start, put, Loop.run, Loop.trace,
      turn, apply, Machine.apply, Machine.applyPush, Machine.push, Machine.applyPrint,
      Machine.taking, Machine.pop, Machine.popCount, Opcode.effect, Machine.printed,
      Value.display?, Value.literal?, seven, twelve, one, record, Machine.exceeded,
      Machine.stream]
  have values := congrArg (List.map Prod.fst) run.2
  have displays := congrArg (List.map Prod.snd) run.2
  rw [List.map_map] at values displays
  obtain ⟨texts, shown, grown, -, -⟩ := execute_output (r := r) rfl own 4
  have same : ["-7", "12"].map some = texts.map some := displays.symm.trans shown
  cases List.map_injective_iff.mpr (Option.some_injective _) same
  exact ⟨own, run.1, values, grown (.named "out"), grown .standard⟩

end Rack

end StackMachine
