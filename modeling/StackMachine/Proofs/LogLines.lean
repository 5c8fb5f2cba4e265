import StackMachine.Proofs.LogEntries
import StackMachine.Proofs.OneLine

/-!
# One line for each event

The message of every fault that an operation on machines gives is on one line, and so is
what the log writes for every event of a machine, in both forms. So the log, read line by
line, has as many lines as entries, whatever the values are that a program works with.
That the renderers add no break of their own is assumed, as their forms are. Nothing is
said of events that are logged by hand, whose fields may ask for traces.
-/

namespace StackMachine

open Text

namespace Instruction

variable {view : View} {fault : Fault}

theorem tidy_of_bind {owner : MachineId} {name : Value} {operands : List Value}
    (h : bind view owner name operands = .error fault) : fault.Tidy := by
  unfold bind at h
  split at h
  · cases h
    exact Fault.tidy_showing view name fun shown => Fault.tidy_of_single rfl
  · split at h
    · cases h
      exact Fault.tidy_of_nil rfl
    · cases h

theorem tidy_of_build {machine name operands : Value}
    (h : build view machine name operands = .error fault) : fault.Tidy := by
  unfold build at h
  split at h
  · exact tidy_of_bind h
  · cases h
    exact Fault.tidy_showing view _ fun shown => Fault.tidy_of_single rfl

end Instruction

namespace Machine

variable {view : View} {m next : Machine} {fault : Fault}

theorem tidy_of_create {count : Value} {output : Option Stream}
    (h : create view count output = .error fault) : fault.Tidy := by
  have refused : (Fault.showing view count .invalidAddressCount).Tidy :=
    Fault.tidy_showing view count fun shown => Fault.tidy_of_single rfl
  cases count with
  | int n =>
    simp only [create] at h
    split at h
    · rw [← Except.error.inj h]
      exact refused
    split at h
    · cases h
      exact Fault.tidy_of_nil rfl
    split at h
    · cases h
      exact Fault.tidy_of_nil rfl
    · cases h
  | _ =>
    rw [← Except.error.inj h]
    exact refused

theorem tidy_of_setAddress {address : Value} (h : m.setAddress view address = .error fault) :
    fault.Tidy := by
  cases address with
  | int a =>
    simp only [setAddress] at h
    split at h
    · cases h
    split at h
    · cases h
      exact Fault.tidy_of_nil rfl
    · cases h
      exact Fault.tidy_of_nil rfl
  | _ =>
    rw [← Except.error.inj h]
    exact Fault.tidy_showing view _ fun shown => Fault.tidy_of_single rfl

theorem tidy_of_setRunning {flag : Value} (h : m.setRunning view flag = .error fault) :
    fault.Tidy := by
  cases flag with
  | bool b => cases h
  | _ =>
    rw [← Except.error.inj h]
    exact Fault.tidy_showing view _ fun shown => Fault.tidy_of_single rfl

theorem tidy_exceeded (m : Machine) {wanted : Option String}
    (plain : ∀ text, wanted = some text → OneLine text) : (m.exceeded wanted).Tidy := by
  cases wanted with
  | none => exact Fault.tidy_of_nil rfl
  | some text => exact Fault.tidy_of_single rfl (plain text rfl)

theorem tidy_of_popCount {wanted : Option String} {n : Int}
    (plain : ∀ text, wanted = some text → OneLine text)
    (h : m.popCount wanted n = .error fault) : fault.Tidy := by
  unfold popCount at h
  split at h
  · cases h
    exact tidy_exceeded m plain
  · cases h

theorem tidy_refuseCount (m : Machine) (count : Value) (isMore : Bool) {text : Option String}
    (plain : ∀ shown, text = some shown → OneLine shown) :
    (m.refuseCount count isMore text).Tidy := by
  cases isMore with
  | true => exact tidy_exceeded m plain
  | false => exact Fault.tidy_of_single rfl count.oneLine_qualifiedKind

theorem tidy_of_pop {count : Value} (h : m.pop count = .error fault) : fault.Tidy := by
  have known : ∀ {s : String}, OneLine s → ∀ shown, some s = some shown → OneLine shown := by
    rintro s plain shown ⟨⟩
    exact plain
  cases count with
  | int n => exact tidy_of_popCount (fun text => Integer.oneLine_text?) h
  | bool b => exact tidy_of_popCount (known (oneLine_boolText b)) h
  | float x =>
    cases h
    exact tidy_refuseCount m _ _ (known (Binary64.oneLine_write _ x))
  | rational q =>
    cases h
    exact tidy_refuseCount m _ _ fun shown => oneLine_rationalDisplay?
  | decimal d =>
    simp only [pop] at h
    split at h
    · cases h
      exact tidy_refuseCount m _ _ (known d.oneLine_text)
    · cases h
      exact Fault.tidy_of_nil rfl
  | _ =>
    cases h
    exact Fault.tidy_of_single rfl (Value.oneLine_kind _)

theorem tidy_ofProduct (first second : Value) (failure : Number.Failure) :
    (Fault.ofProduct first second failure).Tidy := by
  cases failure with
  | mismatch =>
    exact Fault.tidy_of_cons rfl first.oneLine_kind
      (List.forall_mem_singleton.mpr second.oneLine_kind)
  | decimal signal => cases signal <;> exact Fault.tidy_of_nil rfl
  | integerTooLarge | quotientTooLarge => exact Fault.tidy_of_nil rfl

theorem tidy_of_multiply {first second : Value} (h : multiply view first second = .error fault) :
    fault.Tidy := by
  have refused : ∀ v : Value, (Fault.showing view v (.notNumeric v.kind)).Tidy := fun v =>
    Fault.tidy_showing view v fun shown plain =>
      Fault.tidy_of_cons rfl v.oneLine_kind (List.forall_mem_singleton.mpr plain)
  unfold multiply at h
  split at h
  · split at h
    · cases h
    · cases h
      exact tidy_ofProduct _ _ _
  · cases h
    exact refused first
  · cases h
    exact refused second

theorem tidy_of_printed {stream : Stream} {v : Value} (h : printed view stream v = .error fault) :
    fault.Tidy := by
  unfold printed at h
  split at h
  · cases h
    exact Fault.tidy_of_nil rfl
  · split at h
    · cases h
      exact Fault.tidy_of_nil rfl
    · cases h

theorem Application.tidy {self : MachineId} {operands : List Value} {op : Opcode}
    (h : m.Application view self operands op next (.error fault)) : fault.Tidy := by
  cases h with
  | exceeded short => exact Fault.tidy_of_single rfl (oneLine_nat _)
  | unequipped needed absent => exact Fault.tidy_of_nil rfl
  | unmultiplied top value => exact tidy_of_multiply value
  | uncalled given jump => exact tidy_of_setAddress jump
  | unreturned top jump => exact tidy_of_setAddress jump
  | shown top line => exact tidy_of_printed line

theorem tidy_of_insert {self : MachineId} {name : Value} {operands : List Value}
    (h : m.insert view self name operands = .refused fault) : fault.Tidy := by
  cases inserting_of_eq h with
  | full past => exact Fault.tidy_of_nil rfl
  | unbound room refusal => exact Instruction.tidy_of_bind refusal

theorem Handling.tidy {id : MachineId} {operation : Operation}
    (h : m.Handling view id operation next (.error fault)) : fault.Tidy := by
  cases h with
  | unmoved jump => exact tidy_of_setAddress jump
  | unswitched switch => exact tidy_of_setRunning switch
  | unpopped taken => exact tidy_of_pop taken

end Machine

namespace Rack

variable {r next : Rack} {id : MachineId}

theorem tidy_of_apply {i : Instruction} {fault : Fault} (h : r.apply i = (next, .error fault)) :
    fault.Tidy := by
  unfold apply at h
  split at h
  · cases h
  · split at h
    · cases h
    · rename_i applied
      cases h
      exact (Machine.apply_eq_iff.mp applied).tidy

theorem tidy_of_turn {abort : Abort} (h : turn id r = .failed next abort) : abort.fault.Tidy := by
  -- Nothing is known of the owners of the instructions here, so the list of turns does not apply.
  unfold turn at h
  split at h
  · cases h
  · split at h
    · dsimp only at h
      split at h
      · cases h
      · split at h
        · cases h
        · rename_i failed
          cases h
          exact tidy_of_apply failed
    · cases h

/-- A run, however long, fails with a message on one line. -/
theorem tidy_of_execute {fuel : Nat} {abort : Abort}
    (h : r.execute id fuel = ⟨next, .failed abort⟩) : abort.fault.Tidy := by
  obtain ⟨turns, moment, -, failed⟩ := Loop.moment_of_failed h
  exact tidy_of_turn failed

end Rack

namespace Session

variable {s : Session} {id : MachineId} {fault : Fault}

/-- An operation on machines fails with a message on one line. -/
theorem tidy_of_perform {fuel : Nat} {operation : Operation}
    (other : operation.isLogging = false) (h : (s.perform fuel operation).2 = .error fault) :
    fault.Tidy := by
  have outcome := performing_perform fuel s operation
  generalize s.perform fuel operation = performed at outcome h
  cases outcome with
  | uncreated built =>
    cases h
    exact Machine.tidy_of_create built
  | handled here handling =>
    cases h
    exact handling.tidy
  | refused here insertion =>
    cases h
    exact Machine.tidy_of_insert insertion
  | unwritten here insertion =>
    cases h
    exact Fault.tidy_of_nil rfl
  | ran here =>
    rw [← perform_eq_iff.mpr (.ran here)] at h
    obtain ⟨last, abort, run, rfl⟩ := run_of_execute_error here h
    exact Rack.tidy_of_execute run
  | unconstructed built =>
    cases h
    exact Instruction.tidy_of_build built
  | @applied serial i rack result found application =>
    cases result with
    | ok done => cases h
    | error failure =>
      cases h
      exact Rack.tidy_of_apply application
  | surrounded | configured | unconfigured | unlogged | emitted | unemitted => cases other
  | _ => cases h

end Session

namespace Event

/-- The names in the event are on one line. -/
structure Tidy (e : Event) : Prop where
  logger : OneLine e.logger
  name : OneLine e.name
  fields : ∀ name ∈ e.fields.map Prod.fst, OneLine name

variable {e : Event}

theorem tidy_ofMachine {name : String} {fields : Fields} (label : OneLine name)
    (names : ∀ name ∈ fields.map Prod.fst, OneLine name) : (ofMachine name fields).Tidy :=
  ⟨(by decide : OneLine machineLogger), label, names⟩

theorem OfMachine.tidy (h : e.OfMachine) : e.Tidy := by
  cases h with
  | inserted address instruction =>
    exact tidy_ofMachine (by decide) (by decide : ∀ n ∈ ["address", "instruction"], OneLine n)
  | started pointer addresses =>
    exact tidy_ofMachine (by decide) (by decide : ∀ n ∈ ["pointer", "addresses"], OneLine n)
  | aborted address op message =>
    exact tidy_ofMachine (by decide) (by decide : ∀ n ∈ ["address", "opcode", "error"], OneLine n)
  | finished pointer running =>
    exact tidy_ofMachine (by decide) (by decide : ∀ n ∈ ["pointer", "running"], OneLine n)

/-- The names in the line of a tidy event are its own and those of the columns. -/
theorem Tidy.allFields (tidy : e.Tidy) {f : String × Value} (h : f ∈ e.allFields) :
    OneLine f.1 := by
  have column : ∀ name ∈ ["timestamp", "level", "logger", "event"], OneLine name := by decide
  rcases Fields.mem_set h with rfl | h
  · exact column "timestamp" (by decide)
  rcases Fields.mem_set h with rfl | h
  · exact column "level" (by decide)
  rcases Fields.mem_set h with rfl | h
  · exact column "logger" (by decide)
  rcases Fields.mem_set h with rfl | h
  · exact column "event" (by decide)
  obtain ⟨⟨name, v⟩, given, same⟩ := List.mem_map.mp h
  have kept : f.1 = name := by
    rw [← same]
    cases v <;> rfl
  rw [kept]
  exact tidy.fields name (List.mem_map_of_mem given)

theorem Tidy.resolved (tidy : e.Tidy) {logger : String}
    (known : logger = rootLogger ∨ logger = e.logger) :
    ({ e with logger := logger, fields := e.fields.filter isWritten } : Event).Tidy := by
  refine ⟨?_, tidy.name, fun name inside => ?_⟩
  · rcases known with rfl | rfl
    · exact (by decide : OneLine rootLogger)
    · exact tidy.logger
  · obtain ⟨f, kept, rfl⟩ := List.mem_map.mp inside
    exact tidy.fields f.1 (List.mem_map_of_mem (List.mem_filter.mp kept).1)

end Event

namespace ConsoleLine

/-- A text that is written as it is has no line break, since one that has is quoted. -/
theorem oneLine_value {view : View} {v : Value} {text : String}
    (h : value view v = .ok text) : OneLine text := by
  unfold value at h
  split at h
  · rename_i s
    cases h
    split
    · exact oneLine_quoted s
    · rename_i plain
      intro c inside
      have free : needsQuotes c = false := by
        rw [← Bool.not_eq_true]
        exact fun bad => plain (List.any_eq_true.mpr ⟨c, inside, bad⟩)
      simp only [needsQuotes, Bool.or_eq_false_iff] at free
      simp only [isBreak, free, Bool.or_self]
  · cases shown : v.literal? view with
    | none =>
      rw [shown] at h
      cases h
    | some literal =>
      rw [shown] at h
      cases h
      exact v.oneLine_literal? view shown

theorem oneLine_styled {style s : String} (first : OneLine style) (second : OneLine s) :
    OneLine (styled style s) := by
  simp only [styled, oneLine_append, first, second, and_true]
  decide

theorem oneLine_fields {view : View} {fields : Fields} {texts : List String}
    (names : ∀ f ∈ fields, OneLine f.1) (h : ConsoleLine.fields view fields = .ok texts) :
    ∀ s ∈ texts, OneLine s := by
  induction fields generalizing texts with
  | nil =>
    cases h
    exact fun s inside => absurd inside List.not_mem_nil
  | cons f rest ih =>
    obtain ⟨name, v⟩ := f
    obtain ⟨head, tail⟩ := List.forall_mem_cons.mp names
    rw [ConsoleLine.fields, field] at h
    cases first : value view v with
    | error fault =>
      rw [first] at h
      cases h
    | ok text =>
      cases others : ConsoleLine.fields view rest with
      | error fault =>
        rw [first, others] at h
        cases h
      | ok more =>
        rw [first, others] at h
        cases h
        refine List.forall_mem_cons.mpr ⟨?_, ih tail others⟩
        simp only [oneLine_append]
        exact ⟨⟨oneLine_styled (by decide) head, by decide⟩,
          oneLine_styled (by decide) (oneLine_value first)⟩

theorem oneLine_columns (level : Level) {name logger : String} (first : OneLine name)
    (second : OneLine logger) :
    ∀ s ∈ [styled "2" Event.timestamp, levelColumn level, nameColumn name, loggerColumn logger],
      OneLine s := by
  have time : OneLine (styled "2" Event.timestamp) := by decide
  have rank : OneLine (levelColumn level) := by cases level <;> decide
  have label : OneLine (nameColumn name) := by
    simp only [nameColumn, padRight, oneLine_append, first, oneLine_repeated (c := ' ') rfl,
      and_true]
    decide
  have origin : OneLine (loggerColumn logger) := by
    simp only [loggerColumn, oneLine_append, second, and_true]
    decide
  simp only [List.forall_mem_cons]
  exact ⟨time, rank, label, origin, fun s inside => absurd inside List.not_mem_nil⟩

theorem oneLine_line {e : Event} (plain : e.Plain) (tidy : e.Tidy) {view : View} {text : String}
    (h : line view e = .ok text) : OneLine text := by
  have values : ∀ f ∈ e.allFields, f.2.isPlain = true :=
    fun f hf => (Event.mem_allFields plain hf).1
  have early : ∀ f ∈ e.allFields.filter fun f => f.1 == "", f ∈ e.allFields :=
    fun f hf => (List.mem_filter.mp hf).1
  have late : ∀ f ∈ (e.allFields.filter fun f => !apart.contains f.1).mergeSort
      fun f g => f.1 ≤ g.1, f ∈ e.allFields :=
    fun f hf => (List.mem_filter.mp (List.mem_mergeSort.mp hf)).1
  obtain ⟨nameless, first⟩ := fields_of_plain view _ fun f hf => values f (early f hf)
  obtain ⟨others, rest⟩ := fields_of_plain view _ fun f hf => values f (late f hf)
  simp only [line, columns, secondLogger, first, rest,
    Event.lookup_allFields plain (show "logger_name" ∈ _ by decide),
    Event.lookup_allFields plain (show "stack" ∈ _ by decide),
    Event.lookup_allFields plain (show "exception" ∈ _ by decide)] at h
  have all : ∀ s ∈ nameless ++ [styled "2" Event.timestamp, levelColumn e.level,
      nameColumn e.name, loggerColumn e.logger] ++ [] ++ others, OneLine s := by
    simp only [List.append_nil, List.forall_mem_append]
    exact ⟨⟨oneLine_fields (fun f hf => tidy.allFields (early f hf)) first,
        oneLine_columns e.level tidy.name tidy.logger⟩,
      oneLine_fields (fun f hf => tidy.allFields (late f hf)) rest⟩
  rw [← Except.ok.inj h]
  exact oneLine_append.mpr
    ⟨oneLine_trimSpacesRight (oneLine_joinWith (by decide) all), by decide⟩

end ConsoleLine

namespace JsonLine

theorem unbroken_unit (n : Nat) : Unbroken (unit n) :=
  .cons rfl (.cons rfl (unbroken_hexDigits 4 n))

theorem unbroken_escaped (c : Char) : Unbroken (escaped c) := by
  unfold escaped
  split
  · exact .cons rfl (unbroken_single rfl)
  split
  · exact .cons rfl (unbroken_single rfl)
  split
  · exact .cons rfl (unbroken_single rfl)
  split
  · exact .cons rfl (unbroken_single rfl)
  split
  · exact .cons rfl (unbroken_single rfl)
  split
  · exact .cons rfl (unbroken_single rfl)
  split
  · exact .cons rfl (unbroken_single rfl)
  split
  · rename_i feed back _ _ _ _
    exact unbroken_single (by simp [isBreak, feed, back])
  split
  · exact unbroken_unit _
  · exact (unbroken_unit _).append (unbroken_unit _)

theorem oneLine_quoted (s : String) : OneLine (quoted s) := by
  refine oneLine_ofList (.cons rfl (.append ?_ (unbroken_single rfl)))
  intro d inside
  obtain ⟨c, -, written⟩ := List.mem_flatMap.mp inside
  exact unbroken_escaped c d written

theorem oneLine_value {view : View} {v : Value} (plain : v.isPlain = true) {text : String}
    (h : value view v = .ok text) : OneLine text := by
  cases v with
  | text s =>
    cases h
    exact oneLine_quoted s
  | bool b =>
    cases h
    cases b <;> decide
  | int n =>
    simp only [value, integer] at h
    cases written : Integer.text? n with
    | none =>
      rw [written] at h
      cases h
    | some digits =>
      rw [written] at h
      cases h
      exact Integer.oneLine_text? written
  | _ => cases plain

theorem oneLine_members {view : View} {fields : Fields} {texts : List String}
    (plain : ∀ f ∈ fields, f.2.isPlain = true)
    (h : members view (fields.map fun (name, v) => (.text name, v)) = .ok texts) :
    ∀ s ∈ texts, OneLine s := by
  induction fields generalizing texts with
  | nil =>
    cases h
    exact fun s inside => absurd inside List.not_mem_nil
  | cons f rest ih =>
    obtain ⟨name, v⟩ := f
    obtain ⟨head, tail⟩ := List.forall_mem_cons.mp plain
    obtain ⟨text, first⟩ := value_of_plain view head
    obtain ⟨more, others⟩ := members_of_plain view rest tail
    rw [List.map_cons, members, key, others, first] at h
    cases h
    refine List.forall_mem_cons.mpr ⟨?_, ih tail others⟩
    simp only [member, oneLine_append, oneLine_quoted, oneLine_value head first, true_and, and_true]
    decide

theorem oneLine_line {e : Event} (plain : e.Plain) {view : View} {text : String}
    (h : line view e = .ok text) : OneLine text := by
  have values : ∀ f ∈ e.allFields, f.2.isPlain = true :=
    fun f hf => (Event.mem_allFields plain hf).1
  obtain ⟨texts, written⟩ := members_of_plain view e.allFields values
  rw [line, written] at h
  rw [← Except.ok.inj h]
  simp only [object, oneLine_append, oneLine_commaSeparated (oneLine_members values written),
    and_true]
  decide

end JsonLine

/-- A plain and tidy event is written on one line in both forms. -/
theorem Renderer.oneLine_line {e : Event} (plain : e.Plain) (tidy : e.Tidy) {view : View}
    {renderer : Renderer} {text : String} (h : renderer.line view e = .ok text) :
    OneLine text := by
  obtain ⟨logger, known, resolved⟩ := plain.resolve view
  have still := plain.resolved logger
  have neat := tidy.resolved known
  rw [Renderer.line, resolved] at h
  cases renderer with
  | json => exact JsonLine.oneLine_line still h
  | console => exact ConsoleLine.oneLine_line still neat h

/-- What the log shows of an entry: its text, and then the end of the line. -/
def Entry.written (entry : Entry) : List Char := entry.text.toList ++ ['\n']

/-- Entries whose texts are on one line are the lines of what the log shows of them, and nothing
is left after the last. -/
theorem Entry.lines_written {entries : List Entry} (each : ∀ entry ∈ entries, OneLine entry.text) :
    (entries.flatMap Entry.written).splitOnP isBreak =
      entries.map (fun entry => entry.text.toList) ++ [[]] := by
  have unbroken : ∀ line ∈ entries.map (fun entry => entry.text.toList), Unbroken line := by
    intro line inside
    obtain ⟨entry, found, rfl⟩ := List.mem_map.mp inside
    exact each entry found
  have lines := splitOnP_lines rfl unbroken
  rwa [List.flatMap_map] at lines

namespace Session

variable {s : Session} {counts : List Nat} {operation : Operation}

/-- Whatever values a program works with, the texts of instructions and the messages of faults are
on one line, every event of a machine has a line in both forms, and a log that admits these events
shows each of them on exactly one line. -/
theorem one_line_for_each_event (wf : s.rack.WellFormed counts) (fuel : Nat)
    (other : operation.isLogging = false) :
    (∀ (view : View) (i : Instruction) (text : String),
      i.text? view = some text → OneLine text) ∧
    (∀ fault, (s.perform fuel operation).2 = .error fault → OneLine fault.message) ∧
    (∀ e ∈ s.issued fuel operation, ∀ (renderer : Renderer) (view : View),
      ∃ text, renderer.line view e = .ok text ∧ OneLine text) ∧
    (s.journal.IsVerbose → ∃ entries : List Entry,
      (s.perform fuel operation).1.journal.entries.toList = s.journal.entries.toList ++ entries ∧
      entries.map Entry.event = s.issued fuel operation ∧
      (entries.flatMap Entry.written).splitOnP isBreak =
        entries.map (fun entry => entry.text.toList) ++ [[]]) := by
  have plain := plain_issued wf fuel operation
  have machine := ofMachine_issued fuel s operation
  refine ⟨fun view i text => Instruction.oneLine_text?,
    fun fault failed => (tidy_of_perform other failed).oneLine_message, ?_, ?_⟩
  · intro e inside renderer view
    obtain ⟨text, line⟩ := Renderer.line_of_plain (plain e inside) view renderer
    exact ⟨text, line, Renderer.oneLine_line (plain e inside) (machine e inside).tidy line⟩
  · intro verbose
    obtain ⟨renderer, kept⟩ := Journal.exists_renderer verbose
    obtain ⟨entries, grown, events, rendered⟩ := perform_writes wf verbose kept fuel other
    refine ⟨entries, grown, events, Entry.lines_written fun entry inside => ?_⟩
    have issued : entry.event ∈ s.issued fuel operation := by
      rw [← events]
      exact List.mem_map_of_mem inside
    exact Renderer.oneLine_line (plain _ issued) (machine _ issued).tidy
      (rendered entry inside).line

/-- A call whose address is a text of two lines is reported on one. -/
theorem one_line_for_each_event_call :
    let s : Session := { single (oneSlot ⟨0, .call, [.text "a\nb"]⟩ []) with
      journal := { settings := some ⟨.debug, .console⟩ } }
    s.rack.WellFormed [1] ∧ s.journal.IsVerbose ∧ ∃ entries : List Entry,
      (s.perform 1 (.execute 0)).1.journal.entries.toList = entries ∧
      entries.map Entry.event =
        [.started 0 1, .aborted 0 .call "Invalid address provided: 'a\\nb'"] ∧
      (entries.flatMap Entry.written).splitOnP isBreak =
        entries.map (fun entry => entry.text.toList) ++ [[]] := by
  intro s
  have hi : (⟨0, .call, [.text "a\nb"]⟩ : Instruction).WellFormed 0 := ⟨by decide, by decide, rfl⟩
  have wf : s.rack.WellFormed [1] := rack_oneSlot hi []
  have verbose : s.journal.IsVerbose := ⟨.console, rfl⟩
  have refused : ∀ view, (oneSlot ⟨0, .call, [.text "a\nb"]⟩ []).advanced.Application view 0
      [.text "a\nb"] .call (oneSlot ⟨0, .call, [.text "a\nb"]⟩ []).advanced
      (.error (.invalidAddress "'a\\nb'")) := by
    intro view
    have shown : quoted "a\nb" = "'a\\nb'" := by decide +kernel
    refine .uncalled rfl ?_
    rw [← shown]
    rfl
  obtain ⟨last, first⟩ := turn_oneSlot hi refused
  have run : s.rack.execute 0 1 = ⟨last, .failed ⟨0, .call, .invalidAddress "'a\\nb'"⟩⟩ :=
    Loop.run_of_failed 0 first
  have events : s.issued 1 (.execute 0) =
      [.started 0 1, .aborted 0 .call "Invalid address provided: 'a\\nb'"] := by
    have here : s.machine? 0 = some (oneSlot ⟨0, .call, [.text "a\nb"]⟩ []) := rfl
    simp only [issued, here, run]
    rfl
  have own : (Operation.execute 0).isLogging = false := rfl
  obtain ⟨-, -, -, lines⟩ := one_line_for_each_event wf 1 own
  obtain ⟨entries, grown, named, split⟩ := lines verbose
  rw [events] at named
  exact ⟨wf, verbose, entries, grown, named, split⟩

end Session

end StackMachine
