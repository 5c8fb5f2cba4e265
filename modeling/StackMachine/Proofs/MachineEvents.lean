import StackMachine.Proofs.Writable
import StackMachine.Log.Journal

/-! # Events of machines are written

The fields of a machine's events have plain names, which direct nothing, and plain
values: texts, truth values and integers that can be written. Such an event has a line
in both forms, so it enters the journal whenever its level is admitted. This rests on
the forms of the renderers, which are assumed. What the line says is not described
here. -/

namespace StackMachine

/-- Whether a value is a text, a truth value or an integer that can be written. -/
def Value.isPlain : Value → Bool
  | .text _ | .bool _ => true
  | .int n => Integer.isWritable n
  | _ => false

/-- The integers that can be written have a text. -/
theorem Integer.exists_text {n : Int} (h : isWritable n = true) : ∃ text, text? n = some text :=
  ⟨toString n, by simp only [text?, h, if_true]⟩

theorem ConsoleLine.value_of_plain (view : View) {v : Value} (plain : v.isPlain = true) :
    ∃ text, ConsoleLine.value view v = .ok text := by
  cases v with
  | text s => exact ⟨_, rfl⟩
  | bool b => exact ⟨_, rfl⟩
  | int n =>
    obtain ⟨text, written⟩ := Integer.exists_text plain
    exact ⟨text, by simp only [value, Value.literal?, written, Option.elim_some]⟩
  | _ => cases plain

theorem ConsoleLine.fields_of_plain (view : View) (fields : Fields)
    (plain : ∀ f ∈ fields, f.2.isPlain = true) :
    ∃ texts, ConsoleLine.fields view fields = .ok texts := by
  induction fields with
  | nil => exact ⟨[], rfl⟩
  | cons f rest ih =>
    obtain ⟨name, v⟩ := f
    obtain ⟨text, first⟩ := value_of_plain view (plain _ List.mem_cons_self)
    obtain ⟨texts, others⟩ := ih fun f hf => plain f (List.mem_cons_of_mem _ hf)
    refine ⟨(styled "36" name ++ "=" ++ styled "35" text) :: texts, ?_⟩
    rw [ConsoleLine.fields, others, field, first]
    rfl

theorem JsonLine.value_of_plain (view : View) {v : Value} (plain : v.isPlain = true) :
    ∃ text, JsonLine.value view v = .ok text := by
  cases v with
  | text s => exact ⟨_, rfl⟩
  | bool b => exact ⟨_, rfl⟩
  | int n =>
    obtain ⟨text, written⟩ := Integer.exists_text plain
    exact ⟨text, by simp only [value, integer, written, Option.elim_some]⟩
  | _ => cases plain

theorem JsonLine.members_of_plain (view : View) (fields : Fields)
    (plain : ∀ f ∈ fields, f.2.isPlain = true) :
    ∃ texts, members view (fields.map fun (name, v) => (.text name, v)) = .ok texts := by
  induction fields with
  | nil => exact ⟨[], rfl⟩
  | cons f rest ih =>
    obtain ⟨name, v⟩ := f
    obtain ⟨text, first⟩ := value_of_plain view (plain _ List.mem_cons_self)
    obtain ⟨texts, others⟩ := ih fun f hf => plain f (List.mem_cons_of_mem _ hf)
    refine ⟨member name text :: texts, ?_⟩
    rw [List.map_cons, members, key, others, first]
    rfl

theorem Fields.mem_set {name : String} {v : Value} {fields : Fields} {f : String × Value}
    (h : f ∈ Fields.set name v fields) : f = (name, v) ∨ f ∈ fields := by
  induction fields with
  | nil => exact Or.inl (List.mem_singleton.mp h)
  | cons g rest ih =>
    unfold Fields.set at h
    split at h
    · rcases List.mem_cons.mp h with new | old
      · exact Or.inl new
      · exact Or.inr (List.mem_cons_of_mem _ old)
    · rcases List.mem_cons.mp h with same | later
      · exact Or.inr (same ▸ List.mem_cons_self)
      · exact (ih later).imp_right (List.mem_cons_of_mem _)

theorem Fields.lookup_of_absent {name : String} {fields : Fields}
    (absent : ∀ f ∈ fields, f.1 ≠ name) : fields.lookup name = none := by
  rw [List.lookup_eq_none_iff]
  intro f hf
  rw [bne_iff_ne]
  exact Ne.symm (absent f hf)

namespace Event

/-- The names of fields that clash with a call or direct how an event is written. -/
def directives : List String :=
  ["event", "self", "method_name", "_record", "positional_args", "logger_name", "stack",
    "exception"]

/-- An event whose fields direct nothing and have plain values. -/
structure Plain (e : Event) : Prop where
  names : ∀ f ∈ e.fields, f.1 ∉ directives
  values : ∀ f ∈ e.fields, f.2.isPlain = true

variable {e : Event}

theorem Plain.lookup (plain : e.Plain) {name : String} (h : name ∈ directives) :
    e.fields.lookup name = none := by
  refine Fields.lookup_of_absent ?_
  rintro f hf rfl
  exact plain.names f hf h

theorem Plain.clash? (plain : e.Plain) : e.clash? = none := by
  have free : ∀ f ∈ e.fields, f.1 ≠ "event" ∧ f.1 ≠ "self" ∧ f.1 ≠ "method_name" := by
    intro f hf
    have other := plain.names f hf
    simp only [directives, List.mem_cons, not_or] at other
    exact ⟨other.1, other.2.1, other.2.2.1⟩
  have first : (e.fields.find? fun f => f.1 == "event" || f.1 == "self") = none := by
    rw [List.find?_eq_none]
    intro f hf
    simp [free f hf]
  have second : (e.fields.any fun f => f.1 == "method_name") = false := by
    rw [List.any_eq_false]
    intro f hf
    simp [free f hf]
  simp only [Event.clash?, first, second, Bool.false_eq_true, if_false]

theorem Plain.given? (plain : e.Plain) {name : String} (h : name ∈ directives) :
    e.given? name = none := by
  simp only [Event.given?, plain.lookup h]

/-- A plain event is written under its own name, and by its own logger unless that has none. -/
theorem Plain.resolve (plain : e.Plain) (view : View) :
    ∃ logger, (logger = rootLogger ∨ logger = e.logger) ∧ e.resolve view =
      .ok { e with logger := logger, fields := e.fields.filter isWritten } := by
  refine ⟨if e.logger = "" then rootLogger else e.logger, ?_, ?_⟩
  · split
    · exact Or.inl rfl
    · exact Or.inr rfl
  simp only [Event.resolve, writtenLogger, writtenName,
    plain.given? (show "_record" ∈ directives by decide),
    plain.given? (show "positional_args" ∈ directives by decide)]
  rfl

theorem Plain.resolved (plain : e.Plain) (logger : String) :
    ({ e with logger := logger, fields := e.fields.filter isWritten } : Event).Plain :=
  ⟨fun f hf => plain.names f (List.mem_filter.mp hf).1,
    fun f hf => plain.values f (List.mem_filter.mp hf).1⟩

/-- The fields of a line are those of the event and four more, which are texts. -/
theorem mem_allFields (plain : e.Plain) {f : String × Value} (h : f ∈ e.allFields) :
    f.2.isPlain = true ∧ f.1 ∉ ["logger_name", "stack", "exception"] := by
  have own : ∀ text, ∀ name ∈ ["timestamp", "level", "logger", "event"],
      f = (name, .text text) →
        f.2.isPlain = true ∧ f.1 ∉ ["logger_name", "stack", "exception"] := by
    intro text name known same
    subst same
    refine ⟨rfl, ?_⟩
    change name ∉ ["logger_name", "stack", "exception"]
    simp only [List.mem_cons, List.not_mem_nil, or_false] at known
    rcases known with rfl | rfl | rfl | rfl <;> decide
  -- The fields of the line itself are peeled off, the outermost first.
  rcases Fields.mem_set h with same | h
  · exact own _ "timestamp" (by decide) same
  rcases Fields.mem_set h with same | h
  · exact own _ "level" (by decide) same
  rcases Fields.mem_set h with same | h
  · exact own _ "logger" (by decide) same
  rcases Fields.mem_set h with same | h
  · exact own _ "event" (by decide) same
  obtain ⟨⟨name, v⟩, given, same⟩ := List.mem_map.mp h
  have value := plain.values _ given
  have other := plain.names _ given
  have kept : f = (name, v) := by
    cases v with
    | bytes bs => cases value
    | _ => exact same.symm
  rw [kept]
  refine ⟨value, fun bad => other ?_⟩
  simp only [directives, List.mem_cons, List.not_mem_nil, or_false] at bad ⊢
  rcases bad with rfl | rfl | rfl <;> decide

theorem lookup_allFields (plain : e.Plain) {name : String}
    (h : name ∈ ["logger_name", "stack", "exception"]) : e.allFields.lookup name = none := by
  refine Fields.lookup_of_absent ?_
  rintro f hf rfl
  exact (mem_allFields plain hf).2 h

end Event

/-- A plain event has a line in both forms. -/
theorem Renderer.line_of_plain {e : Event} (plain : e.Plain) (view : View) (renderer : Renderer) :
    ∃ text, renderer.line view e = .ok text := by
  obtain ⟨logger, -, resolved⟩ := plain.resolve view
  have still := plain.resolved logger
  rw [Renderer.line, resolved]
  generalize ({ e with logger := logger, fields := e.fields.filter Event.isWritten } : Event) =
    shown at still
  have values : ∀ f ∈ shown.allFields, f.2.isPlain = true :=
    fun f hf => (Event.mem_allFields still hf).1
  cases renderer with
  | json =>
    obtain ⟨texts, written⟩ := JsonLine.members_of_plain view shown.allFields values
    refine ⟨JsonLine.object texts, ?_⟩
    change JsonLine.line view shown = _
    rw [JsonLine.line, written]
    rfl
  | console =>
    obtain ⟨nameless, first⟩ := ConsoleLine.fields_of_plain view
      (shown.allFields.filter fun f => f.1 == "")
      fun f hf => values f (List.mem_filter.mp hf).1
    obtain ⟨others, rest⟩ := ConsoleLine.fields_of_plain view
      ((shown.allFields.filter fun f => !ConsoleLine.apart.contains f.1).mergeSort
        fun f g => f.1 ≤ g.1)
      fun f hf => values f (List.mem_filter.mp (List.mem_mergeSort.mp hf)).1
    change ∃ text, ConsoleLine.line view shown = .ok text
    simp only [ConsoleLine.line, ConsoleLine.columns, ConsoleLine.secondLogger, first, rest,
      Event.lookup_allFields still (show "logger_name" ∈ _ by decide),
      Event.lookup_allFields still (show "stack" ∈ _ by decide),
      Event.lookup_allFields still (show "exception" ∈ _ by decide)]
    exact ⟨_, rfl⟩

namespace Event

theorem plain_started {pointer addresses : Nat} (first : pointer ≤ Machine.indexLimit)
    (second : addresses ≤ Machine.indexLimit) : (started pointer addresses).Plain := by
  refine ⟨by simp [started, ofMachine, directives], ?_⟩
  intro f hf
  simp only [started, ofMachine, List.mem_cons, List.not_mem_nil, or_false] at hf
  rcases hf with rfl | rfl
  · exact Integer.isWritable_of_index first
  · exact Integer.isWritable_of_index second

theorem plain_aborted {address : Nat} (op : Opcode) (message : String)
    (h : address ≤ Machine.indexLimit) : (aborted address op message).Plain := by
  refine ⟨by simp [aborted, ofMachine, directives], ?_⟩
  intro f hf
  simp only [aborted, ofMachine, List.mem_cons, List.not_mem_nil, or_false] at hf
  rcases hf with rfl | rfl | rfl
  · exact Integer.isWritable_of_index h
  · rfl
  · rfl

end Event

namespace Journal

/-- The log is configured, and at a level that admits every event. -/
def IsVerbose (j : Journal) : Prop := ∃ renderer, j.settings = some ⟨.debug, renderer⟩

variable {j : Journal} {e : Event}

theorem touch_of_verbose (verbose : j.IsVerbose) :
    ∃ renderer, j.touch = { j with machineRenderer := some renderer } := by
  obtain ⟨renderer, settings⟩ := verbose
  cases kept : j.machineRenderer with
  | some old => exact ⟨old, by simp only [touch, kept]; rw [← kept]⟩
  | none => exact ⟨renderer, by simp only [touch, kept, settings, Option.map_some]⟩

/-- From one state of the log to the next, exactly these events are written. -/
def Grows (j : Journal) (events : List Event) (next : Journal) : Prop :=
  ∃ entries : Array Entry, next.entries = j.entries ++ entries ∧
    entries.toList.map Entry.event = events

theorem Grows.trans {events more : List Event} {next last : Journal} (first : j.Grows events next)
    (second : next.Grows more last) : j.Grows (events ++ more) last := by
  obtain ⟨entries, grown, named⟩ := first
  obtain ⟨entries', grown', named'⟩ := second
  refine ⟨entries ++ entries', ?_, ?_⟩
  · rw [grown', grown, Array.append_assoc]
  · rw [Array.toList_append, List.map_append, named, named']

/-- A verbose log takes every plain event of a machine and stays verbose. -/
theorem machineEvent_of_plain (verbose : j.IsVerbose) (plain : e.Plain) :
    (j.machineEvent e).IsVerbose ∧ j.Grows [e] (j.machineEvent e) := by
  obtain ⟨renderer, used⟩ := touch_of_verbose verbose
  obtain ⟨text, line⟩ := Renderer.line_of_plain plain (fun _ => default) renderer
  obtain ⟨latest, settings⟩ := verbose
  have admitted : j.touch.admits e.level = true := by
    simp only [used, admits, settings, Option.any_some]
    cases e.level <;> rfl
  have written : j.machineEvent e =
      { j.touch with entries := j.entries.push ⟨e, renderer, text⟩ } := by
    rw [used] at admitted ⊢
    simp only [machineEvent, used, write, plain.clash?, admitted, if_true, line, Except.map]
  rw [written, used]
  exact ⟨⟨latest, settings⟩, #[⟨e, renderer, text⟩], Array.push_eq_append, rfl⟩

end Journal

end StackMachine
