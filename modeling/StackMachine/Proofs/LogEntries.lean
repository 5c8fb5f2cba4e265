import StackMachine.Proofs.LogInertness

/-!
# Entries of the log

What an operation on machines enters into the log, given the settings and the renderer that
the log holds: either all the events it issues, in their order and in the lines of that
renderer, or nothing. How the log came to hold them is not asked here.
-/

namespace StackMachine

/-- The events of machines. -/
inductive Event.OfMachine : Event → Prop
  | inserted (address : Nat) (instruction : String) : OfMachine (.inserted address instruction)
  | started (pointer addresses : Nat) : OfMachine (.started pointer addresses)
  | aborted (address : Nat) (op : Opcode) (message : String) :
      OfMachine (.aborted address op message)
  | finished (pointer : Nat) (running : Bool) : OfMachine (.finished pointer running)

/-- The events of machines are all of the lowest level. -/
theorem Event.OfMachine.level {e : Event} (h : e.OfMachine) : e.level = .debug := by
  cases h <;> rfl

/-- The entry is in the form of this renderer, and has the line that it gives to the event. -/
structure Entry.Rendered (renderer : Renderer) (entry : Entry) : Prop where
  form : entry.renderer = renderer
  line : renderer.line (fun _ => default) entry.event = .ok entry.text

namespace Journal

/-- From one state of the log to the next exactly these events are written, in this order and all
in the form of the renderer. -/
def Writes (j : Journal) (renderer : Renderer) (events : List Event) (next : Journal) : Prop :=
  ∃ entries : List Entry, next.entries.toList = j.entries.toList ++ entries ∧
    entries.map Entry.event = events ∧ ∀ entry ∈ entries, entry.Rendered renderer

/-- The renderer of the next event of a machine: the one that is kept, or else that of the latest
configuration. -/
def renderer? (j : Journal) : Option Renderer :=
  j.machineRenderer.or (j.settings.map Settings.renderer)

variable {j : Journal} {e : Event} {events : List Event} {renderer : Renderer}

theorem writes_nil (j : Journal) (renderer : Renderer) : j.Writes renderer [] j :=
  ⟨[], (List.append_nil _).symm, rfl, fun _ inside => absurd inside List.not_mem_nil⟩

theorem Writes.trans {more : List Event} {next last : Journal}
    (first : j.Writes renderer events next) (second : next.Writes renderer more last) :
    j.Writes renderer (events ++ more) last := by
  obtain ⟨entries, grown, named, rendered⟩ := first
  obtain ⟨entries', grown', named', rendered'⟩ := second
  refine ⟨entries ++ entries', ?_, ?_, ?_⟩
  · rw [grown', grown, List.append_assoc]
  · rw [List.map_append, named, named']
  · intro entry inside
    rcases List.mem_append.mp inside with early | late
    · exact rendered entry early
    · exact rendered' entry late

theorem touch_eq (j : Journal) : j.touch = { j with machineRenderer := j.renderer? } := by
  cases kept : j.machineRenderer with
  | some old => simp only [touch, renderer?, kept, Option.some_or]; rw [← kept]
  | none => simp only [touch, renderer?, kept, Option.none_or]

theorem entries_touch (j : Journal) : j.touch.entries = j.entries := by
  rw [touch_eq]

theorem settings_touch (j : Journal) : j.touch.settings = j.settings := by
  rw [touch_eq]

theorem renderer?_touch (j : Journal) : j.touch.renderer? = j.renderer? := by
  rw [touch_eq]
  cases kept : j.machineRenderer <;> cases latest : j.settings <;> simp [renderer?, kept, latest]

theorem exists_renderer (verbose : j.IsVerbose) : ∃ renderer, j.renderer? = some renderer := by
  obtain ⟨latest, settings⟩ := verbose
  cases kept : j.machineRenderer with
  | some old => exact ⟨old, by rw [renderer?, kept, Option.some_or]⟩
  | none => exact ⟨latest, by rw [renderer?, kept, settings]; rfl⟩

theorem isVerbose_iff : j.IsVerbose ↔ j.settings.map Settings.level = some .debug := by
  constructor
  · rintro ⟨renderer, latest⟩
    rw [latest]
    rfl
  · intro level
    obtain ⟨⟨_, renderer⟩, latest, rfl⟩ := Option.map_eq_some_iff.mp level
    exact ⟨renderer, latest⟩

/-- The only level that admits the events of machines is the lowest. -/
theorem admits_debug_iff : j.admits .debug = true ↔ j.IsVerbose := by
  constructor
  · intro admitted
    cases latest : j.settings with
    | none => simp [admits, latest] at admitted
    | some settings =>
      obtain ⟨level, renderer⟩ := settings
      cases level with
      | debug => exact ⟨renderer, latest⟩
      | _ => simp [admits, latest, Level.severity] at admitted
  · rintro ⟨renderer, latest⟩
    simp [admits, latest]

/-- A log that admits the events of machines takes a plain one, in the form of its renderer. -/
theorem machineEvent_of_verbose (verbose : j.IsVerbose) (debug : e.level = .debug)
    (plain : e.Plain) (kept : j.renderer? = some renderer) :
    ∃ text, renderer.line (fun _ => default) e = .ok text ∧
      j.machineEvent e = { j.touch with entries := j.entries.push ⟨e, renderer, text⟩ } := by
  obtain ⟨text, line⟩ := Renderer.line_of_plain plain (fun _ => default) renderer
  have used : j.touch.machineRenderer = some renderer := by rw [touch_eq, ← kept]
  have admitted : j.touch.admits e.level = true := by
    rw [debug, admits_debug_iff]
    exact verbose.imp fun _ latest => (settings_touch j).trans latest
  refine ⟨text, line, ?_⟩
  simp only [machineEvent, used, write, plain.clash?, admitted, if_true, line, Except.map,
    entries_touch]

/-- A log that does not admit the events of machines is only made use of. -/
theorem machineEvent_of_quiet (quiet : ¬ j.IsVerbose) (debug : e.level = .debug) :
    j.machineEvent e = j.touch := by
  have refused : j.touch.admits e.level = false := by
    rw [debug, ← Bool.not_eq_true, admits_debug_iff]
    rintro ⟨renderer, latest⟩
    exact quiet ⟨renderer, (settings_touch j).symm.trans latest⟩
  simp only [machineEvent]
  cases j.touch.machineRenderer with
  | none => rfl
  | some renderer =>
    simp only [write, refused, Bool.false_eq_true, if_false]
    cases e.clash? <;> rfl

theorem writes_foldl (verbose : j.IsVerbose) (debug : ∀ e ∈ events, e.level = .debug)
    (plain : ∀ e ∈ events, e.Plain) (kept : j.renderer? = some renderer) :
    j.Writes renderer events (events.foldl machineEvent j) := by
  induction events generalizing j with
  | nil => exact writes_nil j renderer
  | cons e rest ih =>
    obtain ⟨text, line, logged⟩ := machineEvent_of_verbose verbose
      (debug e List.mem_cons_self) (plain e List.mem_cons_self) kept
    have first : j.Writes renderer [e] (j.machineEvent e) := by
      refine ⟨[⟨e, renderer, text⟩], ?_, rfl, ?_⟩
      · rw [logged, Array.toList_push]
      · intro entry inside
        rw [List.mem_singleton.mp inside]
        exact ⟨rfl, line⟩
    have still : (j.machineEvent e).IsVerbose := by
      rw [logged]
      exact verbose.imp fun _ latest => (settings_touch j).trans latest
    have same : (j.machineEvent e).renderer? = some renderer := by
      rw [logged, ← kept]
      exact renderer?_touch j
    exact first.trans (ih still (fun other inside => debug other (List.mem_cons_of_mem _ inside))
      (fun other inside => plain other (List.mem_cons_of_mem _ inside)) same)

theorem entries_foldl_of_quiet (quiet : ¬ j.IsVerbose) (debug : ∀ e ∈ events, e.level = .debug) :
    (events.foldl machineEvent j).entries = j.entries := by
  induction events generalizing j with
  | nil => rfl
  | cons e rest ih =>
    have used := machineEvent_of_quiet quiet (debug e List.mem_cons_self)
    have still : ¬ (j.machineEvent e).IsVerbose := by
      rw [used]
      rintro ⟨renderer, latest⟩
      exact quiet ⟨renderer, (settings_touch j).symm.trans latest⟩
    rw [List.foldl_cons, ih still fun other inside => debug other (List.mem_cons_of_mem _ inside),
      used, entries_touch]

end Journal

namespace Session

variable {s : Session} {counts : List Nat} {operation : Operation}

/-- What an operation issues are events of machines. -/
theorem ofMachine_issued (fuel : Nat) (s : Session) (operation : Operation) :
    ∀ e ∈ s.issued fuel operation, e.OfMachine := by
  intro e inside
  cases mem_issued_iff.mp inside with
  | stored here insertion => exact .inserted _ _
  | started here => exact .started _ _
  | closed here last =>
    unfold closing at last
    split at last
    · cases last
    · split at last
      · rw [List.mem_singleton.mp last]
        exact .aborted _ _ _
      · cases last
    · obtain ⟨m, -, rfl⟩ := List.mem_map.mp last
      exact .finished _ _

theorem level_issued (fuel : Nat) (s : Session) (operation : Operation) :
    ∀ e ∈ s.issued fuel operation, e.level = .debug :=
  fun e inside => (ofMachine_issued fuel s operation e inside).level

/-- What an operation on machines leaves in the log is what its events leave there. -/
theorem entries_perform (fuel : Nat) (s : Session) (other : operation.isLogging = false) :
    (s.perform fuel operation).1.journal.entries =
      ((s.issued fuel operation).foldl Journal.machineEvent s.journal).entries := by
  have same := congrArg Journal.entries (perform_journal fuel s other)
  rwa [Journal.entries_touch, Journal.entries_touch] at same

/-- A log that admits the events of machines takes all that an operation issues. -/
theorem perform_writes {renderer : Renderer} (wf : s.rack.WellFormed counts)
    (verbose : s.journal.IsVerbose) (kept : s.journal.renderer? = some renderer) (fuel : Nat)
    (other : operation.isLogging = false) :
    s.journal.Writes renderer (s.issued fuel operation) (s.perform fuel operation).1.journal := by
  have written := Journal.writes_foldl verbose (level_issued fuel s operation)
    (plain_issued wf fuel operation) kept
  rw [Journal.Writes] at written ⊢
  rwa [entries_perform fuel s other]

/-- A log that does not admit the events of machines takes nothing. -/
theorem perform_of_quiet (quiet : ¬ s.journal.IsVerbose) (fuel : Nat)
    (other : operation.isLogging = false) :
    (s.perform fuel operation).1.journal.entries = s.journal.entries := by
  rw [entries_perform fuel s other,
    Journal.entries_foldl_of_quiet quiet (level_issued fuel s operation)]

end Session

end StackMachine
