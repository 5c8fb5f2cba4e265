import StackMachine.Proofs.LogEntries

/-!
# The log follows the configurations of a history

Two things decide how the events of machines are written: the latest configuration, for the
level, and the configuration that was in force when the logger of the machines was first
used, for the form. Both are read off the history here, without looking at the log, and are
then found in it. That a logger is bound once is assumed of the logging library. What other
loggers write is not described.
-/

namespace StackMachine

namespace Journal

variable {j next : Journal} {e : Event}

theorem write_keeps {view : View} {renderer : Renderer} (h : j.write view renderer e = .ok next) :
    next.settings = j.settings ∧ next.machineRenderer = j.machineRenderer := by
  unfold write at h
  split at h
  · cases h
  · split at h
    · cases line : renderer.line view e with
      | error fault => simp [line, Except.map] at h
      | ok text =>
        simp only [line, Except.map, Except.ok.injEq] at h
        subst h
        exact ⟨rfl, rfl⟩
    · cases h
      exact ⟨rfl, rfl⟩

/-- Writing an event of a machine fixes the renderer and leaves the settings. -/
theorem machineEvent_keeps (j : Journal) (e : Event) :
    (j.machineEvent e).settings = j.settings ∧
      (j.machineEvent e).machineRenderer = j.renderer? := by
  have used : j.touch.settings = j.settings ∧ j.touch.machineRenderer = j.renderer? := by
    rw [touch_eq]
    exact ⟨rfl, rfl⟩
  simp only [machineEvent]
  cases kept : j.touch.machineRenderer with
  | none => exact used
  | some renderer =>
    dsimp only
    split
    · rename_i logged written
      have same := write_keeps written
      exact ⟨same.1.trans used.1, same.2.trans used.2⟩
    · exact used

theorem renderer?_machineEvent (j : Journal) (e : Event) :
    (j.machineEvent e).renderer? = j.renderer? := by
  rw [renderer?, (machineEvent_keeps j e).1, (machineEvent_keeps j e).2, renderer?]
  cases j.machineRenderer <;> cases j.settings <;> rfl

theorem foldl_machineEvent_keeps (events : List Event) (j : Journal) :
    (events.foldl machineEvent j).settings = j.settings ∧
      (events.foldl machineEvent j).machineRenderer =
        if events = [] then j.machineRenderer else j.renderer? := by
  induction events generalizing j with
  | nil => exact ⟨rfl, rfl⟩
  | cons e rest ih =>
    obtain ⟨settings, renderer⟩ := ih (j.machineEvent e)
    rw [List.foldl_cons, settings, renderer, if_neg (List.cons_ne_nil e rest),
      renderer?_machineEvent, (machineEvent_keeps j e).1, (machineEvent_keeps j e).2, ite_self]
    exact ⟨rfl, rfl⟩

end Journal

namespace Session

/-- The configuration that an operation with this answer has brought. -/
def newSettings? : Operation → Except Fault Reply → Option Settings
  | .configureLogging _ _, .ok (.configured settings) => some settings
  | _, _ => none

/-- The latest configuration that a history brings. -/
def latestSettings (s : Session) : History → Option Settings
  | [] => none
  | (fuel, operation) :: rest =>
    ((s.perform fuel operation).1.latestSettings rest).or
      (newSettings? operation (s.perform fuel operation).2)

/-- Whether an operation makes use of the logger of the machines: a run does, and an insertion for
which there is a slot and whose instruction can be built. -/
def usesLogger (s : Session) : Operation → Bool
  | .insert id name operands =>
    (s.machine? id).any fun m =>
      m.pointer < m.slots.size && (Instruction.bind s.view id name operands).toOption.isSome
  | .execute id => (s.machine? id).isSome
  | _ => false

/-- The renderer in force when a history makes use of the logger of the machines for the first
time under a configuration. The configuration in force at the beginning is given. -/
def firstRenderer (s : Session) (current : Option Settings) : History → Option Renderer
  | [] => none
  | (fuel, operation) :: rest =>
    (if s.usesLogger operation then current.map Settings.renderer else none).or
      ((s.perform fuel operation).1.firstRenderer
        ((newSettings? operation (s.perform fuel operation).2).or current) rest)

variable {s : Session} {operation : Operation} {current : Option Settings}

theorem newSettings?_of_other (other : operation.isLogging = false) (answer : Except Fault Reply) :
    newSettings? operation answer = none := by
  cases operation with
  | configureLogging level renderer => cases other
  | _ => rfl

/-- A configuration that fails leaves everything as it is. -/
theorem configureLogging_of_error {level renderer : Value} {fault : Fault}
    (failed : (s.configureLogging level renderer).2 = .error fault) :
    (s.configureLogging level renderer).1 = s := by
  unfold configureLogging at failed ⊢
  split at failed
  · cases failed
  · rfl

theorem configure_keeps (j : Journal) (settings : Settings) :
    (j.configure settings).settings = some settings ∧
      (j.configure settings).machineRenderer = j.machineRenderer := by
  simp only [Journal.configure]
  split
  · rename_i logged written
    exact Journal.write_keeps written
  · exact ⟨rfl, rfl⟩

/-- An operation leaves in force the configuration it brings, and otherwise the one before. -/
theorem perform_settings (fuel : Nat) (s : Session) (operation : Operation) :
    (s.perform fuel operation).1.journal.settings =
      (newSettings? operation (s.perform fuel operation).2).or s.journal.settings := by
  cases loud : operation.isLogging with
  | false =>
    have same := congrArg Journal.settings (perform_journal fuel s loud)
    rw [Journal.settings_touch, Journal.settings_touch,
      (Journal.foldl_machineEvent_keeps _ _).1] at same
    rw [newSettings?_of_other loud, Option.none_or, same]
  | true =>
    cases operation with
    | setEnvironment environment => rfl
    | configureLogging level renderer =>
      simp only [perform, configureLogging]
      split
      · exact (configure_keeps _ _).1
      · rfl
    | emit event =>
      simp only [perform, emit, Journal.emit?, newSettings?, Option.none_or]
      split
      · rfl
      · rename_i logged written
        obtain ⟨settings, -, written⟩ := Option.map_eq_some_iff.mp written
        exact (Journal.write_keeps written).1
      · rfl
    | _ => cases loud

theorem insert_renderer (s : Session) (id : MachineId) (name : Value) (operands : List Value) :
    (s.insert id name operands).1.journal.machineRenderer =
      if s.usesLogger (.insert id name operands) then s.journal.renderer?
      else s.journal.machineRenderer := by
  cases here : s.machine? id with
  | none => simp [insert, onMachine, usesLogger, here]
  | some m =>
    have outcome := Machine.inserting_insert s.view id name operands m
    simp only [insert, onMachine, usesLogger, here, Option.any_some]
    generalize m.insert s.view id name operands = insertion at outcome ⊢
    cases outcome with
    | full past => simp [Nat.not_lt_of_le past]
    | unbound room refusal => simp [refusal, Except.toOption]
    | unwritten room known equipped long =>
      simp [room, Instruction.bind_of_equipped s.view id known equipped, Except.toOption,
        Journal.touch_eq]
    | stored room known equipped short shown =>
      simp [room, Instruction.bind_of_equipped s.view id known equipped, Except.toOption, log, put,
        Journal.machineEvent_keeps]

theorem execute_renderer (fuel : Nat) (s : Session) (id : MachineId) :
    (s.execute fuel id).1.journal.machineRenderer =
      if s.usesLogger (.execute id) then s.journal.renderer? else s.journal.machineRenderer := by
  cases here : s.machine? id with
  | none => simp [execute, onMachine, usesLogger, here]
  | some m =>
    -- The start of the run fixes the renderer, and what follows finds it fixed.
    simp only [execute, onMachine, usesLogger, here]
    rw [conclude_journal, (Journal.foldl_machineEvent_keeps _ _).2, log,
      Journal.renderer?_machineEvent, (Journal.machineEvent_keeps _ _).2, ite_self]
    rfl

/-- An operation fixes the renderer of the machines if it makes use of their logger. -/
theorem perform_renderer (fuel : Nat) (s : Session) (operation : Operation) :
    (s.perform fuel operation).1.journal.machineRenderer =
      if s.usesLogger operation then s.journal.renderer? else s.journal.machineRenderer := by
  cases operation with
  | insert id name operands => exact insert_renderer s id name operands
  | execute id => exact execute_renderer fuel s id
  | configureLogging level renderer =>
    simp only [perform, configureLogging]
    split
    · exact (configure_keeps _ _).2
    · rfl
  | emit event =>
    simp only [perform, emit, Journal.emit?]
    split
    · rfl
    · rename_i logged written
      obtain ⟨settings, -, written⟩ := Option.map_eq_some_iff.mp written
      exact (Journal.write_keeps written).2
    · rfl
  | setEnvironment environment => rfl
  | _ =>
    exact congrArg Journal.machineRenderer (perform_journal_same fuel s rfl (by simp) (by simp))

/-- An operation that issues an event makes use of the logger of the machines. -/
theorem usesLogger_of_issued {fuel : Nat} (loud : s.issued fuel operation ≠ []) :
    s.usesLogger operation = true := by
  obtain ⟨e, inside⟩ := List.exists_mem_of_ne_nil _ loud
  cases mem_issued_iff.mp inside with
  | @stored id name operands m next address text here insertion =>
    cases Machine.inserting_of_eq insertion with
    | stored room known equipped short shown =>
      simp [usesLogger, here, room, Instruction.bind_of_equipped s.view id known equipped,
        Except.toOption]
  | started here | closed here last => simp [usesLogger, here]

/-- After a history the latest configuration in it is in force. -/
theorem after_settings (s : Session) (history : History) :
    (s.after history).journal.settings = (s.latestSettings history).or s.journal.settings := by
  induction history generalizing s with
  | nil => rfl
  | cons act rest ih =>
    obtain ⟨fuel, operation⟩ := act
    rw [after, ih, perform_settings, latestSettings, Option.or_assoc]

theorem settings_after (history : History) :
    (after {} history).journal.settings = latestSettings {} history := by
  rw [after_settings]
  exact Option.or_none

/-- After a history the renderer of its first use of the logger is kept. -/
theorem after_renderer (s : Session) (history : History) :
    (s.after history).journal.machineRenderer =
      s.journal.machineRenderer.or (s.firstRenderer s.journal.settings history) := by
  induction history generalizing s with
  | nil => simp [after, firstRenderer]
  | cons act rest ih =>
    obtain ⟨fuel, operation⟩ := act
    rw [after, ih, perform_renderer, perform_settings, firstRenderer, ← Option.or_assoc]
    congr 1
    cases s.usesLogger operation <;> simp [Journal.renderer?]

theorem firstRenderer_append (s : Session) (current : Option Settings) (history later : History) :
    s.firstRenderer current (history ++ later) =
      (s.firstRenderer current history).or
        ((s.after history).firstRenderer ((s.latestSettings history).or current) later) := by
  induction history generalizing s current with
  | nil => simp [firstRenderer, after, latestSettings]
  | cons act rest ih =>
    obtain ⟨fuel, operation⟩ := act
    rw [List.cons_append, firstRenderer, firstRenderer, ih, after, latestSettings,
      Option.or_assoc, Option.or_assoc]

/-- The machines' logger, as the history leaves it, has the renderer of its first use, which may be
the next one. -/
theorem renderer?_after (history : History) {fuel : Nat}
    (used : (after {} history).usesLogger operation = true) :
    (after {} history).journal.renderer? =
      firstRenderer {} none (history ++ [(fuel, operation)]) := by
  have kept : (after {} history).journal.machineRenderer = firstRenderer {} none history := by
    rw [after_renderer]
    rfl
  rw [firstRenderer_append, Journal.renderer?, kept, settings_after]
  simp [firstRenderer, used]

/-- After every history, the events of an operation on machines are written, all of them, if the
latest configuration is at the level DEBUG, and none is otherwise. They are in the form of the
configuration in force at the first use of the machines' logger, which no later part of a history
changes. And a configuration that fails changes nothing. -/
theorem log_follows_configuration (history : History) (fuel : Nat) (operation : Operation)
    (other : operation.isLogging = false) :
    let s := after {} history
    let next := (s.perform fuel operation).1
    ((latestSettings {} history).map Settings.level = some .debug →
      ∃ renderer, s.journal.Writes renderer (s.issued fuel operation) next.journal ∧
        (s.issued fuel operation ≠ [] →
          firstRenderer {} none (history ++ [(fuel, operation)]) = some renderer)) ∧
    ((latestSettings {} history).map Settings.level ≠ some .debug →
      next.journal.entries = s.journal.entries) ∧
    (∀ renderer later, firstRenderer {} none history = some renderer →
      firstRenderer {} none (history ++ later) = some renderer) ∧
    ∀ level renderer fault, (s.perform fuel (.configureLogging level renderer)).2 = .error fault →
      (s.perform fuel (.configureLogging level renderer)).1 = s := by
  intro s next
  have verbose : s.journal.IsVerbose ↔
      (latestSettings {} history).map Settings.level = some .debug := by
    rw [Journal.isVerbose_iff, settings_after]
  refine ⟨?_, ?_, ?_, ?_⟩
  · intro level
    obtain ⟨renderer, kept⟩ := Journal.exists_renderer (verbose.mpr level)
    refine ⟨renderer, perform_writes (after_rack empty_rack history) (verbose.mpr level) kept fuel
      other, ?_⟩
    intro loud
    rw [← renderer?_after history (usesLogger_of_issued loud)]
    exact kept
  · intro level
    exact perform_of_quiet (fun loud => level (verbose.mp loud)) fuel other
  · intro renderer later first
    rw [firstRenderer_append, first, Option.some_or]
  · intro level renderer fault failed
    exact configureLogging_of_error failed

/-- The first use of the logger is an insertion whose event is not written. After two more
configurations, of which the first fails, a run is written in the form that was in force then. -/
theorem log_follows_configuration_console :
    let history : History := [(0, .configureLogging (.text "info") (.text "console")),
      (0, .create (.int 1) none), (0, .insert 0 (.text "STOP") []),
      (0, .configureLogging (.text "loud") .null),
      (0, .configureLogging (.text "DEBUG") (.text "json")), (0, .setAddress 0 (.int 0))]
    latestSettings {} history = some ⟨.debug, .json⟩ ∧
      (after {} history).journal.Writes .console [.started 0 1, .finished 1 false]
        ((after {} history).perform 2 (.execute 0)).1.journal := by
  intro history
  have latest : latestSettings {} history = some ⟨.debug, .json⟩ := by decide +kernel
  have first : firstRenderer {} none (history ++ [(2, .execute 0)]) = some .console := by
    decide +kernel
  have rack : (after {} history).rack = { machines := #[{ slots := #[some ⟨0, .stop, []⟩] }] } :=
    rfl
  have events : (after {} history).issued 2 (.execute 0) = [.started 0 1, .finished 1 false] := by
    simp only [issued, machine?, rack]
    rfl
  obtain ⟨written, -⟩ := log_follows_configuration history 2 (.execute 0) rfl
  obtain ⟨renderer, written, form⟩ := written (by rw [latest]; rfl)
  rw [events] at written form
  have same : some Renderer.console = some renderer :=
    first.symm.trans (form (List.cons_ne_nil _ _))
  cases same
  exact ⟨latest, written⟩

end Session

end StackMachine
