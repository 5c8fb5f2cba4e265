import StackMachine.Proofs.SelfContained

/-!
# Where settings come from

A setting is what its argument names or, if the argument is absent, what its variable names, or
else the standard one. So an environment is asked for the variables of the absent arguments and
for nothing else, and settings name themselves, in every environment. Two texts are refused
exactly when the upper case of the first or the lower case of the second is no name, and then the
fault is about the first if it can be. Values that are no texts are never settings; which of the
faults they meet with is not described.
-/

namespace StackMachine

theorem Level.ofName?_eq_some_iff {name : String} {l : Level} :
    ofName? name = some l ↔ name = l.name := by
  constructor
  · intro found
    have same := List.find?_some found
    exact (beq_iff_eq.mp same).symm
  · rintro rfl
    cases l <;> rfl

theorem Level.ofName?_eq_none_iff {name : String} :
    ofName? name = none ↔ name ∉ all.map Level.name := by
  rw [ofName?, List.find?_eq_none]
  simp

theorem Renderer.ofName?_eq_some_iff {name : String} {r : Renderer} :
    ofName? name = some r ↔ name = r.name := by
  constructor
  · intro found
    have same := List.find?_some found
    exact (beq_iff_eq.mp same).symm
  · rintro rfl
    cases r <;> rfl

theorem Renderer.ofName?_eq_none_iff {name : String} :
    ofName? name = none ↔ name ∉ all.map Renderer.name := by
  rw [ofName?, List.find?_eq_none]
  simp

theorem Level.upper_name (l : Level) : Text.upper l.name = l.name := by
  cases l <;> decide +kernel

theorem Renderer.lower_name (r : Renderer) : Text.lower r.name = r.name := by
  cases r <;> decide +kernel

namespace Settings

variable {view view' : View} {process process' : Environment} {given given' level renderer : Value}
  {l r : String} {s : Settings}

/-- The environment is that of the process, or a mapping that is given in its place. -/
def IsEnvironment : Value → Prop
  | .null | .mapping _ => True
  | _ => False

/-- What a variable holds in an environment, if it is set. -/
def held? (process : Environment) (given : Value) (name : String) : Option Value :=
  match given with
  | .null => (process.lookup name).map .text
  | .mapping entries => Value.valueUnder? (.text name) entries
  | _ => none

/-- What a setting is to be: what the argument says or, if it is absent, the variable, or else
what is standard. -/
def chosen (argument : Value) (held : Option Value) (standard : String) : Value :=
  match argument with
  | .null => held.getD (.text standard)
  | v => v

/-- Settings from two values that are not yet in the case of names. -/
def ofChosen (view : View) (level renderer : Value) : Except Fault Settings := do
  let level ← upper level
  let renderer ← lower renderer
  ofNames view level renderer

theorem argumentOr_of_given {argument : Value} (present : argument ≠ .null)
    (fallback : Except Fault Value) : argumentOr argument fallback = .ok argument := by
  cases argument with
  | null => exact absurd rfl present
  | _ => rfl

/-- In an environment, every variable has a value or is not set. -/
theorem argumentOr_eq (env : IsEnvironment given) (process : Environment) (argument : Value)
    (name standard : String) :
    argumentOr argument (variableIn process given name standard) =
      .ok (chosen argument (held? process given name) standard) := by
  cases argument with
  | null =>
    cases given with
    | null =>
      rw [argumentOr, variableIn, chosen, held?]
      cases process.lookup name <;> rfl
    | mapping entries => rfl
    | _ => cases env
  | _ => rfl

/-- The environment has a say only in what is chosen. -/
theorem resolve_eq (env : IsEnvironment given) :
    resolve view process given level renderer =
      ofChosen view (chosen level (held? process given levelVariable) standard.level.name)
        (chosen renderer (held? process given rendererVariable) standard.renderer.name) := by
  rw [resolve, argumentOr_eq env, argumentOr_eq env]
  rfl

theorem resolve_of_given (first : level ≠ .null) (second : renderer ≠ .null) :
    resolve view process given level renderer = ofChosen view level renderer := by
  rw [resolve, argumentOr_of_given first, argumentOr_of_given second]
  rfl

/-- A computation gives a result exactly when its first step does and the rest does with that. -/
theorem bind_eq_ok_iff {α β : Type} {x : Except Fault α} {f : α → Except Fault β} {b : β} :
    (x >>= f) = .ok b ↔ ∃ a, x = .ok a ∧ f a = .ok b := by
  cases x with
  | error fault =>
    constructor
    · intro done
      cases done
    · rintro ⟨a, given, -⟩
      cases given
  | ok a =>
    constructor
    · exact fun done => ⟨a, rfl, done⟩
    · rintro ⟨_, same, done⟩
      cases same
      exact done

theorem upper_eq_text_iff {v : Value} {name : String} :
    upper v = .ok (.text name) ↔ ∃ l, v = .text l ∧ Text.upper l = name := by
  cases v <;> simp [upper]

theorem lower_eq_text_iff {v : Value} {name : String} :
    lower v = .ok (.text name) ↔ ∃ r, v = .text r ∧ Text.lower r = name := by
  cases v <;> simp [lower]

theorem checkLevel_eq_ok_iff {v : Value} {l : Level} :
    checkLevel view v = .ok l ↔ v = .text l.name := by
  cases v with
  | text name =>
    rw [checkLevel, Value.text.injEq, ← Level.ofName?_eq_some_iff]
    cases Level.ofName? name <;> simp
  | _ => simp [checkLevel]

theorem checkRenderer_eq_ok_iff {v : Value} {r : Renderer} :
    checkRenderer view v = .ok r ↔ v = .text r.name := by
  cases v with
  | text name =>
    rw [checkRenderer, Value.text.injEq, ← Renderer.ofName?_eq_some_iff]
    cases Renderer.ofName? name <;> simp
  | _ => simp [checkRenderer]

/-- A text that names no level is shown in the fault, with the names there are. -/
theorem checkLevel_of_unknown {name : String} (unknown : name ∉ Level.all.map Level.name) :
    checkLevel view (.text name) = .error
      (.unknownLevel (Text.quoted name) "DEBUG, INFO, WARNING, ERROR, CRITICAL") := by
  have names : Text.commaSeparated (Level.all.map Level.name) =
      "DEBUG, INFO, WARNING, ERROR, CRITICAL" := by decide +kernel
  rw [checkLevel, Level.ofName?_eq_none_iff.mpr unknown, names]
  rfl

theorem checkRenderer_of_unknown {name : String}
    (unknown : name ∉ Renderer.all.map Renderer.name) :
    checkRenderer view (.text name) =
      .error (.unknownRenderer (Text.quoted name) "console, json") := by
  have names : Text.commaSeparated (Renderer.all.map Renderer.name) = "console, json" := by
    decide +kernel
  rw [checkRenderer, Renderer.ofName?_eq_none_iff.mpr unknown, names]
  rfl

theorem ofNames_eq_ok_iff {v w : Value} :
    ofNames view v w = .ok s ↔ v = .text s.level.name ∧ w = .text s.renderer.name := by
  constructor
  · intro made
    obtain ⟨l, first, made⟩ := bind_eq_ok_iff.mp made
    obtain ⟨r, second, made⟩ := bind_eq_ok_iff.mp made
    cases made
    exact ⟨checkLevel_eq_ok_iff.mp first, checkRenderer_eq_ok_iff.mp second⟩
  · rintro ⟨rfl, rfl⟩
    refine bind_eq_ok_iff.mpr ⟨s.level, checkLevel_eq_ok_iff.mpr rfl, ?_⟩
    exact bind_eq_ok_iff.mpr ⟨s.renderer, checkRenderer_eq_ok_iff.mpr rfl, rfl⟩

/-- Settings are made of texts only, and have the names that these are in the right case. -/
theorem ofChosen_eq_ok_iff :
    ofChosen view level renderer = .ok s ↔ ∃ l r, level = .text l ∧ renderer = .text r ∧
      Text.upper l = s.level.name ∧ Text.lower r = s.renderer.name := by
  constructor
  · intro made
    obtain ⟨v, first, made⟩ := bind_eq_ok_iff.mp made
    obtain ⟨w, second, made⟩ := bind_eq_ok_iff.mp made
    obtain ⟨rfl, rfl⟩ := ofNames_eq_ok_iff.mp made
    obtain ⟨l, rfl, upper⟩ := upper_eq_text_iff.mp first
    obtain ⟨r, rfl, lower⟩ := lower_eq_text_iff.mp second
    exact ⟨l, r, rfl, rfl, upper, lower⟩
  · rintro ⟨l, r, rfl, rfl, upper, lower⟩
    refine bind_eq_ok_iff.mpr ⟨_, upper_eq_text_iff.mpr ⟨l, rfl, upper⟩, ?_⟩
    refine bind_eq_ok_iff.mpr ⟨_, lower_eq_text_iff.mpr ⟨r, rfl, lower⟩, ?_⟩
    exact ofNames_eq_ok_iff.mpr ⟨rfl, rfl⟩

/-- Both values are put into the case of names before either is checked. -/
theorem ofChosen_of_cases {v w : Value} (first : upper level = .ok v)
    (second : lower renderer = .ok w) : ofChosen view level renderer = ofNames view v w := by
  simp only [ofChosen, first, second, bind, Except.bind]

theorem ofChosen_of_unknownLevel (r : String)
    (unknown : Text.upper l ∉ Level.all.map Level.name) :
    ofChosen view (.text l) (.text r) = .error (.unknownLevel (Text.quoted (Text.upper l))
      "DEBUG, INFO, WARNING, ERROR, CRITICAL") := by
  rw [ofChosen_of_cases rfl rfl, ofNames, checkLevel_of_unknown unknown]
  rfl

theorem ofChosen_of_unknownRenderer (known : Text.upper l ∈ Level.all.map Level.name)
    (unknown : Text.lower r ∉ Renderer.all.map Renderer.name) :
    ofChosen view (.text l) (.text r) =
      .error (.unknownRenderer (Text.quoted (Text.lower r)) "console, json") := by
  obtain ⟨found, -, named⟩ := List.mem_map.mp known
  rw [ofChosen_of_cases rfl rfl, ofNames, checkLevel_eq_ok_iff.mpr (congrArg Value.text named.symm),
    checkRenderer_of_unknown unknown]
  rfl

theorem ofChosen_of_known (view : View) (known : Text.upper l ∈ Level.all.map Level.name)
    (known' : Text.lower r ∈ Renderer.all.map Renderer.name) :
    ∃ s, ofChosen view (.text l) (.text r) = .ok s ∧
      s.level.name = Text.upper l ∧ s.renderer.name = Text.lower r := by
  obtain ⟨level, -, named⟩ := List.mem_map.mp known
  obtain ⟨renderer, -, named'⟩ := List.mem_map.mp known'
  exact ⟨⟨level, renderer⟩,
    ofChosen_eq_ok_iff.mpr ⟨l, r, rfl, rfl, named.symm, named'.symm⟩, named, named'⟩

theorem ofChosen_refused_iff (view : View) :
    (∃ fault, ofChosen view (.text l) (.text r) = .error fault) ↔
      Text.upper l ∉ Level.all.map Level.name ∨ Text.lower r ∉ Renderer.all.map Renderer.name := by
  by_cases known : Text.upper l ∈ Level.all.map Level.name
  · by_cases known' : Text.lower r ∈ Renderer.all.map Renderer.name
    · obtain ⟨s, made, -⟩ := ofChosen_of_known view known known'
      simp [made, known, known']
    · exact iff_of_true ⟨_, ofChosen_of_unknownRenderer known known'⟩ (Or.inr known')
  · exact iff_of_true ⟨_, ofChosen_of_unknownLevel r known⟩ (Or.inl known)

theorem isSelfContained_upper {v w : Value} (raised : upper v = .ok w) :
    w.isSelfContained = true := by
  cases v with
  | text | bytes =>
    cases raised
    rfl
  | _ => cases raised

theorem isSelfContained_lower {v w : Value} (lowered : lower v = .ok w) :
    w.isSelfContained = true := by
  cases v with
  | text | bytes =>
    cases lowered
    rfl
  | _ => cases lowered

theorem ofNames_view (view view' : View) {v w : Value} (first : v.isSelfContained = true)
    (second : w.isSelfContained = true) : ofNames view v w = ofNames view' v w := by
  have level : checkLevel view v = checkLevel view' v := by
    unfold checkLevel
    rw [Fault.showing_view view view' first]
  have renderer : checkRenderer view w = checkRenderer view' w := by
    unfold checkRenderer
    rw [Fault.showing_view view view' second]
  rw [ofNames, ofNames, level, renderer]

/-- The machines have no say in what is chosen: a value that refers to one has no case. -/
theorem ofChosen_view (view view' : View) (v w : Value) :
    ofChosen view v w = ofChosen view' v w := by
  cases first : upper v with
  | error fault => simp only [ofChosen, first, bind, Except.bind]
  | ok level =>
    cases second : lower w with
    | error fault => simp only [ofChosen, first, second, bind, Except.bind]
    | ok renderer =>
      rw [ofChosen_of_cases first second, ofChosen_of_cases first second]
      exact ofNames_view view view' (isSelfContained_upper first) (isSelfContained_lower second)

/-- Environments that agree on the variables of the absent arguments lead to the same outcome. -/
theorem resolve_congr (env : IsEnvironment given) (env' : IsEnvironment given')
    (first : level = .null →
      held? process given levelVariable = held? process' given' levelVariable)
    (second : renderer = .null →
      held? process given rendererVariable = held? process' given' rendererVariable) :
    resolve view process given level renderer = resolve view' process' given' level renderer := by
  have same : ∀ (argument : Value) (name standard : String),
      (argument = .null → held? process given name = held? process' given' name) →
        chosen argument (held? process given name) standard =
          chosen argument (held? process' given' name) standard := by
    intro argument name standard agree
    cases argument with
    | null => rw [agree rfl]
    | _ => rfl
  rw [resolve_eq env, resolve_eq env', same _ _ _ first, same _ _ _ second]
  exact ofChosen_view view view' _ _

/-- The names of settings are settled: they give the same settings again. -/
theorem resolve_names (view : View) (process : Environment) (given : Value) (s : Settings) :
    resolve view process given (.text s.level.name) (.text s.renderer.name) = .ok s := by
  have first : Value.text s.level.name ≠ .null := Value.noConfusion
  have second : Value.text s.renderer.name ≠ .null := Value.noConfusion
  rw [resolve_of_given first second]
  exact ofChosen_eq_ok_iff.mpr ⟨_, _, rfl, rfl, s.level.upper_name, s.renderer.lower_name⟩

/-- Environments that agree on the variables of the absent arguments lead to the same settings or
the same fault, and where no argument is absent every environment does. Settings that were
resolved have names of the two tables, and are resolved again from these names, whatever the
environment. Two texts are refused exactly when one of them, in its case, is not in its table, and
the fault names the level if it is the level that is not. -/
theorem resolve_stable (view : View) (process : Environment) (given level renderer : Value) :
    (∀ (view' : View) (process' : Environment) (given' : Value),
      IsEnvironment given → IsEnvironment given' →
      (level = .null →
        held? process given levelVariable = held? process' given' levelVariable) →
      (renderer = .null →
        held? process given rendererVariable = held? process' given' rendererVariable) →
      resolve view process given level renderer =
        resolve view' process' given' level renderer) ∧
    (level ≠ .null → renderer ≠ .null →
      ∀ (view' : View) (process' : Environment) (given' : Value),
        resolve view process given level renderer =
          resolve view' process' given' level renderer) ∧
    (∀ s, resolve view process given level renderer = .ok s →
      s.level.name ∈ ["DEBUG", "INFO", "WARNING", "ERROR", "CRITICAL"] ∧
      s.renderer.name ∈ ["console", "json"] ∧
      ∀ (view' : View) (process' : Environment) (given' : Value),
        resolve view' process' given' (.text s.level.name) (.text s.renderer.name) = .ok s) ∧
    (∀ l r, IsEnvironment given →
      chosen level (held? process given levelVariable) "WARNING" = .text l →
      chosen renderer (held? process given rendererVariable) "console" = .text r →
      let levels := ["DEBUG", "INFO", "WARNING", "ERROR", "CRITICAL"]
      let renderers := ["console", "json"]
      let outcome := resolve view process given level renderer
      ((∃ fault, outcome = .error fault) ↔
        Text.upper l ∉ levels ∨ Text.lower r ∉ renderers) ∧
      (Text.upper l ∉ levels → outcome = .error
        (.unknownLevel (Text.quoted (Text.upper l)) "DEBUG, INFO, WARNING, ERROR, CRITICAL")) ∧
      (Text.upper l ∈ levels → Text.lower r ∉ renderers → outcome = .error
        (.unknownRenderer (Text.quoted (Text.lower r)) "console, json")) ∧
      (Text.upper l ∈ levels → Text.lower r ∈ renderers →
        ∃ s, outcome = .ok s ∧ s.level.name = Text.upper l ∧ s.renderer.name = Text.lower r)) := by
  refine ⟨fun view' process' given' => resolve_congr, ?_, ?_, ?_⟩
  · intro first second view' process' given'
    rw [resolve_of_given first second, resolve_of_given first second]
    exact ofChosen_view view view' level renderer
  · intro s resolved
    refine ⟨?_, ?_, fun view' process' given' => resolve_names view' process' given' s⟩
    · cases s.level <;> decide
    · cases s.renderer <;> decide
  · intro l r env first second levels renderers outcome
    have made : outcome = ofChosen view (.text l) (.text r) := by
      rw [← first, ← second]
      exact resolve_eq env
    rw [made]
    exact ⟨ofChosen_refused_iff view, ofChosen_of_unknownLevel r, ofChosen_of_unknownRenderer,
      ofChosen_of_known view⟩

/-- The level comes from two environments that agree on it alone, and the renderer from the
argument. Without that argument, the renderer of the first environment is refused. -/
theorem resolve_stable_level :
    let view : View := fun _ => default
    let given : Value := .mapping [(.text "STACKVM_LOG_LEVEL", .text "debug"),
      (.text "STACKVM_LOG_RENDERER", .text "XML")]
    let process : Environment := [("STACKVM_LOG_LEVEL", "debug")]
    held? [] given levelVariable = held? process .null levelVariable ∧
      resolve view [] given .null (.text "JSON") =
        resolve view process .null .null (.text "JSON") ∧
      resolve view [] given .null .null = .error (.unknownRenderer "'xml'" "console, json") := by
  have raised : Text.upper "debug" = "DEBUG" := by decide +kernel
  have lowered : Text.lower "XML" = "xml" := by decide +kernel
  have shown : Text.quoted "xml" = "'xml'" := by decide +kernel
  intro view given process
  have level : held? [] given levelVariable = some (.text "debug") := rfl
  have renderer : held? [] given rendererVariable = some (.text "XML") := rfl
  have agree : held? [] given levelVariable = held? process .null levelVariable := rfl
  obtain ⟨same, -, -, -⟩ := resolve_stable view [] given .null (.text "JSON")
  obtain ⟨-, -, -, refused⟩ := resolve_stable view [] given .null .null
  obtain ⟨-, -, refused, -⟩ := refused "debug" "XML" trivial (by rw [level]; rfl)
    (by rw [renderer]; rfl)
  rw [raised, lowered, shown] at refused
  exact ⟨agree, same view process .null trivial trivial (fun _ => agree) Value.noConfusion,
    refused (by decide) (by decide)⟩

end Settings

end StackMachine
