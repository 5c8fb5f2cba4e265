import StackMachine.Log.Level
import StackMachine.Text.Casing
import StackMachine.Value.Mapping

/-! # Settings

The level and the renderer of the log. They are resolved from two arguments and,
where an argument is absent, from an environment, and are then put into the case
of their names before the names are checked. -/

namespace StackMachine

structure Settings where
  level : Level
  renderer : Renderer
  deriving DecidableEq, Repr

abbrev Environment := List (String × String)

namespace Settings

/-- The settings in force when nothing else is said. -/
def standard : Settings := ⟨.warning, .console⟩

def levelVariable : String := "STACKVM_LOG_LEVEL"

def rendererVariable : String := "STACKVM_LOG_RENDERER"

def checkLevel (view : View) (name : Value) : Except Fault Level :=
  let unknown := Fault.showing view name fun shown =>
    .unknownLevel shown (Text.commaSeparated (Level.all.map Level.name))
  match name with
  | .text s => (Level.ofName? s).elim (.error unknown) .ok
  | _ => .error unknown

def checkRenderer (view : View) (name : Value) : Except Fault Renderer :=
  let unknown := Fault.showing view name fun shown =>
    .unknownRenderer shown (Text.commaSeparated (Renderer.all.map Renderer.name))
  match name with
  | .text s => (Renderer.ofName? s).elim (.error unknown) .ok
  | _ => .error unknown

/-- Settings from two names, of which the level is checked first. -/
def ofNames (view : View) (level renderer : Value) : Except Fault Settings := do
  let level ← checkLevel view level
  let renderer ← checkRenderer view renderer
  return ⟨level, renderer⟩

/-- The value of a variable, which is `default` when it is not set. The environment
is that of the process unless a mapping is given instead. -/
def variableIn (process : Environment) (given : Value) (name : String) (default : String) :
    Except Fault Value :=
  match given with
  | .null => .ok (.text ((process.lookup name).getD default))
  | .mapping entries => .ok ((Value.valueUnder? (.text name) entries).getD (.text default))
  | v => .error (.noAttribute v.qualifiedKind "get")

/-- An argument, or the variable that stands in for it when it is absent. -/
def argumentOr (argument : Value) (fallback : Except Fault Value) : Except Fault Value :=
  match argument with
  | .null => fallback
  | v => .ok v

def upper : Value → Except Fault Value
  | .text s => .ok (.text (Text.upper s))
  | .bytes bs => .ok (.bytes (bs.map Text.upperByte))
  | v => .error (.noAttribute v.qualifiedKind "upper")

def lower : Value → Except Fault Value
  | .text s => .ok (.text (Text.lower s))
  | .bytes bs => .ok (.bytes (bs.map Text.lowerByte))
  | v => .error (.noAttribute v.qualifiedKind "lower")

def resolve (view : View) (process : Environment) (given level renderer : Value) :
    Except Fault Settings := do
  let level ← argumentOr level (variableIn process given levelVariable standard.level.name)
  let renderer ←
    argumentOr renderer (variableIn process given rendererVariable standard.renderer.name)
  -- both are put into their cases before either is checked
  let level ← upper level
  let renderer ← lower renderer
  ofNames view level renderer

def text (s : Settings) : String :=
  "Settings(log_level=" ++ Text.quoted s.level.name ++ ", log_renderer=" ++
    Text.quoted s.renderer.name ++ ")"

/-- The fault of assigning to a field, since settings never change. -/
def assign (name : String) : Fault := .frozenField (Text.quoted name)

end Settings

end StackMachine
