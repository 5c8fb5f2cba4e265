import StackMachine.Log.ConsoleLine
import StackMachine.Log.JsonLine
import StackMachine.Settings

/-! # The journal

What has been logged, and the configuration that decides what is logged next.
Nothing is written before the first configuration. The logger of the machines
takes the renderer that is in force when it is first used after that and keeps
it, while the level is always that of the latest configuration.

The rules are those of structlog and of its loggers, which are not a part of the program.
It is assumed that a logger is bound once, when it is first used after a configuration,
that the level of an event is compared with that of the latest configuration each time,
and that the renderers are those written out here. The events of machines have plain
fields, which these renderers never refuse. -/

namespace StackMachine

structure Entry where
  event : Event
  renderer : Renderer
  text : String

structure Journal where
  settings : Option Settings := none
  /-- The renderer kept by the logger of the machines. -/
  machineRenderer : Option Renderer := none
  entries : Array Entry := #[]

def Renderer.line (view : View) (e : Event) (renderer : Renderer) : Except Fault String := do
  let resolved ← e.resolve view
  match renderer with
  | .console => ConsoleLine.line view resolved
  | .json => JsonLine.line view resolved

namespace Journal

def admits (j : Journal) (level : Level) : Bool :=
  j.settings.any fun s => s.level.severity ≤ level.severity

/-- Writes an event, if its level is admitted. An event that cannot be issued is refused whatever
its level. -/
def write (j : Journal) (view : View) (renderer : Renderer) (e : Event) : Except Fault Journal :=
  match e.clash? with
  | some fault => .error fault
  | none =>
    if j.admits e.level then
      (renderer.line view e).map fun text =>
        { j with entries := j.entries.push ⟨e, renderer, text⟩ }
    else .ok j

/-- The logger of the machines is used. The first use after a configuration binds it; uses before
that leave it as it is. -/
def touch (j : Journal) : Journal :=
  match j.machineRenderer with
  | some _ => j
  | none => { j with machineRenderer := j.settings.map Settings.renderer }

/-- Logs an event of a machine, whose fields always have a text. -/
def machineEvent (j : Journal) (e : Event) : Journal :=
  let used := j.touch
  match used.machineRenderer with
  | none => used
  | some renderer =>
    match used.write (fun _ => default) renderer e with
    | .ok next => next
    | .error _ => used

/-- Logs an event of some other logger, which uses the latest configuration; none
when there is no configuration yet. -/
def emit? (j : Journal) (view : View) (e : Event) : Option (Except Fault Journal) :=
  j.settings.map fun s => j.write view s.renderer e

def configure (j : Journal) (s : Settings) : Journal :=
  let next := { j with settings := some s }
  match next.write (fun _ => default) s.renderer (.configured s.level s.renderer) with
  | .ok logged => logged
  | .error _ => next

end Journal

end StackMachine
