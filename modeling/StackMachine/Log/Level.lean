/-! # Log levels and renderers

The levels of log events in order of severity, and the two ways of writing them. -/

namespace StackMachine

inductive Level where
  | debug
  | info
  | warning
  | error
  | critical
  deriving DecidableEq, Repr

namespace Level

/-- All levels, the mildest first. -/
def all : List Level := [.debug, .info, .warning, .error, .critical]

/-- The name of a level in settings. -/
def name : Level → String
  | .debug => "DEBUG"
  | .info => "INFO"
  | .warning => "WARNING"
  | .error => "ERROR"
  | .critical => "CRITICAL"

/-- The name of a level in log lines. -/
def label : Level → String
  | .debug => "debug"
  | .info => "info"
  | .warning => "warning"
  | .error => "error"
  | .critical => "critical"

def severity : Level → Nat
  | .debug => 10
  | .info => 20
  | .warning => 30
  | .error => 40
  | .critical => 50

def ofName? (name : String) : Option Level := all.find? fun l => l.name == name

def ofLabel? (label : String) : Option Level := all.find? fun l => l.label == label

end Level

inductive Renderer where
  | console
  | json
  deriving DecidableEq, Repr

namespace Renderer

def all : List Renderer := [.console, .json]

def name : Renderer → String
  | .console => "console"
  | .json => "json"

def ofName? (name : String) : Option Renderer := all.find? fun r => r.name == name

end Renderer

end StackMachine
