import StackMachine.Log.Event

/-! # Events as coloured lines

Time, level, name and logger stand in columns, followed by the fields in the
order of their names. The traces of a stack or an exception stand below.

This is the form of structlog's ConsoleRenderer, which is not a part of the program. It is
assumed that it uses its colours and widths of columns everywhere, that it breaks no
line except in front of a trace, and that it refuses an event only for a field without
a text or a trace that is no text. -/

namespace StackMachine.ConsoleLine

/-- The start of a control sequence, up to its parameter. -/
def escape : String := "\x1b["

def reset : String := escape ++ "0m"

def bold : String := escape ++ "1m"

def styled (style : String) (s : String) : String := escape ++ style ++ "m" ++ s ++ reset

/-- The colour of a level: green, yellow or red. -/
def colour : Level → String
  | .debug | .info => escape ++ "32m"
  | .warning => escape ++ "33m"
  | .error | .critical => escape ++ "31m"

/-- Whether a character makes a text ambiguous unless it is quoted. -/
def needsQuotes (c : Char) : Bool :=
  c == ' ' || c == '\t' || c == '\r' || c == '\n' || c == '=' || c == '\x22' || c == '\x27'

/-- The value of a field: a plain text as it is, anything else by its literal. -/
def value (view : View) (v : Value) : Except Fault String :=
  match v with
  | .text s => .ok (if s.toList.any needsQuotes then Text.quoted s else s)
  | v => (v.literal? view).elim (.error .digitLimit) .ok

def field (view : View) (name : String) (v : Value) : Except Fault String :=
  (value view v).map fun text => styled "36" name ++ "=" ++ styled "35" text

def fields (view : View) : Fields → Except Fault (List String)
  | [] => .ok []
  | (name, v) :: rest => do
    let first ← field view name v
    let others ← fields view rest
    return first :: others

/-- The names of the fields that do not stand among the others: those with columns of their own,
and the traces. -/
def apart : List String :=
  ["", "timestamp", "level", "event", "logger", "logger_name", "stack", "exception"]

def levelColumn (level : Level) : String :=
  "[" ++ colour level ++ bold ++ Text.padRight 9 level.label ++ reset ++ "]"

def nameColumn (name : String) : String := bold ++ Text.padRight 30 name ++ reset

def loggerColumn (name : String) : String :=
  "[" ++ reset ++ bold ++ escape ++ "34m" ++ name ++ reset ++ "]" ++ reset

/-- The columns of a second name of the logger, if there is one. -/
def secondLogger (view : View) (all : Fields) : Except Fault (List String) :=
  match all.lookup "logger_name" with
  | none => .ok []
  | some v => (v.display? view).elim (.error .digitLimit) fun name => .ok [loggerColumn name]

/-- All columns, with the fields after them. A field without a name stands first. -/
def columns (view : View) (e : Event) (all : Fields) : Except Fault (List String) := do
  let nameless ← fields view (all.filter fun f => f.1 == "")
  let second ← secondLogger view all
  let others ← fields view ((all.filter fun f => !apart.contains f.1).mergeSort
    fun f g => f.1 ≤ g.1)
  return nameless ++ [styled "2" Event.timestamp, levelColumn e.level, nameColumn e.name,
    loggerColumn e.logger] ++ second ++ others

/-- A trace on lines of its own; one that is nothing is not there. -/
def trace : Option Value → Except Fault String
  | none => .ok ""
  | some .null => .ok ""
  | some (.text s) => .ok ("\n" ++ s)
  | some v => .error (.notText v.qualifiedKind)

def rule : String := "\n\n" ++ Text.repeated '=' 79 ++ "\n"

def traces (stack exception : Option Value) : Except Fault String := do
  let first ← trace stack
  let second ← trace exception
  return first ++ (if first ≠ "" ∧ second ≠ "" then rule else "") ++ second

def line (view : View) (e : Event) : Except Fault String := do
  let all := e.allFields
  let shown ← columns view e all
  let below ← traces (all.lookup "stack") (all.lookup "exception")
  return Text.trimSpacesRight (Text.joinWith " " shown) ++ below

end StackMachine.ConsoleLine
