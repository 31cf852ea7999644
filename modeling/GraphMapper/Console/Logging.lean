import GraphMapper.Store.World
import GraphMapper.Text.Upper

/-!
# Log levels of a command

Which entries of the log a user wants to see is a setting.  It is given as a word in any letter
case; two of the levels have a second name.
-/

namespace GraphMapper

/-- The weight from which on a user wants to see log entries. -/
inductive Verbosity where
  | critical
  | error
  | warning
  | info
  | debug
  | unset
  deriving DecidableEq

namespace Verbosity

/-- The name of a level. -/
def text : Verbosity → String
  | .critical => "CRITICAL"
  | .error => "ERROR"
  | .warning => "WARNING"
  | .info => "INFO"
  | .debug => "DEBUG"
  | .unset => "NOTSET"

/-- The level with a name. -/
def ofName? (name : String) : Option Verbosity :=
  if name = "CRITICAL" ∨ name = "FATAL" then some .critical
  else if name = "ERROR" then some .error
  else if name = "WARNING" ∨ name = "WARN" then some .warning
  else if name = "INFO" then some .info
  else if name = "DEBUG" then some .debug
  else if name = "NOTSET" then some .unset
  else none

/-- The level that a setting names. -/
def read (setting : String) : Except Fault Verbosity :=
  let name := Text.upper setting
  match ofName? name with
  | some level => .ok level
  | none => .error (.unknownLevel name)

/-- How much an entry must weigh to be shown. -/
def threshold : Verbosity → Nat
  | .critical => 50
  | .error => 40
  | .warning => 30
  | .info => 20
  | .debug => 10
  | .unset => 0

end Verbosity

namespace LogLevel

/-- How much an entry weighs. -/
def weight : LogLevel → Nat
  | .error => 40
  | .warning => 30
  | .info => 20
  | .debug => 10

/-- The name of a level. -/
def text : LogLevel → String
  | .error => "ERROR"
  | .warning => "WARNING"
  | .info => "INFO"
  | .debug => "DEBUG"

end LogLevel

/-- The entries of a log that a user wants to see. -/
def visibleEntries (verbosity : Verbosity) (log : List LogEntry) : List LogEntry :=
  log.filter fun entry => verbosity.threshold ≤ entry.level.weight

end GraphMapper
