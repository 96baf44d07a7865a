/-!
# Severities of log messages
-/

namespace AgentFeed

/-- The least severity that is logged. -/
inductive LogLevel where
  | off
  | error
  | warn
  | info
  | debug
  | trace
deriving DecidableEq, Repr

namespace LogLevel

/-- The name of a severity. -/
def name : LogLevel → String
  | .off => "OFF"
  | .error => "ERROR"
  | .warn => "WARN"
  | .info => "INFO"
  | .debug => "DEBUG"
  | .trace => "TRACE"

/-- All severities. -/
def all : List LogLevel :=
  [.off, .error, .warn, .info, .debug, .trace]

/-- The severity with a name, in letters of either case. -/
def ofName? (name : String) : Option LogLevel :=
  all.find? fun l => l.name.toList == name.toList.map Char.toUpper

end LogLevel

end AgentFeed
