/-!
# Log levels

How much the command line logs: the more often it is asked to be verbose, the finer the level, and
from the second time on the source of each message is shown.
-/
namespace Labeling

/-- The levels of messages, coarsest first. -/
inductive LogLevel where
  /-- Warnings and errors. -/
  | warn
  /-- What is done. -/
  | info
  /-- How it is done. -/
  | debug
  /-- Everything. -/
  | trace
deriving DecidableEq, Repr

/-- The name of a level. -/
def LogLevel.name : LogLevel → String
  | .warn => "WARN"
  | .info => "INFO"
  | .debug => "DEBUG"
  | .trace => "TRACE"

/-- What is logged and how. -/
structure LogConfig where
  /-- The finest level that is logged. -/
  level : LogLevel := .warn
  /-- Whether the source of a message is shown. -/
  withTarget : Bool := false
  /-- Whether messages are coloured. -/
  withColour : Bool := true
deriving DecidableEq, Repr

/-- The configuration for a number of requests to be verbose. -/
def LogConfig.ofVerbosity (verbosity : Nat) : LogConfig where
  level := match verbosity with
    | 0 => .warn
    | 1 => .info
    | 2 => .debug
    | _ => .trace
  withTarget := 2 ≤ verbosity

end Labeling
