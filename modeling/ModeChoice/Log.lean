/-!
# Log lines

What a run says while it works.  Log lines change nothing about a run.
-/

namespace ModeChoice

/-- How much a log line matters. -/
inductive LogLevel where
  | trace
  | debug
  | warn
  deriving DecidableEq, Repr

/-- The name of a level. -/
def LogLevel.label : LogLevel → String
  | .trace => "TRACE"
  | .debug => "DEBUG"
  | .warn => "WARN"

/-- One line of the log. -/
structure LogLine where
  level : LogLevel
  message : String
  deriving DecidableEq, Repr

/-- The line with its level in front. -/
def LogLine.text (line : LogLine) : String :=
  line.level.label ++ " " ++ line.message

end ModeChoice
