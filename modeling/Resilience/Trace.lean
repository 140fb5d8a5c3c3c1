/-
# Trace lines

What the library does is told in lines: events with a level, a message and named fields, and the
beginnings of spans.

* `TraceLine`: a line.
-/

namespace Resilience

/-- How important an event is. -/
inductive TraceLevel where
  | debug
  | info
  | warn
deriving DecidableEq

/-- The name of the level. -/
def TraceLevel.label : TraceLevel → String
  | .debug => "DEBUG"
  | .info => "INFO"
  | .warn => "WARN"

/-- A line of a trace. -/
inductive TraceLine where
  | event (level : TraceLevel) (message : String) (fields : List (String × String))
  | span (name : String) (fields : List (String × String))
deriving DecidableEq

namespace TraceLine

/-- A line at the lowest level. -/
def debug (message : String) (fields : List (String × String)) : TraceLine :=
  .event .debug message fields

/-- A line at the middle level. -/
def info (message : String) (fields : List (String × String)) : TraceLine :=
  .event .info message fields

/-- A line at the highest level. -/
def warn (message : String) (fields : List (String × String)) : TraceLine :=
  .event .warn message fields

end TraceLine

end Resilience
