/-!
# Log events

An event has a level, a message and named fields, and may stand inside a span whose fields say what
was being worked on.

Reported are the keys that a queue refuses, the resources that are ignored, the sets that are put into
effect, and the work of the consumer.  Traces of single updates (`Applied`, `Deleted`) are left out, and
so are two notes of managers, that an aggregate was derived (`Recomputed aggregate`) and that a
deployment is not available (`Deployment unavailable`).  What they say is seen in the records and in the
conditions.
-/

namespace StatusRouter

/-- How much an event matters. -/
inductive LogLevel where
  | debug
  | info
  | warn
  | error
  deriving DecidableEq

/-- The name of a level. -/
def LogLevel.text : LogLevel → String
  | debug => "DEBUG"
  | info => "INFO"
  | warn => "WARN"
  | error => "ERROR"

/-- Something worth telling. -/
structure LogEvent where
  level : LogLevel
  message : String
  fields : List (String × String)
  /-- The fields of the span around the event; empty outside a span. -/
  span : List (String × String)
  deriving DecidableEq

namespace LogEvent

/-- An event outside a span. -/
def plain (level : LogLevel) (message : String) (fields : List (String × String)) : LogEvent :=
  ⟨level, message, fields, []⟩

/-- The event inside a span. -/
def inside (event : LogEvent) (span : List (String × String)) : LogEvent :=
  { event with span := span }

end LogEvent

end StatusRouter
