/-!
# Events of the log

What the program reports about itself while it runs.

## Main definitions

* `Severity` — how grave an event is
* `Event` — a message with named values, reported under a target
* `Event.line` — the line that stands for an event
-/

namespace TripWatch.Log

/-- How grave an event is. -/
inductive Severity where
  | error
  | warn
  | info
  | debug
  | trace
  deriving DecidableEq, Repr

namespace Severity

/-- How detailed reports of a severity are: the graver, the less. -/
def detail : Severity → Nat
  | error => 1
  | warn => 2
  | info => 3
  | debug => 4
  | trace => 5

/-- The name of a severity. -/
def name : Severity → String
  | error => "error"
  | warn => "warn"
  | info => "info"
  | debug => "debug"
  | trace => "trace"

/-- The mark of a severity on a line. -/
def mark : Severity → String
  | error => "ERROR"
  | warn => "WARN"
  | info => "INFO"
  | debug => "DEBUG"
  | trace => "TRACE"

/-- All severities, from the least detailed to the most. -/
def all : List Severity := [error, warn, info, debug, trace]

end Severity

/-- A report. -/
structure Event where
  /-- How grave it is. -/
  severity : Severity
  /-- The part of the program that it comes from. -/
  target : String
  /-- What has happened. -/
  message : String
  /-- Named values. -/
  fields : List (String × String) := []
  deriving DecidableEq, Repr

namespace Event

/-- The names of an event's fields; the message is one of them. -/
def fieldNames (e : Event) : List String := "message" :: e.fields.map Prod.fst

/-- An event without its target. -/
def line (e : Event) : String :=
  String.join (e.severity.mark :: " " :: e.message ::
    e.fields.map fun (name, value) => " " ++ name ++ "=" ++ value)

end Event

end TripWatch.Log
