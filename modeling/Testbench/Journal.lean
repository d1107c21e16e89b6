/-!
# The journal

Besides its results the bench leaves a journal: events of a severity, with a message and named
fields.  Nothing in the bench depends on the journal.  Each component says which events an operation
raises, as a function of the state before it, and the events of a run are put together from those.
-/

namespace Testbench

/-- How severe an event is. -/
inductive Severity where
  | warn
  | info
  | debug
  | trace
  deriving DecidableEq, Repr, Inhabited

namespace Severity

/-- The rank of a severity; the most severe has rank 0. -/
def rank : Severity → Nat
  | .warn => 0
  | .info => 1
  | .debug => 2
  | .trace => 3

/-- The name printed for a severity. -/
def label : Severity → String
  | .warn => "WARN"
  | .info => "INFO"
  | .debug => "DEBUG"
  | .trace => "TRACE"

end Severity

/-- One event of the journal. -/
structure Event where
  /-- How severe the event is. -/
  severity : Severity
  /-- What happened. -/
  message : String
  /-- Named details, printed as text. -/
  fields : List (String × String) := []
  deriving DecidableEq, Repr, Inhabited

namespace Event

/-- A warning without fields. -/
def warning (message : String) : Event := ⟨.warn, message, []⟩

/-- Is the event at least as severe as `threshold`? -/
def reaches (threshold : Severity) (e : Event) : Bool := e.severity.rank ≤ threshold.rank

end Event

end Testbench
