/-!
# Outcomes

A run ends for one of five reasons.  Only the end of the program counts as a success; an error, a
stall and the cap on cycles are failures, and a run that its caller stopped is neither.
-/

namespace Testbench

namespace Outcome

/-- Why a run ended. -/
inductive Reason where
  /-- The success sentinel has retired and the store queue is empty. -/
  | success
  /-- The error sentinel retired. -/
  | error
  /-- Nothing retired for longer than the limit. -/
  | stall
  /-- The cap on cycles was reached. -/
  | cycleLimit
  /-- The caller asked to stop. -/
  | predicate
  deriving DecidableEq, Repr, Inhabited

namespace Reason

/-- Did the run succeed? -/
def isSuccess : Reason → Bool
  | .success => true
  | _ => false

/-- Did the run fail?  A run that the caller stopped neither succeeded nor failed. -/
def isFailure : Reason → Bool
  | .error | .stall | .cycleLimit => true
  | .success | .predicate => false

/-- The name of a reason in documents. -/
def label : Reason → String
  | .success => "Success"
  | .error => "Error"
  | .stall => "Stall"
  | .cycleLimit => "CycleLimit"
  | .predicate => "Predicate"

/-- A reason in words. -/
def describe : Reason → String
  | .success => "success"
  | .error => "error sentinel"
  | .stall => "stall"
  | .cycleLimit => "cycle limit"
  | .predicate => "stopped by caller"

end Reason

end Outcome

/-- How a run ended. -/
structure Outcome where
  /-- The reason. -/
  reason : Outcome.Reason
  /-- The half cycles of the clock since the beginning. -/
  halfPhases : Nat
  /-- The ticks since reset was last released. -/
  cycles : Nat
  deriving DecidableEq, Repr, Inhabited

end Testbench
