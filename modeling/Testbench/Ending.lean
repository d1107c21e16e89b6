import Testbench.Sentinel

/-!
# How a program ends

The error sentinel ends the program in the cycle it retires.  The success sentinel is remembered,
and the program ends in the first cycle from then on in which the device's store queue is empty.
An error in the same cycle wins, and it also keeps a success of that very cycle from being
remembered.
-/

namespace Testbench

/-- How a program ended. -/
inductive Ending where
  /-- The error sentinel retired. -/
  | error
  /-- The success sentinel has retired and the store queue is empty. -/
  | success
  deriving DecidableEq, Repr, Inhabited

/-- Watches for the end of the program. -/
structure EndDetector where
  /-- The success sentinel has retired since the last reset. -/
  programComplete : Bool := false
  deriving DecidableEq, Repr, Inhabited

namespace EndDetector

/-- The detector after a cycle's retirements. -/
def observe (d : EndDetector) (row : Retirement) : EndDetector :=
  if row.retires .errorTerminate then d
  else ⟨d.programComplete || row.retires .successTerminate⟩

/-- The verdict on a cycle: its retirements, and whether the store queue is empty after it. -/
def verdict (d : EndDetector) (row : Retirement) (storeQueueEmpty : Bool) : Option Ending :=
  if row.retires .errorTerminate then some .error
  else if (d.observe row).programComplete && storeQueueEmpty then some .success
  else none

/-- Forgets a remembered success. -/
def reset (_ : EndDetector) : EndDetector := ⟨false⟩

theorem verdict_eq_error_iff {d : EndDetector} {row : Retirement} {storeQueueEmpty : Bool} :
    d.verdict row storeQueueEmpty = some .error ↔ row.retires .errorTerminate = true := by
  unfold verdict
  split
  · simp_all
  · split <;> simp_all

/-- A remembered success is never forgotten by a cycle. -/
theorem programComplete_observe_of_programComplete {d : EndDetector} (h : d.programComplete = true)
    (row : Retirement) : (d.observe row).programComplete = true := by
  unfold observe
  split <;> simp_all

end EndDetector

end Testbench
