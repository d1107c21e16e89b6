/-!
# The stall watchdog

The watchdog counts consecutive cycles in which nothing retired.  A cycle with a retirement clears
the count.  When the count would exceed the limit the watchdog trips once and counts from zero
again, so the count never exceeds the limit (`count_observe_le`).
-/

namespace Testbench

/-- A counter of consecutive idle cycles. -/
structure Watchdog where
  /-- The longest idle stretch that is put up with. -/
  limit : Nat
  /-- The idle cycles since the last retirement, trip or reset. -/
  count : Nat := 0
  deriving DecidableEq, Repr, Inhabited

namespace Watchdog

/-- Does the watchdog trip in a cycle with or without progress? -/
def trips (w : Watchdog) (progress : Bool) : Bool := !progress && decide (w.limit ≤ w.count)

/-- The watchdog after a cycle with or without progress. -/
def observe (w : Watchdog) (progress : Bool) : Watchdog :=
  { w with count := if progress || w.trips progress then 0 else w.count + 1 }

/-- Clears the idle count. -/
def reset (w : Watchdog) : Watchdog := { w with count := 0 }

@[simp] theorem limit_observe (w : Watchdog) (progress : Bool) :
    (w.observe progress).limit = w.limit := rfl

@[simp] theorem limit_reset (w : Watchdog) : w.reset.limit = w.limit := rfl

@[simp] theorem count_reset (w : Watchdog) : w.reset.count = 0 := rfl

@[simp] theorem trips_progress (w : Watchdog) : w.trips true = false := rfl

@[simp] theorem count_observe_progress (w : Watchdog) : (w.observe true).count = 0 := rfl

theorem trips_idle_iff (w : Watchdog) : w.trips false = true ↔ w.limit ≤ w.count := by
  simp [trips]

/-- An idle cycle adds one to the count or, at the limit, brings it back to zero. -/
theorem count_observe_idle (w : Watchdog) :
    (w.observe false).count = if w.limit ≤ w.count then 0 else w.count + 1 := by
  simp [observe, trips]

theorem count_observe_le (w : Watchdog) (progress : Bool) :
    (w.observe progress).count ≤ w.limit := by
  cases progress with
  | true => simp
  | false =>
      rw [count_observe_idle]
      split <;> omega

end Watchdog

end Testbench
