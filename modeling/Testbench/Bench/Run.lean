import Testbench.Bench.Basic
import Testbench.Outcome

/-!
# Runs

A run takes ticks until something ends it.  After each tick, in this order, the run looks at the end
of the program, the watchdog, the cap on cycles and last at what the caller asks for.  At least one
tick is taken, and the serial port is flushed when the run has ended.

Every run ends, and that is how `runUntil` is defined.  In each tick the trace has one cycle less to
show, or it has none left (or reset is held) and nothing retires, and then the watchdog comes one
step nearer to its limit (`progress_tick`).
-/

namespace Testbench

/-- A bench after a run.  The outcome is missing if the run broke off before a tick whose latency
would have overflowed. -/
structure Run where
  /-- How the run ended. -/
  outcome : Except Overflow Outcome
  /-- The bench as the run left it. -/
  bench : Bench

namespace Bench

/-- The reason to end a run that the last tick gives, apart from what the caller asks for. -/
def reason? (b : Bench) : Option Outcome.Reason :=
  match b.verdict.ending with
  | some .success => some .success
  | some .error => some .error
  | none =>
      if b.verdict.stalled then some .stall
      else if b.maxCycles.any (· ≤ b.cycles) then some .cycleLimit
      else none

/-- A tick gives no reason to stop if it found no ending and no stall and left the cap unreached. -/
theorem reason?_eq_none_iff {b : Bench} : b.reason? = none ↔ b.verdict.ending = none
    ∧ b.verdict.stalled = false ∧ ∀ cap, b.maxCycles = some cap → b.cycles < cap := by
  unfold reason?
  cases b.verdict.ending with
  | some ending => cases ending <;> simp
  | none =>
      cases b.verdict.stalled with
      | true => simp
      | false =>
          cases b.maxCycles with
          | none => simp
          | some cap => simp

/-- The bench at the end of a run: the serial port is flushed. -/
def flushUart (b : Bench) : Bench := { b with uart := b.uart.flush }

/-- A run that ends here. -/
def finish (b : Bench) (reason : Outcome.Reason) : Run :=
  ⟨.ok ⟨reason, b.halfPhases, b.cycles⟩, b.flushUart⟩

/-! ## Every run ends -/

/-- The cycles that the trace still has to show, if reset does not hold them back. -/
def owed (b : Bench) : Nat := if b.device.resetting then 0 else b.device.remaining

/-- The idle ticks before the watchdog is at its limit. -/
def patience (b : Bench) : Nat := b.watchdog.limit - b.watchdog.count

theorem watchdog_tick (b : Bench) :
    b.tick.watchdog = b.watchdog.observe (clockDevice b.device).signals.retirement.retiresAny := rfl

theorem stalled_tick (b : Bench) :
    b.tick.verdict.stalled
      = b.watchdog.trips (clockDevice b.device).signals.retirement.retiresAny := rfl

theorem owed_tick (b : Bench) :
    b.tick.owed = if b.device.resetting then 0 else (clockDevice b.device).remaining := by
  have h : b.tick.device.resetting = b.device.resetting := by
    show (clockDevice b.device).resetting = _
    simp [clockDevice, Replay.setClock]
  rw [owed, h]
  rfl

/-- With reset released a tick shows one cycle of what the trace has left after the first edge. -/
theorem owed_tick_of_released {b : Bench} (hr : b.device.resetting = false) :
    b.tick.owed = ((b.device.setClock true).eval).remaining - 1 := by
  have hedge : ((b.device.setClock true).eval).resetting = false := by
    simp [Replay.setClock, hr]
  rw [owed_tick, if_neg (by simp [hr]), clockDevice, Replay.remaining_cycle hedge]

/-- That is no more than it had before, even if the first edge was a rising one. -/
theorem remaining_eval_le_owed {b : Bench} (hr : b.device.resetting = false) :
    ((b.device.setClock true).eval).remaining ≤ b.owed := by
  have hle : ((b.device.setClock true).eval).remaining ≤ b.device.remaining :=
    Replay.remaining_eval_le (r := b.device.setClock true) hr
  rw [owed, if_neg (by simp [hr])]
  exact hle

/-- While the trace has cycles to show, a tick shows at least one of them. -/
theorem owed_tick_lt {b : Bench} (h : 0 < b.owed) : b.tick.owed < b.owed := by
  have hr : b.device.resetting = false := by
    cases hr : b.device.resetting with
    | false => rfl
    | true =>
        rw [owed, if_pos hr] at h
        omega
  have hnext := owed_tick_of_released hr
  have hle := remaining_eval_le_owed hr
  omega

/-- When the trace has none, because it is used up or held in reset, a tick retires nothing. -/
theorem tick_of_owed_eq_zero {b : Bench} (h : b.owed = 0) :
    b.tick.owed = 0 ∧ (clockDevice b.device).signals.retirement.retiresAny = false := by
  cases hr : b.device.resetting with
  | true =>
      exact ⟨by rw [owed_tick, if_pos hr],
        Replay.retiresAny_cycle_of_resetting (by simp [Replay.setClock, hr])⟩
  | false =>
      have hedge : ((b.device.setClock true).eval).resetting = false := by
        simp [Replay.setClock, hr]
      have hle := remaining_eval_le_owed hr
      have hzero : ((b.device.setClock true).eval).remaining = 0 := by omega
      refine ⟨?_, Replay.retiresAny_cycle_of_remaining_eq_zero hedge hzero⟩
      rw [owed_tick_of_released hr, hzero]

/-- An idle tick that does not trip the watchdog brings it one step nearer to its limit. -/
theorem patience_tick_lt {b : Bench}
    (hidle : (clockDevice b.device).signals.retirement.retiresAny = false)
    (hstalled : b.tick.verdict.stalled = false) : b.tick.patience < b.patience := by
  have hlt : ¬ b.watchdog.limit ≤ b.watchdog.count := by
    rw [stalled_tick, hidle] at hstalled
    rw [← Watchdog.trips_idle_iff, hstalled]
    exact Bool.false_ne_true
  unfold patience
  rw [watchdog_tick, hidle, Watchdog.limit_observe, Watchdog.count_observe_idle, if_neg hlt]
  omega

/-- A tick that does not trip the watchdog brings the run nearer to its end: either the trace has
less to show, or it has nothing to show and the watchdog has less patience. -/
theorem progress_tick {b : Bench} (h : b.tick.reason? = none) :
    Prod.Lex (· < ·) (· < ·) (b.tick.owed, b.tick.patience) (b.owed, b.patience) := by
  rcases Nat.eq_zero_or_pos b.owed with hzero | hpos
  · obtain ⟨hnext, hidle⟩ := tick_of_owed_eq_zero hzero
    rw [hnext, hzero]
    exact Prod.Lex.right _ (patience_tick_lt hidle (reason?_eq_none_iff.1 h).2.1)
  · exact Prod.Lex.left _ _ (owed_tick_lt hpos)

/-- Takes ticks until something ends the run; `stop` is what the caller asks for. -/
def runUntil (stop : Bench → Bool) (b : Bench) : Run :=
  if b.overflows then ⟨.error .sum, b⟩
  else
    let next := b.tick
    match _h : next.reason? with
    | some reason => next.finish reason
    | none => if stop next then next.finish .predicate else next.runUntil stop
  termination_by (b.owed, b.patience)
  decreasing_by exact progress_tick _h

/-- Takes ticks until the program ends, the watchdog trips or the cap is reached. -/
def run (b : Bench) : Run := b.runUntil fun _ => false

/-! ## What the journal says -/

/-- The events of the end of a run. -/
def finishEvents (b : Bench) (outcome : Outcome) : List Event :=
  b.uart.flushEvents
    ++ [{ severity := if outcome.reason.isFailure then .warn else .info
          message := "run ended"
          fields := [("reason", outcome.reason.describe), ("cycles", toString outcome.cycles)] }]

/-- The events of a run that led from one state to another. -/
def runEvents (before : Bench) (run : Run) : List Event :=
  let taken := run.bench.fullCycles - before.fullCycles
  ticksEvents taken before
    ++ match run.outcome with
      | .ok outcome => (ticks taken before).finishEvents outcome
      | .error _ => []

end Bench

end Testbench
