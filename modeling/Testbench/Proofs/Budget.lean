import Testbench.Proofs.Calls

/-!
# How long a run can take

The loop of a run has no counter of its own: the trace goes silent but never stops, and the watchdog
starts again after every retirement.  What bounds it is a budget (`budget`) made of both.  While
the trace has cycles to show, the budget is those cycles and a full idle stretch; behind its end it
is what is left of the stretch.  Every tick that does not stop the run uses up some of it
(`budget_tick`), from any state whatever, so a run never takes more ticks than the budget
(`runLength_le_budget`).  A cap on cycles bounds it further (`runLength_le_cap`).
-/

namespace Testbench

namespace Bench

variable {trace : Trace} {config : Config} {b : Bench} {stop : Bench → Bool}

/-- A bound on the ticks that a run can still take. -/
def budget (b : Bench) : Nat :=
  if b.owed = 0 then b.patience + 1 else b.owed + b.watchdog.limit + 1

theorem budget_pos (b : Bench) : 1 ≤ b.budget := by
  unfold budget
  split <;> omega

theorem budget_le (b : Bench) : b.budget ≤ b.owed + b.watchdog.limit + 1 := by
  unfold budget patience
  split <;> omega

/-- **A tick that does not end the run uses up some of the budget.** -/
theorem budget_tick (h : b.tick.reason? = none) : b.tick.budget < b.budget := by
  have hlimit : b.tick.watchdog.limit = b.watchdog.limit := by
    rw [watchdog_tick, Watchdog.limit_observe]
  rcases Nat.eq_zero_or_pos b.owed with hzero | hpos
  · -- behind the end of the trace the idle stretch goes on
    obtain ⟨hnext, hidle⟩ := tick_of_owed_eq_zero hzero
    rw [budget, if_pos hnext, budget, if_pos hzero]
    exact Nat.succ_lt_succ (patience_tick_lt hidle (reason?_eq_none_iff.1 h).2.1)
  · have hlt := owed_tick_lt hpos
    have hle := b.tick.budget_le
    have hnow : b.budget = b.owed + b.watchdog.limit + 1 := if_neg (by omega)
    omega

theorem runLength_le_budget (stop : Bench → Bool) (b : Bench) : b.runLength stop ≤ b.budget := by
  fun_induction runLength stop b with
  | case1 b ho => exact Nat.zero_le _
  | case2 b ho reason hr => exact b.budget_pos
  | case3 b ho hr hstop => exact b.budget_pos
  | case4 b ho hr hstop ih =>
      have hlt := budget_tick hr
      omega

/-- A run under a cap ends when the cap is reached, or with the first tick if it has been. -/
theorem runLength_le_cap {cap : Nat} (stop : Bench → Bool) (b : Bench)
    (h : b.maxCycles = some cap) : b.runLength stop ≤ max 1 (cap - b.cycles) := by
  fun_induction runLength stop b with
  | case1 b ho => exact Nat.zero_le _
  | case2 b ho reason hr => exact Nat.le_max_left _ _
  | case3 b ho hr hstop => exact Nat.le_max_left _ _
  | case4 b ho hr hstop ih =>
      have hcap : b.tick.cycles < cap := (reason?_eq_none_iff.1 hr).2.2 cap h
      have hnext := ih h
      rw [cycles_tick] at hcap hnext
      omega

/-- The cycles owed by a bench that is not held in reset are those of the frames from the current
one on, less the cycles for which that one has been held. -/
theorem Wired.owed_le (h : Wired trace config b) :
    b.owed ≤ Trace.span b.device.pending - b.device.held := by
  unfold owed
  split
  · exact Nat.zero_le _
  · exact Nat.le_of_eq (Replay.cyclesLeft_eq h.tracks.inPlace)

/-- **Every run ends, and this is how soon.**  From whatever state a history of calls has led to, a
run takes at least one tick and at most the cycles of the trace still to be replayed, a full idle
stretch and one more; under a cap, at most what the cap leaves, or one tick.  It ends with a
verdict, for `finish` is the run with an outcome. -/
theorem run_ends_within_budget {device : Replay} (hd : Replay.Driven trace device)
    (hb : Around device config b) (history : List Call) :
    ∃ n reason, (after history b).run = (ticks n (after history b)).finish reason
      ∧ 1 ≤ n
      ∧ n ≤ Trace.span (after history b).device.pending - (after history b).device.held
          + config.general.stallLimit + 1
      ∧ ∀ cap, config.general.maxCycles = some cap →
          n ≤ max 1 (cap - (after history b).cycles) := by
  have hw := (hb.wired hd).after history
  obtain ⟨reason, hends, hrun⟩ := endsAt_runLength (fun _ => false) hw.timely
  refine ⟨_, reason, hrun, hends.pos, ?_, ?_⟩
  · have hlength := runLength_le_budget (fun _ => false) (after history b)
    have hbudget := (after history b).budget_le
    have howed := hw.owed_le
    have hlimit := hw.limit
    omega
  · intro cap hcap
    exact runLength_le_cap _ _ (by rw [hw.maxCycles, hcap])

/-- The small bench has four cycles left after three ticks: the budget of a run is nine ticks, and
its cap leaves seven. -/
theorem budget_sample : ∃ n reason,
    (after [.reset, .tick, .tick, .tick] Sample.bench).run
        = (ticks n (after [.reset, .tick, .tick, .tick] Sample.bench)).finish reason
      ∧ 1 ≤ n ∧ n ≤ 9 ∧ n ≤ 7 := by
  obtain ⟨n, reason, hrun, hpos, hbudget, hcap⟩ := run_ends_within_budget (.new Sample.new_device)
    Sample.around_bench [.reset, .tick, .tick, .tick]
  exact ⟨n, reason, hrun, hpos, hbudget, hcap 10 rfl⟩

end Bench

end Testbench
