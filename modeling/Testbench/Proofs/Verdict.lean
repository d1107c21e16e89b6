import Mathlib.Logic.Basic
import Testbench.Proofs.Calls
import Testbench.Proofs.IdleStretch

/-!
# The verdict on a trace

Whether and how a run ends can be read off the expanded trace without running anything.  Cycle `n`
ends the run with an error if it carries the error sentinel, with success if the success sentinel
has come up and the store queue is empty, with a stall if it is the end of a silence longer than the
limit, and at the cap.  The first of these that holds is the verdict on the cycle (`verdictAt?`).

A run from a fresh reset ends in the first cycle that has a verdict, and with that verdict
(`run_eq_verdict`).  Behind it stand two closed forms: the detector remembers a success exactly if
one came up in a cycle without an error (`programComplete_ticks`), and the count of the watchdog,
which starts again when it trips, is the length of the present silence modulo the longest stretch
(`count_ticks`).
-/

namespace Testbench

namespace Trace

variable {frames : List Frame} {limit : Nat} {cap : Option Nat}

/-! ## What a trace says about a cycle -/

/-- Cycle `n` carries the error sentinel. -/
def ErrorAt (frames : List Frame) (n : Nat) : Prop :=
  (frameAt frames n).carries .errorTerminate = true

/-- The success sentinel has come up by cycle `n`, and there the store queue is empty. -/
def SuccessAt (frames : List Frame) (n : Nat) : Prop :=
  (∃ j ≤ n, 1 ≤ j ∧ (frameAt frames j).carries .successTerminate = true)
    ∧ (frameAt frames n).storeQueueEmpty = true

/-- Nothing has retired in cycle `n` and the `limit` cycles before it. -/
def StallAt (frames : List Frame) (limit n : Nat) : Prop :=
  limit + 1 ≤ n ∧ ∀ j ≤ n, n - limit ≤ j → (frameAt frames j).retiresAny = false

/-- There is a cap, and cycle `n` has reached it. -/
def CapAt (cap : Option Nat) (n : Nat) : Prop := ∃ c ∈ cap, c ≤ n

instance (frames : List Frame) (n : Nat) : Decidable (ErrorAt frames n) :=
  inferInstanceAs (Decidable (_ = true))

instance (frames : List Frame) (n : Nat) : Decidable (SuccessAt frames n) :=
  inferInstanceAs (Decidable (_ ∧ _))

instance (frames : List Frame) (limit n : Nat) : Decidable (StallAt frames limit n) :=
  inferInstanceAs (Decidable (_ ∧ _))

instance (cap : Option Nat) (n : Nat) : Decidable (CapAt cap n) :=
  decidable_of_iff (cap.any (· ≤ n) = true) (by cases cap <;> simp [CapAt])

/-- The verdict on a cycle; an error comes before a success, a success before a stall and a stall
before the cap. -/
def verdictAt? (frames : List Frame) (limit : Nat) (cap : Option Nat) (n : Nat) :
    Option Outcome.Reason :=
  if ErrorAt frames n then some .error
  else if SuccessAt frames n then some .success
  else if StallAt frames limit n then some .stall
  else if CapAt cap n then some .cycleLimit
  else none

/-! ## Silence -/

/-- The number of cycles up to cycle `n` in which nothing has retired, without a break. -/
def idleRun (frames : List Frame) : Nat → Nat
  | 0 => 0
  | n + 1 => if (frameAt frames (n + 1)).retiresAny then 0 else idleRun frames n + 1

theorem le_idleRun_iff {m n : Nat} : m ≤ idleRun frames n ↔
    m ≤ n ∧ ∀ j ≤ n, n - m < j → (frameAt frames j).retiresAny = false := by
  induction n generalizing m with
  | zero =>
      rw [idleRun]
      constructor
      · intro h
        exact ⟨h, fun j hj hlt => by omega⟩
      · exact fun h => h.1
  | succ n ih =>
      rw [idleRun]
      split
      · rename_i hbusy
        constructor
        · intro h
          exact ⟨by omega, fun j hj hlt => by omega⟩
        · rintro ⟨-, h⟩
          rcases Nat.eq_zero_or_pos m with rfl | hpos
          · exact Nat.le_refl _
          · have hidle := h (n + 1) (Nat.le_refl _) (by omega)
            rw [hbusy] at hidle
            cases hidle
      · rename_i hidle
        cases m with
        | zero => exact ⟨fun _ => ⟨by omega, fun j hj hlt => by omega⟩, fun _ => Nat.zero_le _⟩
        | succ m =>
            rw [Nat.succ_le_succ_iff, ih]
            constructor
            · rintro ⟨hle, h⟩
              refine ⟨by omega, fun j hj hlt => ?_⟩
              rcases Nat.lt_or_ge n j with hlast | hearlier
              · obtain rfl : j = n + 1 := by omega
                simpa using hidle
              · exact h j hearlier (by omega)
            · rintro ⟨hle, h⟩
              exact ⟨by omega, fun j hj hlt => h j (by omega) (by omega)⟩

/-- A stall is a silence longer than the limit. -/
theorem stallAt_iff {n : Nat} : StallAt frames limit n ↔ limit < idleRun frames n := by
  show _ ↔ limit + 1 ≤ idleRun frames n
  rw [le_idleRun_iff, StallAt]
  refine and_congr_right fun hle => ?_
  constructor
  · intro h j hj hlt
    exact h j hj (by omega)
  · intro h j hj hle'
    exact h j hj (by omega)

theorem verdictAt?_eq_none_iff {n : Nat} : verdictAt? frames limit cap n = none ↔
    ¬ ErrorAt frames n ∧ ¬ SuccessAt frames n ∧ ¬ StallAt frames limit n ∧ ¬ CapAt cap n := by
  unfold verdictAt?
  split
  · simp_all
  · split
    · simp_all
    · split
      · simp_all
      · split <;> simp_all

/-- The caller has no part in the verdict on a cycle. -/
theorem verdictAt?_ne_predicate {n : Nat} :
    verdictAt? frames limit cap n ≠ some .predicate := by
  unfold verdictAt?
  split
  · simp
  · split
    · simp
    · split
      · simp
      · split <;> simp

end Trace

namespace Bench

open Trace

variable {trace : Trace} {config : Config} {b : Bench}

/-! ## What a run has seen after some ticks -/

theorem carries_ticks (hw : Wired trace config b) (hr : Ready b) (n : Nat) (s : Sentinel) :
    (ticks n b).device.signals.retirement.retires s = (frameAt trace.frames n).carries s := by
  rw [signals_ticks hw hr, Signals.retires_ofFrame (hw.sound.length_frameAt_le n).1]

theorem retiresAny_ticks (hw : Wired trace config b) (hr : Ready b) (n : Nat) :
    (ticks n b).device.signals.retirement.retiresAny = (frameAt trace.frames n).retiresAny := by
  rw [signals_ticks hw hr, Signals.retiresAny_ofFrame (hw.sound.length_frameAt_le n).1]

/-- The detector remembers a success exactly if one came up in a cycle without an error. -/
theorem programComplete_ticks (hw : Wired trace config b) (hr : Ready b) (n : Nat) :
    (ticks n b).detector.programComplete = true ↔
      ∃ j ≤ n, 1 ≤ j ∧ (frameAt trace.frames j).carries .successTerminate = true
        ∧ ¬ ErrorAt trace.frames j := by
  induction n with
  | zero =>
      rw [ticks_zero, hr.detector]
      constructor
      · intro h
        cases h
      · rintro ⟨j, hj, hpos, -⟩
        omega
  | succ n ih =>
      rw [ticks_succ, detector_tick, ← ticks_succ, EndDetector.observe, carries_ticks hw hr,
        carries_ticks hw hr]
      split
      · rename_i herror
        rw [ih]
        constructor
        · rintro ⟨j, hj, hrest⟩
          exact ⟨j, by omega, hrest⟩
        · rintro ⟨j, hj, hpos, hsuccess, hnone⟩
          have hne : j ≠ n + 1 := by
            rintro rfl
            exact hnone herror
          exact ⟨j, by omega, hpos, hsuccess, hnone⟩
      · rename_i herror
        rw [Bool.or_eq_true, ih]
        constructor
        · rintro (⟨j, hj, hrest⟩ | hsuccess)
          · exact ⟨j, by omega, hrest⟩
          · exact ⟨n + 1, Nat.le_refl _, Nat.le_add_left _ _, hsuccess, herror⟩
        · rintro ⟨j, hj, hpos, hsuccess, hnone⟩
          rcases Nat.lt_or_ge n j with hlast | hearlier
          · obtain rfl : j = n + 1 := by omega
            exact Or.inr hsuccess
          · exact Or.inl ⟨j, hearlier, hpos, hsuccess, hnone⟩

/-- The count of the watchdog is the length of the present silence, counted from zero again whenever
the watchdog tripped. -/
theorem count_ticks (hw : Wired trace config b) (hr : Ready b) (n : Nat) :
    (ticks n b).watchdog.count
      = idleRun trace.frames n % (config.general.stallLimit + 1) := by
  induction n with
  | zero => rw [ticks_zero, hr.count, idleRun, Nat.zero_mod]
  | succ n ih =>
      have hlimit := (hw.ticks n).limit
      rw [ticks_succ, watchdog_tick, ← signals_tick, ← ticks_succ, retiresAny_ticks hw hr, idleRun]
      cases (frameAt trace.frames (n + 1)).retiresAny with
      | true => simp
      | false =>
          rw [Watchdog.count_observe_idle, hlimit, ih, if_neg Bool.false_ne_true,
            Watchdog.succ_mod_stretch]

/-! ## The verdict of a run -/

/-- The detector's verdict on a cycle, if no cycle before it carried an error. -/
theorem ending_ticks (hw : Wired trace config b) (hr : Ready b) {n : Nat}
    (hquiet : ∀ k, 1 ≤ k → k ≤ n → ¬ ErrorAt trace.frames k) :
    (ticks (n + 1) b).verdict.ending
      = if ErrorAt trace.frames (n + 1) then some .error
        else if SuccessAt trace.frames (n + 1) then some .success else none := by
  have hending : (ticks (n + 1) b).verdict.ending
      = if (frameAt trace.frames (n + 1)).carries .errorTerminate then some .error
        else if (ticks (n + 1) b).detector.programComplete
            && (frameAt trace.frames (n + 1)).storeQueueEmpty then some .success
        else none := by
    rw [← carries_ticks hw hr,
      show (frameAt trace.frames (n + 1)).storeQueueEmpty
        = (ticks (n + 1) b).device.signals.storeQueueEmpty by rw [signals_ticks hw hr]; rfl,
      ticks_succ]
    rfl
  rw [hending]
  by_cases herror : ErrorAt trace.frames (n + 1)
  · rw [if_pos herror]
    exact if_pos herror
  · rw [if_neg herror]
    refine (if_neg herror).trans ?_
    -- no error came before, so every success was remembered
    have hcomplete : (ticks (n + 1) b).detector.programComplete = true ↔
        ∃ j ≤ n + 1, 1 ≤ j ∧ (frameAt trace.frames j).carries .successTerminate = true := by
      rw [programComplete_ticks hw hr]
      constructor
      · rintro ⟨j, hj, hpos, hs, -⟩
        exact ⟨j, hj, hpos, hs⟩
      · rintro ⟨j, hj, hpos, hs⟩
        refine ⟨j, hj, hpos, hs, ?_⟩
        rcases Nat.lt_or_ge n j with hlast | hearlier
        · obtain rfl : j = n + 1 := by omega
          exact herror
        · exact hquiet j hpos hearlier
    refine if_congr ?_ rfl rfl
    rw [Bool.and_eq_true, hcomplete, SuccessAt]

/-- The watchdog's verdict on a cycle, if no cycle before it was a stall. -/
theorem stalled_ticks (hw : Wired trace config b) (hr : Ready b) {n : Nat}
    (hquiet : ∀ k, 1 ≤ k → k ≤ n → ¬ StallAt trace.frames config.general.stallLimit k) :
    (ticks (n + 1) b).verdict.stalled = true
      ↔ StallAt trace.frames config.general.stallLimit (n + 1) := by
  have hle : idleRun trace.frames n ≤ config.general.stallLimit := by
    rcases Nat.eq_zero_or_pos n with rfl | hpos
    · exact Nat.zero_le _
    · have hnone := hquiet n hpos (Nat.le_refl _)
      rw [stallAt_iff] at hnone
      omega
  -- so the watchdog has not started again since the silence began
  have hcount : (ticks n b).watchdog.count = idleRun trace.frames n := by
    rw [count_ticks hw hr, Nat.mod_eq_of_lt (by omega)]
  rw [stallAt_iff, ticks_succ, verdict_tick, ← ticks_succ, retiresAny_ticks hw hr, idleRun]
  cases (frameAt trace.frames (n + 1)).retiresAny with
  | true => simp
  | false =>
      rw [Watchdog.trips_idle_iff, hcount, (hw.ticks n).limit, if_neg Bool.false_ne_true]
      omega

theorem cap_ticks (hw : Wired trace config b) (hr : Ready b) (n : Nat) :
    (ticks n b).maxCycles.any (· ≤ (ticks n b).cycles) = true
      ↔ CapAt config.general.maxCycles n := by
  rw [(hw.ticks n).maxCycles, cycles_ticks, hr.cycles, Nat.zero_add, CapAt]
  cases config.general.maxCycles <;> simp

/-- As long as no cycle has had a verdict, the next one gets the verdict that the trace says. -/
theorem reason?_ticks (hw : Wired trace config b) (hr : Ready b) {n : Nat}
    (hbefore : ∀ k, 1 ≤ k → k ≤ n →
      verdictAt? trace.frames config.general.stallLimit config.general.maxCycles k = none) :
    (ticks (n + 1) b).reason?
      = verdictAt? trace.frames config.general.stallLimit config.general.maxCycles (n + 1) := by
  have hquiet := fun k hpos hk => verdictAt?_eq_none_iff.1 (hbefore k hpos hk)
  have hending := ending_ticks hw hr fun k hpos hk => (hquiet k hpos hk).1
  have hstall := stalled_ticks hw hr fun k hpos hk => (hquiet k hpos hk).2.2.1
  have hcap := cap_ticks hw hr (n + 1)
  rw [reason?, hending, verdictAt?]
  by_cases herror : ErrorAt trace.frames (n + 1)
  · rw [if_pos herror, if_pos herror]
  · rw [if_neg herror, if_neg herror]
    by_cases hsuccess : SuccessAt trace.frames (n + 1)
    · rw [if_pos hsuccess, if_pos hsuccess]
    · rw [if_neg hsuccess, if_neg hsuccess]
      simp only [hstall, hcap]

/-- A run that is left to itself ends in the first cycle that has a verdict. -/
theorem verdictAt?_of_endsAt (hw : Wired trace config b) (hr : Ready b) {n : Nat}
    {reason : Outcome.Reason} (h : EndsAt (fun _ => false) b n reason) :
    verdictAt? trace.frames config.general.stallLimit config.general.maxCycles n = some reason
      ∧ ∀ k, 1 ≤ k → k < n →
        verdictAt? trace.frames config.general.stallLimit config.general.maxCycles k = none := by
  -- where the run went on there was no verdict, by induction on the cycle
  have hbefore : ∀ k, 1 ≤ k → k < n →
      verdictAt? trace.frames config.general.stallLimit config.general.maxCycles k = none := by
    intro k
    induction k using Nat.strongRecOn with
    | ind k ih =>
        intro hpos hk
        obtain ⟨j, rfl⟩ : ∃ j, k = j + 1 := ⟨k - 1, by omega⟩
        rw [← reason?_ticks hw hr fun i hi hij => ih i (by omega) hi (by omega)]
        exact (stops?_eq_none_iff.1 (h.before (j + 1) hpos hk)).1
  refine ⟨?_, hbefore⟩
  have hpos := h.pos
  obtain ⟨m, rfl⟩ : ∃ m, n = m + 1 := ⟨n - 1, by omega⟩
  have hhere := h.here
  rw [stops?, reason?_ticks hw hr fun k hk hkm => hbefore k hk (by omega)] at hhere
  split at hhere
  · rename_i r hverdict
    rw [hverdict, hhere]
  · cases hhere

/-- **A run ends with the verdict of the trace.**  A run from the first reset of a new bench stops
in the first cycle that has a verdict, with that verdict, which is never the caller's; it has then
taken as many ticks as that cycle's number, and the clock has gone up and down for these and for the
ticks of the reset. -/
theorem run_eq_verdict {device : Replay} (hd : Replay.New trace device)
    (hb : Around device config b) :
    ∃ n reason,
      1 ≤ n
      ∧ verdictAt? trace.frames config.general.stallLimit config.general.maxCycles n = some reason
      ∧ (∀ k, 1 ≤ k → k < n →
          verdictAt? trace.frames config.general.stallLimit config.general.maxCycles k = none)
      ∧ reason ≠ .predicate
      ∧ b.reset.run.outcome = .ok ⟨reason, 2 * (config.general.resetCycles + n), n⟩
      ∧ b.reset.run.bench = (ticks n b.reset).flushUart := by
  have hw := (hb.wired (.new hd)).reset
  have hr := hb.ready_reset hd
  obtain ⟨reason, hends, hrun⟩ := endsAt_runLength (fun _ => false) hw.timely
  obtain ⟨hverdict, hbefore⟩ := verdictAt?_of_endsAt hw hr hends
  refine ⟨_, reason, hends.pos, hverdict, hbefore, ?_, ?_, ?_⟩
  · rintro rfl
    exact verdictAt?_ne_predicate hverdict
  · have hhalf : ∀ n, (ticks n b.reset).halfPhases = 2 * (config.general.resetCycles + n) := by
      intro n
      rw [halfPhases_ticks, halfPhases_reset, hb.unused.halfPhases, hb.unused.resetCycles]
      omega
    show (b.reset.runUntil fun _ => false).outcome = _
    rw [hrun, finish, hhalf, cycles_ticks, hr.cycles, Nat.zero_add]
  · show (b.reset.runUntil fun _ => false).bench = _
    rw [hrun]
    rfl

/-- The small bench ends with a success in cycle 8, the first in which its store is over. -/
theorem outcome_sample : Sample.bench.reset.run.outcome = .ok ⟨.success, 20, 8⟩ := by
  obtain ⟨n, reason, hpos, hverdict, hbefore, -, houtcome, -⟩ :=
    run_eq_verdict Sample.new_device Sample.around_bench
  have hearlier : ∀ k < 8, 1 ≤ k → verdictAt? Sample.trace.frames
      Sample.config.general.stallLimit Sample.config.general.maxCycles k = none := by decide
  have hhere : verdictAt? Sample.trace.frames Sample.config.general.stallLimit
      Sample.config.general.maxCycles 8 = some .success := by decide
  have hn : n = 8 := by
    rcases Nat.lt_trichotomy n 8 with hlt | heq | hgt
    · rw [hearlier n hlt hpos] at hverdict
      cases hverdict
    · exact heq
    · have hnone := hbefore 8 (by omega) hgt
      rw [hhere] at hnone
      cases hnone
  subst hn
  rw [hhere] at hverdict
  cases hverdict
  exact houtcome

end Bench

end Testbench
