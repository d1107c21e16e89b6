import Testbench.Proofs.Edges

/-!
# Two counts since the last reset

The bench counts the ticks since reset was last released and the device counts the cycles that it
has shown since.  The two are kept apart and cleared by different events: the bench clears its count
at the end of a reset, the device on a rising edge that finds reset asserted.

Between resets both grow by one with every tick (`Running.advance`).  A reset that is held for a
tick or more clears both (`applied_reset_of_held`), so they agree after every history, and the trace
begins again after every reset.  A reset that is held for no tick shows the device no edge, so it
does not notice it at all (`applied_reset_of_unheld`): from then on the device is ahead by the ticks
before the reset, and its trace goes on where it was (`counts_since_reset`, `unheld_reset_drifts`).
-/

namespace Testbench

namespace Bench

open Trace

variable {trace : Trace} {device : Replay} {memory : LocalMemory} {config : Config} {b : Bench}

/-! ## What a history keeps -/

theorem resetCycles_after (cs : List Call) (b : Bench) :
    (after cs b).resetCycles = b.resetCycles :=
  (after_keeps (P := fun s => s.resetCycles = b.resetCycles) (fun _ h => h) (fun _ h => h)
    (fun _ h => h) (fun _ _ h => h) rfl cs).1

/-- A device on its trace stays there. -/
theorem tracks_after (htrace : b.device.trace = trace) (htracks : b.device.Tracks)
    (cs : List Call) : (after cs b).device.trace = trace ∧ (after cs b).device.Tracks := by
  refine (after_keeps (P := fun s => s.device.trace = trace ∧ s.device.Tracks) ?_ ?_ ?_ ?_
    ⟨htrace, htracks⟩ cs).1
  · rintro s ⟨htrace, htracks⟩
    exact ⟨by rw [trace_tick, htrace], tracks_tick htracks⟩
  · rintro s ⟨htrace, htracks⟩
    exact ⟨htrace, (htracks.setClock false).setReset true⟩
  · rintro s ⟨htrace, htracks⟩
    exact ⟨htrace, htracks.setReset false⟩
  · rintro s - h
    exact h

/-! ## Between resets -/

/-- A bench between two calls: reset is released, and the device found its clock high last. -/
structure Running (b : Bench) : Prop where
  sampled : b.device.sampled = true
  released : b.device.resetting = false

theorem Running.ticks (h : Running b) (n : Nat) :
    Running (ticks n b) ∧ (Bench.ticks n b).device.applied = b.device.applied + n := by
  obtain ⟨hsampled, happlied⟩ := applied_ticks h.sampled h.released n
  exact ⟨⟨hsampled, by rw [resetting_ticks, h.released]⟩, happlied⟩

/-- Without a reset both counts grow by the ticks taken. -/
theorem Running.advance (h : Running b) {c : Call} (hc : c.advances = true) :
    Running (c.apply b) ∧ (c.apply b).device.applied = b.device.applied + c.taken b
      ∧ (c.apply b).cycles = b.cycles + c.taken b := by
  obtain ⟨u, hu⟩ := apply_eq_withUart hc b
  obtain ⟨hrunning, happlied⟩ := h.ticks (c.taken b)
  rw [hu]
  exact ⟨⟨hrunning.sampled, hrunning.released⟩, happlied, cycles_ticks _ b⟩

theorem Running.advances (h : Running b) {cs : List Call} (hcs : ∀ c ∈ cs, c.advances = true) :
    (after cs b).device.applied = b.device.applied + taken cs b
      ∧ (after cs b).cycles = b.cycles + taken cs b := by
  induction cs generalizing b with
  | nil => exact ⟨rfl, rfl⟩
  | cons c cs ih =>
      obtain ⟨hrunning, happlied, hcycles⟩ := h.advance (hcs c (List.mem_cons_self ..))
      obtain ⟨happlied', hcycles'⟩ := ih hrunning fun d hd => hcs d (List.mem_cons_of_mem _ hd)
      show (after cs (c.apply b)).device.applied
          = b.device.applied + (c.taken b + taken cs (c.apply b))
        ∧ (after cs (c.apply b)).cycles = b.cycles + (c.taken b + taken cs (c.apply b))
      omega

/-! ## Across a reset -/

theorem Running.reset (h : Running b) : Running b.reset := by
  refine ⟨?_, rfl⟩
  show (Bench.ticks b.resetCycles b.assertReset).device.sampled = true
  cases b.resetCycles with
  | zero => exact h.sampled
  | succ n =>
      rw [ticks_succ]
      exact sampled_tick _

/-- A reset that is held takes the device back to the beginning. -/
theorem applied_reset_of_held (h : 1 ≤ b.resetCycles) : b.reset.device.applied = 0 :=
  (ready_reset h).rewound.applied

/-- A reset that is held for no tick does not reach the device. -/
theorem applied_reset_of_unheld (h : b.resetCycles = 0) :
    b.reset.device.applied = b.device.applied := by
  unfold Bench.reset
  rw [h]
  rfl

theorem Running.after (h : Running b) (cs : List Call) : Running (after cs b) := by
  induction cs generalizing b with
  | nil => exact h
  | cons c cs ih =>
      apply ih
      cases hc : c.advances with
      | true => exact (h.advance hc).1
      | false =>
          cases c with
          | reset => exact h.reset
          | tick | run | runUntil stop => cases hc

/-- Where a reset is held, both counts are the same after every history, if they are at first. -/
theorem Running.applied_eq_cycles (h : Running b) (hheld : 1 ≤ b.resetCycles)
    (hfirst : b.device.applied = b.cycles) (cs : List Call) :
    (Bench.after cs b).device.applied = (Bench.after cs b).cycles := by
  induction cs using List.reverseRecOn with
  | nil => exact hfirst
  | append_singleton cs c ih =>
      rw [after_append]
      show (c.apply (Bench.after cs b)).device.applied = (c.apply (Bench.after cs b)).cycles
      cases hc : c.advances with
      | true =>
          obtain ⟨-, happlied, hcycles⟩ := (h.after cs).advance hc
          rw [happlied, hcycles, ih]
      | false =>
          cases c with
          | reset => exact applied_reset_of_held (by rw [resetCycles_after]; exact hheld)
          | tick | run | runUntil stop => cases hc

/-- Where a reset is not held, the device counts all ticks. -/
theorem Running.applied_of_unheld (h : Running b) (hunheld : b.resetCycles = 0) (cs : List Call) :
    (Bench.after cs b).device.applied = b.device.applied + taken cs b := by
  induction cs using List.reverseRecOn with
  | nil => rfl
  | append_singleton cs c ih =>
      have hzero : (Bench.after cs b).resetCycles = 0 := by rw [resetCycles_after, hunheld]
      rw [after_append, taken_append, ← Nat.add_assoc, ← ih]
      show (c.apply (Bench.after cs b)).device.applied
        = (Bench.after cs b).device.applied + c.taken (Bench.after cs b)
      cases hc : c.advances with
      | true => exact ((h.after cs).advance hc).2.1
      | false =>
          cases c with
          | reset =>
              show (Bench.after cs b).reset.device.applied = _ + (Bench.after cs b).resetCycles
              rw [applied_reset_of_unheld hzero, hzero]
              rfl
          | tick | run | runUntil stop => cases hc

/-- A new bench around a new device runs, and its counts are zero. -/
theorem Fitted.running (hnew : Replay.New trace device) (hb : Fitted device memory config b) :
    Running b ∧ b.device = device ∧ b.cycles = 0 := by
  induction hb with
  | connect h =>
      obtain ⟨-, -, -, -, -, -, hsampled, hreleased⟩ := hnew.spec
      unfold Bench.connect at h
      split at h
      · cases h
        exact ⟨⟨hsampled, hreleased⟩, rfl, rfl⟩
      · cases h
  | withPeripheral q _ ih => exact ⟨⟨ih.1.sampled, ih.1.released⟩, ih.2⟩
  | withUart u _ ih => exact ⟨⟨ih.1.sampled, ih.1.released⟩, ih.2⟩

/-- **The two counts since the last reset.**  Build a bench around a new device and let its owner
call it in any way.  The count of the bench is the number of ticks since the last reset, or since
the beginning if there was none.

If a reset is held for a tick or more, the device has shown as many cycles, after every history, and
the first tick after a reset shows the first cycle of the trace.  If a reset is held for no tick, the
device has shown as many cycles as there were ticks in the whole history. -/
theorem counts_since_reset (hnew : Replay.New trace device) (hb : Fitted device memory config b)
    (history : List Call) :
    (∀ cs, (∀ c ∈ cs, c.advances = true) →
        (after cs b).cycles = taken cs b
          ∧ (after (history ++ .reset :: cs) b).cycles
            = taken cs (after (history ++ [.reset]) b))
      ∧ (1 ≤ config.general.resetCycles →
          (after history b).device.applied = (after history b).cycles
            ∧ (after (history ++ [.reset, .tick]) b).device.signals
              = .ofFrame trace.ports trace.eventWidth (frameAt trace.frames 1))
      ∧ (config.general.resetCycles = 0 →
          (after history b).device.applied = taken history b) := by
  obtain ⟨hrunning, hdevice, hcycles⟩ := hb.running hnew
  obtain ⟨-, htrace, htracks, happlied, -⟩ := hnew.spec
  rw [← hdevice] at htrace htracks happlied
  have hreset : b.resetCycles = config.general.resetCycles := (hb.clocked hnew).resetCycles
  refine ⟨?_, ?_, ?_⟩
  · intro cs hcs
    constructor
    · rw [(hrunning.advances hcs).2, hcycles, Nat.zero_add]
    · rw [after_append, after_append]
      show (after cs (after history b).reset).cycles = taken cs (after history b).reset
      rw [((hrunning.after history).reset.advances hcs).2]
      exact Nat.zero_add _
  · intro hheld
    rw [← hreset] at hheld
    have hfirst : b.device.applied = b.cycles := by rw [happlied, hcycles]
    refine ⟨hrunning.applied_eq_cycles hheld hfirst history, ?_⟩
    have hone : (after (history ++ [.reset, .tick]) b).device.applied = 1 := by
      rw [hrunning.applied_eq_cycles hheld hfirst, after_append]
      rfl
    obtain ⟨htrace', htracks'⟩ := tracks_after htrace htracks (history ++ [.reset, .tick])
    rw [htracks'.shown, hone, Replay.drive, htrace']
  · intro hunheld
    rw [hrunning.applied_of_unheld (hreset.trans hunheld), happlied, Nat.zero_add]

/-- After a run of the small bench, a reset and a tick both counts are the same, and the device shows
the first, silent cycle of its trace. -/
theorem counts_after_run :
    (after [.reset, .run, .reset, .tick] Sample.bench).device.applied
        = (after [.reset, .run, .reset, .tick] Sample.bench).cycles
      ∧ (after [.reset, .run, .reset, .tick] Sample.bench).device.signals
        = { retirement := [{}, {}], events := [0] } := by
  have hb : Fitted Sample.device (.zeroed 64) Sample.config Sample.bench :=
    .connect (show Bench.connect Sample.device (.zeroed 64) Sample.config = .ok Sample.bench from rfl)
  obtain ⟨-, hheld, -⟩ := counts_since_reset Sample.new_device hb [.reset, .run, .reset, .tick]
  obtain ⟨-, hheld', -⟩ := counts_since_reset Sample.new_device hb [.reset, .run]
  refine ⟨(hheld (by decide)).1, ?_⟩
  exact (hheld' (by decide)).2.trans (by decide)

/-- The two counts do not agree under every configuration that is accepted: a reset that is held for
no tick clears that of the bench alone. -/
theorem unheld_reset_drifts :
    ¬ ∀ (trace : Trace) (device : Replay) (memory : LocalMemory) (config : Config) (b : Bench)
        (history : List Call), config.validate = .ok () → Replay.New trace device →
        Bench.connect device memory config = .ok b →
        (after history b).device.applied = (after history b).cycles := by
  intro h
  have hdrift := h Sample.memoryTrace Sample.memoryDevice Sample.memory Sample.unheldConfig
    Sample.unheldBench [.tick, .reset] rfl (.withRecording (.ofTrace rfl)) rfl
  revert hdrift
  decide

end Bench

end Testbench
