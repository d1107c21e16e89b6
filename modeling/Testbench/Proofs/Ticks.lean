import Testbench.Proofs.Playback
import Testbench.Bench.Run
import Testbench.Placement

/-!
# What ticks keep

A bench is built around a device (`Bench.Around`), and from then on only four things happen to it:
a tick, the two ends of a reset, and a flush of the serial port.  What they all keep is collected in
`Bench.Wired`: the device stays on its trace, the settings stay those of the configuration, the
event vector stays as wide as the table of counters, and the watchdog stays within its limit.

A reset of at least one tick leaves the bench ready for a run, whatever happened before
(`ready_reset`); a new bench is ready after a reset of any length (`Around.ready_reset`).  After `n`
ticks from there the device shows cycle `n` of its trace (`signals_ticks`).
-/

namespace Testbench

open Trace

/-! ## Latencies that fit -/

/-- The longest latency of a timing. -/
def Ddr.Timing.worst : Ddr.Timing → Nat
  | .fixed steps => steps
  | .openRow cas ras pre _ => pre + ras + cas

/-- No latency of the peripheral leaves the sixty-four-bit range. -/
def Peripheral.Timely : Peripheral → Prop
  | .memory ddr => ddr.timer.timing.worst < Overflow.bound
  | _ => True

namespace Ddr

theorem AccessTimer.latency_le (t : AccessTimer) (address : Nat) :
    t.latency address ≤ t.timing.worst := by
  unfold AccessTimer.latency Timing.worst
  cases t.timing with
  | fixed steps => exact Nat.le_refl _
  | openRow cas ras pre rowBytes =>
      simp only
      split
      · omega
      · split <;> omega

@[simp] theorem timer_perform (d : Ddr) (q : Request) : (d.perform q).timer = d.timer := by
  unfold perform write
  split
  · split <;> rfl
  · rfl

theorem timing_step (d : Ddr) (port : Port) :
    (d.step port).1.timer.timing = d.timer.timing := by
  unfold step
  split
  · split
    · rfl
    · simp
  · split
    · exact AccessTimer.timing_access _ _
    · rfl

end Ddr

namespace Peripheral

theorem Timely.step {p : Peripheral} (h : p.Timely) (port : Option Ddr.Port) :
    (p.step port).1.Timely := by
  cases p with
  | idle => exact h
  | counting steps withPort => exact h
  | memory ddr =>
      cases port with
      | none => exact h
      | some port =>
          show (ddr.step port).1.timer.timing.worst < Overflow.bound
          rw [Ddr.timing_step]
          exact h

theorem Timely.stepOverflows {ddr : Ddr} (h : (Peripheral.memory ddr).Timely) (port : Ddr.Port) :
    ddr.stepOverflows port = false := by
  unfold Ddr.stepOverflows
  split
  · rename_i q _ _
    have hle := ddr.timer.latency_le q.address
    have hlt : ddr.timer.timing.worst < Overflow.bound := h
    simp only [Ddr.AccessTimer.overflows, decide_eq_false_iff_not]
    omega
  · rfl

end Peripheral

namespace Bench

variable {trace : Trace} {config : Config} {b : Bench}

theorem overflows_eq_false (h : b.peripheral.Timely) : b.overflows = false := by
  unfold overflows
  cases hp : b.peripheral with
  | idle => rfl
  | counting steps withPort => rfl
  | memory ddr =>
      rw [hp] at h
      cases (clockDevice b.device).port with
      | none => rfl
      | some port => exact h.stepOverflows port

/-! ## What a tick does to each part -/

theorem signals_tick (b : Bench) :
    b.tick.device.signals = (clockDevice b.device).signals := rfl

theorem region_tick (b : Bench) :
    b.tick.region
      = b.region.update b.tick.device.signals.retirement b.tick.device.signals.events := rfl

theorem detector_tick (b : Bench) :
    b.tick.detector = b.detector.observe b.tick.device.signals.retirement := rfl

theorem verdict_tick (b : Bench) :
    b.tick.verdict
      = ⟨b.detector.verdict b.tick.device.signals.retirement
            b.tick.device.signals.storeQueueEmpty,
          b.watchdog.trips b.tick.device.signals.retirement.retiresAny⟩ := rfl

theorem peripheral_tick (b : Bench) :
    b.tick.peripheral = (b.peripheral.step (clockDevice b.device).port).1 := rfl

@[simp] theorem cycles_tick (b : Bench) : b.tick.cycles = b.cycles + 1 := rfl

@[simp] theorem halfPhases_tick (b : Bench) : b.tick.halfPhases = b.halfPhases + 2 := rfl

@[simp] theorem trace_tick (b : Bench) : b.tick.device.trace = b.device.trace :=
  trace_clockDevice b.device

@[simp] theorem sampled_tick (b : Bench) : b.tick.device.sampled = true :=
  sampled_clockDevice b.device

@[simp] theorem resetting_tick (b : Bench) : b.tick.device.resetting = b.device.resetting :=
  resetting_clockDevice b.device

theorem tracks_tick (h : b.device.Tracks) : b.tick.device.Tracks :=
  have hd := tracks_clockDevice h
  ⟨hd.inPlace, hd.left, hd.shown⟩

theorem applied_tick (hs : b.device.sampled = true)
    (hr : b.device.resetting = false) : b.tick.device.applied = b.device.applied + 1 :=
  applied_clockDevice hs hr

theorem rewound_tick (hr : b.device.resetting = true) : Rewound b.tick.device :=
  have hd := rewound_clockDevice hr
  ⟨hd.pending, hd.held, hd.applied, hd.signals⟩

theorem uart_tick (b : Bench) :
    b.tick.uart = b.tick.device.signals.uart.elim b.uart b.uart.push := by
  rw [signals_tick]
  cases h : (clockDevice b.device).signals.uart with
  | none => simp [tick, h]
  | some byte => simp [tick, h]

/-- The bytes captured so far, and the one of this tick behind them. -/
theorem captured_tick (b : Bench) :
    b.tick.uart.captured.toList
      = b.uart.captured.toList ++ b.tick.device.signals.uart.toList := by
  rw [uart_tick]
  cases b.tick.device.signals.uart with
  | none => simp
  | some byte => simp

/-! ## Several ticks -/

@[simp] theorem ticks_zero (b : Bench) : ticks 0 b = b := rfl

theorem ticks_succ (n : Nat) (b : Bench) : ticks (n + 1) b = (ticks n b).tick := by
  induction n generalizing b with
  | zero => rfl
  | succ n ih => exact ih b.tick

theorem ticks_add (m n : Nat) (b : Bench) : ticks (m + n) b = ticks n (ticks m b) := by
  induction n with
  | zero => rfl
  | succ n ih => rw [← Nat.add_assoc, ticks_succ, ticks_succ, ih]

/-- What every tick keeps, any number of ticks keep. -/
theorem ticks_induction {P : Bench → Prop} (htick : ∀ b, P b → P b.tick) (h : P b) (n : Nat) :
    P (ticks n b) := by
  induction n with
  | zero => exact h
  | succ n ih =>
      rw [ticks_succ]
      exact htick _ ih

@[simp] theorem cycles_ticks (n : Nat) (b : Bench) : (ticks n b).cycles = b.cycles + n := by
  induction n with
  | zero => rfl
  | succ n ih =>
      rw [ticks_succ, cycles_tick, ih]
      omega

@[simp] theorem halfPhases_ticks (n : Nat) (b : Bench) :
    (ticks n b).halfPhases = b.halfPhases + 2 * n := by
  induction n with
  | zero => rfl
  | succ n ih =>
      rw [ticks_succ, halfPhases_tick, ih]
      omega

theorem halfPhases_reset (b : Bench) : b.reset.halfPhases = b.halfPhases + 2 * b.resetCycles :=
  halfPhases_ticks b.resetCycles b.assertReset

@[simp] theorem resetting_ticks (n : Nat) (b : Bench) :
    (ticks n b).device.resetting = b.device.resetting := by
  induction n with
  | zero => rfl
  | succ n ih => rw [ticks_succ, resetting_tick, ih]

/-- What `n` ticks pass on to the serial port. -/
def sent (n : Nat) (b : Bench) : List UInt8 :=
  (List.range n).filterMap fun k => (ticks (k + 1) b).device.signals.uart

@[simp] theorem sent_zero (b : Bench) : sent 0 b = [] := rfl

theorem sent_succ (n : Nat) (b : Bench) :
    sent (n + 1) b = sent n b ++ (ticks (n + 1) b).device.signals.uart.toList := by
  unfold sent
  rw [List.range_succ, List.filterMap_append]
  cases h : (ticks (n + 1) b).device.signals.uart <;> simp [h]

theorem captured_ticks (n : Nat) (b : Bench) :
    (ticks n b).uart.captured.toList = b.uart.captured.toList ++ sent n b := by
  induction n with
  | zero => simp
  | succ n ih => rw [sent_succ, ticks_succ, captured_tick, ih, List.append_assoc]

/-! ## Ticks under reset -/

theorem rewound_ticks (hr : b.device.resetting = true) (n : Nat) :
    Rewound (ticks (n + 1) b).device := by
  rw [ticks_succ]
  exact rewound_tick (by rw [resetting_ticks, hr])

/-- Under reset nothing is passed on. -/
theorem sent_of_resetting (hr : b.device.resetting = true) (n : Nat) : sent n b = [] := by
  unfold sent
  rw [List.filterMap_eq_nil_iff]
  intro k _
  rw [(rewound_ticks hr k).signals]
  rfl

/-- A reset captures nothing. -/
@[simp] theorem captured_reset (b : Bench) : b.reset.uart.captured = b.uart.captured := by
  apply Array.toList_inj.1
  show (ticks b.resetCycles b.assertReset).uart.captured.toList = _
  rw [captured_ticks, sent_of_resetting rfl, List.append_nil]
  rfl

/-! ## What everything keeps -/

/-- A bench as it is built around a device: connected, and then given a peripheral whose latencies
fit and a sink that has not captured anything. -/
inductive Around (device : Replay) (config : Config) : Bench → Prop
  | connect {memory : LocalMemory} {b : Bench} :
      Bench.connect device memory config = .ok b → Around device config b
  | withPeripheral {b : Bench} {p : Peripheral} :
      Around device config b → p.Timely → Around device config (b.withPeripheral p)
  | withUart {b : Bench} {u : Uart.Sink} :
      Around device config b → u.captured = #[] → Around device config (b.withUart u)

/-- What holds of a bench for a trace and a configuration at all times. -/
structure Wired (trace : Trace) (config : Config) (b : Bench) : Prop where
  sound : trace.Sound
  trace_eq : b.device.trace = trace
  tracks : b.device.Tracks
  /-- The event vector is as wide as the table of counters. -/
  width : trace.eventWidth = config.counterNames.length
  names : b.region.counters.names = config.counterNames
  limit : b.watchdog.limit = config.general.stallLimit
  count_le : b.watchdog.count ≤ b.watchdog.limit
  resetCycles : b.resetCycles = config.general.resetCycles
  maxCycles : b.maxCycles = config.general.maxCycles
  timely : b.peripheral.Timely

/-- The state of a bench on which nothing has run. -/
structure Unused (device : Replay) (config : Config) (b : Bench) : Prop where
  device_eq : b.device = device
  width : device.signals.events.length = config.counterNames.length
  region : b.region = .closed config.counterNames
  watchdog : b.watchdog = { limit := config.general.stallLimit }
  resetCycles : b.resetCycles = config.general.resetCycles
  maxCycles : b.maxCycles = config.general.maxCycles
  halfPhases : b.halfPhases = 0
  captured : b.uart.captured = #[]
  timely : b.peripheral.Timely

theorem Around.unused {device : Replay}
    (h : Around device config b) : Unused device config b := by
  induction h with
  | connect h =>
      unfold Bench.connect at h
      split at h
      · rename_i hwidth
        cases h
        exact ⟨rfl, hwidth, rfl, rfl, rfl, rfl, rfl, rfl, trivial⟩
      · cases h
  | withPeripheral _ hp ih =>
      exact ⟨ih.device_eq, ih.width, ih.region, ih.watchdog, ih.resetCycles, ih.maxCycles,
        ih.halfPhases, ih.captured, hp⟩
  | withUart _ hu ih =>
      exact ⟨ih.device_eq, ih.width, ih.region, ih.watchdog, ih.resetCycles, ih.maxCycles,
        ih.halfPhases, hu, ih.timely⟩

theorem Around.wired {device : Replay} (hd : Replay.Driven trace device)
    (h : Around device config b) : Wired trace config b := by
  obtain ⟨hsound, htrace, htracks⟩ := hd.tracks
  have hu := h.unused
  have hwidth : device.signals.events.length = trace.eventWidth := by
    rw [htracks.shown]
    show (Signals.fit device.trace.eventWidth 0 _).length = _
    rw [Signals.length_fit, htrace]
  refine ⟨hsound, by rw [hu.device_eq, htrace], by rw [hu.device_eq]; exact htracks,
    by rw [← hwidth, hu.width], ?_, by rw [hu.watchdog], ?_, hu.resetCycles, hu.maxCycles,
    hu.timely⟩
  · rw [hu.region]
    exact Counters.names_zeroed _
  · rw [hu.watchdog]
    exact Nat.zero_le _

theorem Wired.tick (h : Wired trace config b) : Wired trace config b.tick where
  sound := h.sound
  trace_eq := by rw [trace_tick, h.trace_eq]
  tracks := tracks_tick h.tracks
  width := h.width
  names := by rw [region_tick, Region.names_update, h.names]
  limit := by rw [watchdog_tick, Watchdog.limit_observe, h.limit]
  count_le := by
    rw [watchdog_tick, Watchdog.limit_observe]
    exact Watchdog.count_observe_le _ _
  resetCycles := h.resetCycles
  maxCycles := h.maxCycles
  timely := by
    rw [peripheral_tick]
    exact h.timely.step _

theorem Wired.ticks (h : Wired trace config b) (n : Nat) : Wired trace config (ticks n b) :=
  ticks_induction (fun _ hb => hb.tick) h n

theorem Wired.assertReset (h : Wired trace config b) : Wired trace config b.assertReset :=
  ⟨h.sound, h.trace_eq, (h.tracks.setClock false).setReset true, h.width, h.names, h.limit,
    h.count_le, h.resetCycles, h.maxCycles, h.timely⟩

theorem Wired.releaseReset (h : Wired trace config b) : Wired trace config b.releaseReset where
  sound := h.sound
  trace_eq := h.trace_eq
  tracks := h.tracks.setReset false
  width := h.width
  names := by
    show b.region.counters.clear.names = _
    rw [Counters.names_clear, h.names]
  limit := h.limit
  count_le := Nat.zero_le _
  resetCycles := h.resetCycles
  maxCycles := h.maxCycles
  timely := h.timely

theorem Wired.flushUart (h : Wired trace config b) : Wired trace config b.flushUart :=
  ⟨h.sound, h.trace_eq, h.tracks, h.width, h.names, h.limit, h.count_le, h.resetCycles,
    h.maxCycles, h.timely⟩

theorem Wired.reset (h : Wired trace config b) : Wired trace config b.reset :=
  (h.assertReset.ticks b.resetCycles).releaseReset

/-- The device drives as many events as there are counters. -/
theorem Wired.length_events (h : Wired trace config b) :
    b.device.signals.events.length = b.region.counters.size := by
  have hsize : b.region.counters.size = config.counterNames.length := by
    rw [← h.names]
    simp [Counters.size, Counters.names]
  rw [hsize, ← h.width, h.tracks.shown, ← h.trace_eq]
  exact Signals.length_fit _ _ _

/-! ## Ready for a run -/

/-- A bench as a reset leaves it. -/
structure Ready (b : Bench) : Prop where
  rewound : Rewound b.device
  sampled : b.device.sampled = true
  released : b.device.resetting = false
  region : b.region = .closed b.region.counters.names
  count : b.watchdog.count = 0
  detector : b.detector = {}
  verdict : b.verdict = {}
  cycles : b.cycles = 0

/-- Releasing reset on a rewound device makes the bench ready. -/
theorem ready_releaseReset (hr : Rewound b.device) (hs : b.device.sampled = true) :
    Ready b.releaseReset where
  rewound := ⟨hr.pending, hr.held, hr.applied, hr.signals⟩
  sampled := hs
  released := rfl
  region := by
    show (⟨b.region.counters.clear, .idle⟩ : Region) = .closed b.region.counters.clear.names
    rw [Counters.names_clear]
    rfl
  count := rfl
  detector := rfl
  verdict := rfl
  cycles := rfl

/-- **A reset of at least one tick makes any bench ready.** -/
theorem ready_reset (h : 1 ≤ b.resetCycles) : Ready b.reset := by
  obtain ⟨n, hn⟩ : ∃ n, b.resetCycles = n + 1 := ⟨b.resetCycles - 1, by omega⟩
  unfold reset
  rw [hn]
  refine ready_releaseReset (rewound_ticks rfl n) ?_
  rw [ticks_succ]
  exact sampled_tick _

/-- A reset of any length makes a new bench ready. -/
theorem Around.ready_reset {device : Replay} (hd : Replay.New trace device)
    (h : Around device config b) : Ready b.reset := by
  rcases Nat.eq_zero_or_pos b.resetCycles with hzero | hpos
  · obtain ⟨-, htrace, htracks, happlied, hpending, hheld, hsampled, -⟩ := hd.spec
    have hrewound : Rewound device :=
      ⟨by rw [hpending, htrace], hheld, happlied, by rw [htracks.shown, happlied, frameAt_zero]⟩
    rw [← h.unused.device_eq] at hrewound hsampled
    unfold reset
    rw [hzero]
    exact ready_releaseReset ⟨hrewound.pending, hrewound.held, hrewound.applied,
      hrewound.signals⟩ hsampled
  · exact Bench.ready_reset hpos

/-- While reset is released the device shows one cycle in every tick. -/
theorem applied_ticks (hs : b.device.sampled = true) (hr : b.device.resetting = false) (n : Nat) :
    (ticks n b).device.sampled = true
      ∧ (ticks n b).device.applied = b.device.applied + n := by
  induction n with
  | zero => exact ⟨hs, rfl⟩
  | succ n ih =>
      rw [ticks_succ]
      refine ⟨sampled_tick _, ?_⟩
      rw [applied_tick ih.1 (by rw [resetting_ticks, hr]), ih.2, Nat.add_assoc]

/-- What the device is about while reset is released. -/
theorem Ready.running (h : Ready b) (n : Nat) :
    (ticks n b).device.sampled = true ∧ (ticks n b).device.applied = n := by
  have hticks := applied_ticks h.sampled h.released n
  rw [h.rewound.applied, Nat.zero_add] at hticks
  exact hticks

/-- **After `n` ticks the device shows cycle `n` of its trace.** -/
theorem signals_ticks (hw : Wired trace config b) (hr : Ready b) (n : Nat) :
    (ticks n b).device.signals
      = .ofFrame trace.ports trace.eventWidth (frameAt trace.frames n) := by
  have hn := hw.ticks n
  rw [hn.tracks.shown, (hr.running n).2, Replay.drive, hn.trace_eq]

end Bench

/-! ## A small bench -/

namespace Sample

/-- Two silent cycles, a region of three cycles, its end together with that of the program while a
store is under way, and one more cycle of that store. -/
def trace : Trace where
  ports := 2
  eventWidth := 1
  frames :=
    [{ repeated := 2 },
      { retire := [.retired Sentinel.statsStart.encoding], events := [3] },
      { retire := [.retired 0x00000013], events := [4], uart := some 0x48, repeated := 2 },
      { retire := [.retired Sentinel.statsEnd.encoding,
          .retired Sentinel.successTerminate.encoding],
        events := [5], storeQueueEmpty := false },
      { storeQueueEmpty := false }]

/-- A reset of two ticks, four idle cycles, a cap at ten and a name for the one event. -/
def config : Config where
  general := { resetCycles := 2, stallLimit := 4, maxCycles := some 10 }
  events := some ["unit_stall"]

/-- A new device for the trace. -/
def device : Replay := .start trace

/-- A new bench around it. -/
def bench : Bench := .start device (.zeroed 64) config

theorem new_device : Replay.New trace device := .ofTrace rfl

theorem around_bench : Bench.Around device config bench :=
  .connect (show Bench.connect device (.zeroed 64) config = .ok bench from rfl)

end Sample

end Testbench
