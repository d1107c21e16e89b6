import Testbench.Proofs.Calls

/-!
# A reset forgets the past

The owner of a bench sees an observation after each call (`Observation`).  After a reset of at least
one tick the observations are those of a new bench, whatever has happened before; only the clock has
counted on (`observations_reset_eq`).

A reset does not clear everything: the memory, the output registers, the peripheral and what the
sink has captured stay as they are.  So two benches after a reset are not equal.  They are alike in
all that an observation is made of (`Bench.Alike`), and since none of the parts that stay has a way
into those, they remain alike (`Alike.tick`).
-/

namespace Testbench

/-! ## Devices that show the same -/

namespace Replay

/-- Two devices at the same place of the same trace.  Their clocks, ports and records may differ. -/
structure Alike (r s : Replay) : Prop where
  trace : r.trace = s.trace
  pending : r.pending = s.pending
  held : r.held = s.held
  sampled : r.sampled = s.sampled
  resetting : r.resetting = s.resetting
  signals : r.signals = s.signals

namespace Alike

variable {r s : Replay}

theorem setClock (h : Alike r s) (level : Bool) : Alike (r.setClock level) (s.setClock level) :=
  ⟨h.trace, h.pending, h.held, h.sampled, h.resetting, h.signals⟩

theorem setReset (h : Alike r s) (level : Bool) : Alike (r.setReset level) (s.setReset level) :=
  ⟨h.trace, h.pending, h.held, h.sampled, rfl, h.signals⟩

theorem drive (h : Alike r s) (f : Trace.Frame) : r.drive f = s.drive f := by
  rw [Replay.drive, Replay.drive, h.trace]

theorem rewind (h : Alike r s) : Alike r.rewind s.rewind where
  trace := h.trace
  pending := congrArg Trace.frames h.trace
  held := rfl
  sampled := h.sampled
  resetting := h.resetting
  signals := h.drive .idle

theorem advance (h : Alike r s) : Alike r.advance s.advance where
  trace := h.trace
  pending := by
    show (consume r.pending r.held).1 = (consume s.pending s.held).1
    rw [h.pending, h.held]
  held := by
    show (consume r.pending r.held).2 = (consume s.pending s.held).2
    rw [h.pending, h.held]
  sampled := h.sampled
  resetting := h.resetting
  signals := by
    show r.drive r.next = s.drive s.next
    rw [next, next, h.pending, h.drive]

theorem risingEdge (h : Alike r s) : Alike r.risingEdge s.risingEdge := by
  have hrecord : Alike r.record s.record :=
    ⟨h.trace, h.pending, h.held, h.sampled, h.resetting, h.signals⟩
  unfold Replay.risingEdge
  rw [h.resetting]
  split
  · exact hrecord.rewind
  · exact hrecord.advance

/-- Alike devices with one clock level see a rising edge together. -/
theorem eval (h : Alike r s) (hclock : r.clock = s.clock) : Alike r.eval s.eval := by
  unfold Replay.eval
  rw [hclock, h.sampled]
  split
  · have hedge := h.risingEdge
    exact ⟨hedge.trace, hedge.pending, hedge.held, rfl, hedge.resetting, hedge.signals⟩
  · exact ⟨h.trace, h.pending, h.held, rfl, h.resetting, h.signals⟩

theorem cycle (h : Alike r s) : Alike r.cycle s.cycle :=
  ((((h.setClock false).eval rfl).setClock true).eval rfl)

end Alike

end Replay

namespace Bench

variable {trace : Trace} {config : Config} {a b : Bench} {k : Nat}

/-! ## Benches that are alike -/

/-- Two benches with nothing between them that an owner could see, but for the count of their clocks
and what their sinks captured before. -/
structure Alike (a b : Bench) : Prop where
  device : Replay.Alike a.device b.device
  region : a.region = b.region
  watchdog : a.watchdog = b.watchdog
  detector : a.detector = b.detector
  resetCycles : a.resetCycles = b.resetCycles
  maxCycles : a.maxCycles = b.maxCycles
  cycles : a.cycles = b.cycles
  verdict : a.verdict = b.verdict

/-- Benches that are ready for a run, of one trace and one configuration, are alike. -/
theorem alike_of_ready (ha : Ready a) (hb : Ready b) (hwa : Wired trace config a)
    (hwb : Wired trace config b) : Alike a b where
  device := by
    have htrace : a.device.trace = b.device.trace := hwa.trace_eq.trans hwb.trace_eq.symm
    refine ⟨htrace, ?_, ha.rewound.held.trans hb.rewound.held.symm,
      ha.sampled.trans hb.sampled.symm, ha.released.trans hb.released.symm, ?_⟩
    · rw [ha.rewound.pending, hb.rewound.pending, htrace]
    · rw [ha.rewound.signals, hb.rewound.signals, Replay.drive, Replay.drive, htrace]
  region := by rw [ha.region, hb.region, hwa.names, hwb.names]
  watchdog := by
    have hlimit := hwa.limit.trans hwb.limit.symm
    have hcount := ha.count.trans hb.count.symm
    cases hw : a.watchdog
    cases hw' : b.watchdog
    rw [hw, hw'] at hlimit hcount
    cases hlimit
    cases hcount
    rfl
  detector := ha.detector.trans hb.detector.symm
  resetCycles := hwa.resetCycles.trans hwb.resetCycles.symm
  maxCycles := hwa.maxCycles.trans hwb.maxCycles.symm
  cycles := ha.cycles.trans hb.cycles.symm
  verdict := ha.verdict.trans hb.verdict.symm

namespace Alike

/-- **Alike benches stay alike**: what a tick finds out comes from what the device shows, never from
the memory, the peripheral or the sink. -/
theorem tick (h : Alike a b) : Alike a.tick b.tick := by
  have hclocked : Replay.Alike (clockDevice a.device) (clockDevice b.device) :=
    ((h.device.setClock true).eval rfl).cycle
  have hsignals : a.tick.device.signals = b.tick.device.signals := hclocked.signals
  refine ⟨⟨hclocked.trace, hclocked.pending, hclocked.held, hclocked.sampled, hclocked.resetting,
    hclocked.signals⟩, ?_, ?_, ?_, h.resetCycles, h.maxCycles, congrArg (· + 1) h.cycles, ?_⟩
  · rw [region_tick, region_tick, h.region, hsignals]
  · rw [watchdog_tick, watchdog_tick, h.watchdog, hclocked.signals]
  · rw [detector_tick, detector_tick, h.detector, hsignals]
  · rw [verdict_tick, verdict_tick, h.detector, h.watchdog, hsignals]

theorem ticks (h : Alike a b) (n : Nat) : Alike (ticks n a) (ticks n b) := by
  induction n with
  | zero => exact h
  | succ n ih =>
      rw [ticks_succ, ticks_succ]
      exact ih.tick

theorem reset (h : Alike a b) : Alike a.reset b.reset := by
  have hasserted : Alike a.assertReset b.assertReset :=
    ⟨(h.device.setClock false).setReset true, h.region, h.watchdog, h.detector, h.resetCycles,
      h.maxCycles, h.cycles, h.verdict⟩
  have hheld := hasserted.ticks a.resetCycles
  unfold Bench.reset
  rw [← h.resetCycles]
  exact ⟨hheld.device.setReset false, congrArg Region.reset hheld.region,
    congrArg Watchdog.reset hheld.watchdog, rfl, hheld.resetCycles, hheld.maxCycles, rfl, rfl⟩

theorem flushUart (h : Alike a b) : Alike a.flushUart b.flushUart :=
  ⟨h.device, h.region, h.watchdog, h.detector, h.resetCycles, h.maxCycles, h.cycles, h.verdict⟩

theorem sent (h : Alike a b) (n : Nat) : sent n a = sent n b := by
  induction n with
  | zero => rfl
  | succ n ih => rw [sent_succ, sent_succ, ih, (h.ticks (n + 1)).device.signals]

theorem reason? (h : Alike a b) : a.reason? = b.reason? := by
  rw [Bench.reason?, Bench.reason?, h.verdict, h.maxCycles, h.cycles]

/-- Runs from alike benches end together. -/
theorem endsAt (h : Alike a b) {n : Nat} {reason : Outcome.Reason}
    (hb : EndsAt (fun _ => false) b n reason) : EndsAt (fun _ => false) a n reason := by
  have hstops : ∀ i, (Bench.ticks i a).stops? (fun _ => false)
      = (Bench.ticks i b).stops? (fun _ => false) := by
    intro i
    rw [stops?, stops?, (h.ticks i).reason?]
  refine ⟨hb.pos, ?_, ?_⟩
  · intro i hi hin
    rw [hstops]
    exact hb.before i hi hin
  · rw [hstops]
    exact hb.here

end Alike

/-! ## What an owner sees -/

/-- What the owner of a bench sees after a call. -/
structure Observation where
  /-- How the program ended, if it did. -/
  ending : Option Ending
  /-- Whether the watchdog tripped. -/
  stalled : Bool
  /-- The count of the watchdog. -/
  stallCount : Nat
  /-- Whether a success is remembered. -/
  programComplete : Bool
  /-- Whether a region is open. -/
  collecting : Bool
  /-- The event counters. -/
  counters : Counters
  /-- The ticks since reset was last released. -/
  cycles : Nat
  /-- The half cycles of the clock since the beginning. -/
  halfPhases : Nat
  /-- What the device shows. -/
  signals : Signals
  /-- The bytes that the call added to what the sink has captured. -/
  bytes : List UInt8
  /-- The outcome, if the call was a run. -/
  outcome : Option (Except Overflow Outcome)

namespace Observation

/-- An outcome, seen by a clock that is `k` half cycles ahead. -/
def later (k : Nat) (o : Outcome) : Outcome := { o with halfPhases := o.halfPhases + k }

/-- An observation, made by a clock that is `k` half cycles ahead. -/
def shift (k : Nat) (o : Observation) : Observation :=
  { o with
    halfPhases := o.halfPhases + k
    outcome := o.outcome.map (Except.map (later k)) }

end Observation

namespace Call

/-- The bytes that a call adds to what the sink has captured. -/
def bytes (c : Call) (b : Bench) : List UInt8 :=
  (c.apply b).uart.captured.toList.drop b.uart.captured.size

/-- The outcome of a call that is a run. -/
def outcome? : Call → Bench → Option (Except Overflow Outcome)
  | .run, b => some b.run.outcome
  | .runUntil stop, b => some (b.runUntil stop).outcome
  | .tick, _ | .reset, _ => none

/-- What is seen after a call. -/
def observe (c : Call) (b : Bench) : Observation where
  ending := (c.apply b).verdict.ending
  stalled := (c.apply b).verdict.stalled
  stallCount := (c.apply b).watchdog.count
  programComplete := (c.apply b).detector.programComplete
  collecting := (c.apply b).region.collecting
  counters := (c.apply b).region.counters
  cycles := (c.apply b).cycles
  halfPhases := (c.apply b).halfPhases
  signals := (c.apply b).device.signals
  bytes := c.bytes b
  outcome := c.outcome? b

/-- Does the call leave it to the bench when to stop? -/
def plain : Call → Bool
  | .runUntil _ => false
  | _ => true

end Call

/-- What is seen in a history of calls. -/
def observations : List Call → Bench → List Observation
  | [], _ => []
  | c :: cs, b => c.observe b :: observations cs (c.apply b)

/-- The bytes of a call are those that its ticks pass on; a reset has none. -/
theorem bytes_eq_sent (h : Wired trace config b) {c : Call} (hc : c.advances = true) :
    c.bytes b = sent (c.taken b) b := by
  obtain ⟨u, hu, hcaptured⟩ := apply_eq_ticks h hc
  have hafter : (c.apply b).uart.captured.toList
      = b.uart.captured.toList ++ sent (c.taken b) b := by
    rw [hu]
    show u.captured.toList = _
    rw [hcaptured, captured_ticks]
  rw [Call.bytes, hafter, ← Array.length_toList, List.drop_left]

theorem bytes_reset (b : Bench) : Call.reset.bytes b = [] := by
  show b.reset.uart.captured.toList.drop _ = _
  rw [captured_reset, ← Array.length_toList, List.drop_length]

/-! ## A clock that is ahead -/

/-- Two benches of one trace and one configuration that are alike; the clock of the first is `k`
half cycles ahead. -/
structure Ahead (trace : Trace) (config : Config) (k : Nat) (a b : Bench) : Prop where
  alike : Alike a b
  wired : Wired trace config a
  wired' : Wired trace config b
  halfPhases : a.halfPhases = b.halfPhases + k

/-- What is seen after a call differs by the clock alone, if the call leaves alike benches, added
the same bytes and ended in the same way. -/
theorem observe_eq_shift {c : Call} (h : Ahead trace config k (c.apply a) (c.apply b))
    (hbytes : c.bytes a = c.bytes b)
    (houtcome : c.outcome? a = (c.outcome? b).map (Except.map (Observation.later k))) :
    c.observe a = (c.observe b).shift k := by
  rw [Call.observe, Call.observe, Observation.shift, h.alike.verdict, h.alike.watchdog,
    h.alike.detector, h.alike.region, h.alike.cycles, h.halfPhases, h.alike.device.signals, hbytes,
    houtcome]

/-- A run from a bench whose clock is ahead takes as many ticks and ends in the same way. -/
theorem Ahead.run (h : Ahead trace config k a b) :
    ∃ n reason, a.runLength (fun _ => false) = n ∧ b.runLength (fun _ => false) = n
      ∧ a.run = (ticks n a).finish reason ∧ b.run = (ticks n b).finish reason := by
  obtain ⟨reason, hends, hrun⟩ := endsAt_runLength (fun _ => false) h.wired'.timely
  obtain ⟨hlength, hrun'⟩ := runUntil_eq_of_endsAt h.wired.timely (h.alike.endsAt hends)
  exact ⟨_, reason, hlength, rfl, hrun', hrun⟩

theorem Ahead.taken_eq (h : Ahead trace config k a b) {c : Call} (hc : c.plain = true) :
    c.taken a = c.taken b := by
  cases c with
  | tick => rfl
  | reset => exact h.alike.resetCycles
  | run =>
      obtain ⟨n, reason, hlength, hlength', -⟩ := h.run
      exact hlength.trans hlength'.symm
  | runUntil stop => cases hc

theorem Ahead.apply (h : Ahead trace config k a b) {c : Call} (hc : c.plain = true) :
    Ahead trace config k (c.apply a) (c.apply b) := by
  have halike : Alike (c.apply a) (c.apply b) := by
    cases c with
    | tick => exact h.alike.tick
    | reset => exact h.alike.reset
    | run =>
        obtain ⟨n, reason, -, -, hrun, hrun'⟩ := h.run
        show Alike a.run.bench b.run.bench
        rw [hrun, hrun']
        exact (h.alike.ticks n).flushUart
    | runUntil stop => cases hc
  refine ⟨halike, h.wired.apply c, h.wired'.apply c, ?_⟩
  rw [halfPhases_apply h.wired c, halfPhases_apply h.wired' c, h.taken_eq hc, h.halfPhases]
  omega

theorem Ahead.bytes_eq (h : Ahead trace config k a b) {c : Call} (hc : c.plain = true) :
    c.bytes a = c.bytes b := by
  cases hadvances : c.advances with
  | true =>
      rw [bytes_eq_sent h.wired hadvances, bytes_eq_sent h.wired' hadvances, h.taken_eq hc,
        h.alike.sent]
  | false =>
      obtain rfl : c = .reset := by
        cases c with
        | reset => rfl
        | tick | run | runUntil stop => cases hadvances
      rw [bytes_reset, bytes_reset]

theorem Ahead.outcome?_eq (h : Ahead trace config k a b) {c : Call} (hc : c.plain = true) :
    c.outcome? a = (c.outcome? b).map (Except.map (Observation.later k)) := by
  cases c with
  | tick => rfl
  | reset => rfl
  | run =>
      obtain ⟨n, reason, -, -, hrun, hrun'⟩ := h.run
      have hclock : (ticks n a).halfPhases = (ticks n b).halfPhases + k := by
        rw [halfPhases_ticks, halfPhases_ticks, h.halfPhases]
        omega
      show some a.run.outcome = some (Except.map (Observation.later k) b.run.outcome)
      rw [hrun, hrun', finish, finish, hclock, (h.alike.ticks n).cycles]
      rfl
  | runUntil stop => cases hc

/-- **A clock ahead is all that a history of plain calls shows.** -/
theorem Ahead.observations_eq (h : Ahead trace config k a b) {cs : List Call}
    (hcs : ∀ c ∈ cs, c.plain = true) :
    observations cs a = (observations cs b).map (Observation.shift k) := by
  induction cs generalizing a b with
  | nil => rfl
  | cons c cs ih =>
      have hc := hcs c (List.mem_cons_self ..)
      have hnext := h.apply hc
      rw [observations, observations, List.map_cons,
        observe_eq_shift hnext (h.bytes_eq hc) (h.outcome?_eq hc),
        ih hnext fun d hd => hcs d (List.mem_cons_of_mem _ hd)]

/-- **A reset forgets the past.**  Take a bench after any history of calls, resets and conditional
runs included, and a new bench for the same trace and configuration, perhaps with other contents in
its memory and other things connected.  From a reset of at least one tick on, the two show the same
in every history of ticks, runs and resets, but that the clock of the first is ahead by the half
cycles of its earlier ticks. -/
theorem observations_reset_eq {device device' : Replay} {fresh : Bench}
    (hd : Replay.Driven trace device) (hd' : Replay.Driven trace device')
    (hb : Around device config b) (hfresh : Around device' config fresh)
    (hreset : 1 ≤ config.general.resetCycles) (history : List Call) {cs : List Call}
    (hcs : ∀ c ∈ cs, c.plain = true) :
    observations (.reset :: cs) (after history b)
      = (observations (.reset :: cs) fresh).map (Observation.shift (2 * taken history b)) := by
  have hw := (hb.wired hd).after history
  have hw' := hfresh.wired hd'
  have hready : Ready (after history b).reset := ready_reset (by rw [hw.resetCycles]; exact hreset)
  have hready' : Ready fresh.reset := ready_reset (by rw [hw'.resetCycles]; exact hreset)
  have hahead : Ahead trace config (2 * taken history b) (after history b).reset fresh.reset := by
    refine ⟨alike_of_ready hready hready' hw.reset hw'.reset, hw.reset, hw'.reset, ?_⟩
    rw [halfPhases_reset, halfPhases_reset, halfPhases_after (hb.wired hd), hb.unused.halfPhases,
      hfresh.unused.halfPhases, hw.resetCycles, hw'.resetCycles]
    omega
  have hobserve : Call.reset.observe (after history b)
      = (Call.reset.observe fresh).shift (2 * taken history b) :=
    observe_eq_shift hahead ((bytes_reset _).trans (bytes_reset _).symm) rfl
  rw [observations, observations, List.map_cons, hobserve]
  exact congrArg _ (hahead.observations_eq hcs)

/-- The small bench, reset in the middle of its region after six ticks, starts over with its clock
twelve half cycles ahead. -/
theorem restart_sample :
    observations [.reset, .tick, .run]
        (after [.reset, .tick, .tick, .tick, .tick] Sample.bench)
      = (observations [.reset, .tick, .run] Sample.bench).map (Observation.shift 12) :=
  observations_reset_eq (.new Sample.new_device) (.new Sample.new_device) Sample.around_bench
    Sample.around_bench (by decide) [.reset, .tick, .tick, .tick, .tick] (by decide)

end Bench

end Testbench
