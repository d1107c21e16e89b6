import Testbench.Proofs.Edges
import Testbench.Proofs.SettingUp

/-!
# Configured latencies and their range

The latencies of the memory behind the bus are configured, and a configuration is accepted whatever
they are.  So it is a matter of the configuration whether a sum of them fits sixty-four bits.  The
longest latency, that of an access which changes the row, is reached by two accesses at the two
halves of the address space, as no row spans more than one half (`exists_overflow`).  Nothing is
longer (`AccessTimer.latency_le`).

From this it follows for each accepted configuration when the timer can be built, when no sequence
of accesses overflows, and that no tick of any history overflows then (`timing_in_range`).  It fails
for some accepted configurations, in all three ways (`accepted_timing_overflows`).
-/

namespace Testbench

namespace Ddr

namespace AccessTimer

variable {t : AccessTimer}

/-- If the longest latency fits, so do all. -/
theorem not_mem_latencies (h : t.timing.worst < Overflow.bound) (addresses : List Nat) :
    .error .sum ∉ t.latencies addresses := by
  induction addresses generalizing t with
  | nil => simp [latencies]
  | cons address rest ih =>
      have hle := t.latency_le address
      have hfits : ¬ t.overflows address = true := by
        simp only [overflows, decide_eq_true_eq]
        omega
      rw [latencies, if_neg hfits, List.mem_cons]
      rintro (hfirst | hrest)
      · cases hfirst
      · exact ih (t := t.access address) h hrest

/-- The first addresses of the two halves of the address space. -/
def halves : List UInt64 := [0, 0x8000_0000_0000_0000]

/-- Whatever row is open, the longest latency is reached in the two halves of the address space. -/
theorem exists_overflow (hrow : t.timing.rowFits = true) (h : Overflow.bound ≤ t.timing.worst) :
    .error .sum ∈ t.latencies (halves.map (·.toNat)) := by
  show .error .sum ∈ t.latencies [0, Timing.greatestRow]
  by_cases hfirst : t.overflows 0 = true
  · rw [latencies, if_pos hfirst]
    exact List.mem_singleton_self _
  · rw [latencies, if_neg hfirst]
    apply List.mem_cons_of_mem
    have hsecond : (t.access 0).overflows Timing.greatestRow = true := by
      cases htiming : t.timing with
      | fixed steps =>
          rw [htiming] at h
          simp only [overflows, latency, timing_access, htiming, decide_eq_true_eq]
          exact h
      | openRow cas ras pre rowBytes =>
          rw [htiming] at h hrow
          have hspan : Timing.rowSpan rowBytes ≤ Timing.greatestRow :=
            Timing.rowSpan_le (k := 63) (of_decide_eq_true hrow)
          have hother : 0 < Timing.greatestRow / Timing.rowSpan rowBytes :=
            Nat.div_pos hspan (Timing.rowSpan_pos rowBytes)
          -- the first access opened row zero, and this one lies in another
          have hchange : ¬ (0 = Timing.greatestRow / Timing.rowSpan rowBytes) := by omega
          simp only [overflows, latency, access, rowOf, htiming, Nat.zero_div, Option.isNone_some,
            Bool.false_eq_true, if_false, Option.some.injEq, if_neg hchange, decide_eq_true_eq]
          exact h
    rw [latencies, if_pos hsecond]
    exact List.mem_singleton_self _

end AccessTimer

theorem timer_ofConfig {files : Directory} {config : Config.Ddr} {image : Image} {d : Ddr}
    {reader : Elf.Reader} (h : ofConfig files config image reader = .ok d) :
    d.timer = .new config.timing := by
  obtain ⟨bytes, -, -, -, hload⟩ := exists_load h
  obtain ⟨store, -, rfl⟩ := exists_of_map_eq_ok hload
  rfl

end Ddr

namespace Setup

variable {files : Directory} {device : Replay} {image : Image} {config : Config} {b : Bench}
  {reader : Elf.Reader}

/-- A new bench has no peripheral, or a memory with the configured timing and no row open. -/
theorem peripheral_ofConfig (h : (ofConfig files device image config reader).result = .ok b) :
    b.peripheral = .idle
      ∨ ∃ d : Ddr, b.peripheral = .memory d ∧ d.timer = .new config.ddr.timing := by
  obtain ⟨events, memory, peripheral, hstores, hbench⟩ := exists_stores h
  obtain ⟨-, uart, -, rfl⟩ := bench_connect hbench
  rcases peripheral_stores hstores with rfl | ⟨d, hd, rfl⟩
  · exact .inl rfl
  · exact .inr ⟨d, rfl, Ddr.timer_ofConfig hd⟩

/-- If the longest configured latency fits, those of a new bench do. -/
theorem timely_ofConfig (h : (ofConfig files device image config reader).result = .ok b)
    (hfits : config.ddr.timing.worst < Overflow.bound) : b.peripheral.Timely := by
  rcases peripheral_ofConfig h with hidle | ⟨d, hd, htimer⟩
  · rw [hidle]
    trivial
  · rw [hd]
    show d.timer.timing.worst < Overflow.bound
    rw [htimer]
    exact hfits

end Setup

namespace Bench

variable {b : Bench}

/-- Where latencies fit, no tick of any history overflows. -/
theorem timely_after (h : b.peripheral.Timely) (history : List Call) :
    (after history b).peripheral.Timely ∧ ∀ s ∈ states history b, s.peripheral.Timely :=
  after_keeps (P := fun s => s.peripheral.Timely)
    (fun s hs => by
      rw [peripheral_tick]
      exact hs.step _)
    (fun _ hs => hs) (fun _ hs => hs) (fun _ _ hs => hs) h history

end Bench

namespace Config

/-- The longest configured latency fits if the latencies of an open-row timing do together; the one
of a fixed timing does as soon as it is a number of sixty-four bits. -/
theorem Ddr.worst_lt_iff {c : Config.Ddr} (h : c.InRange) :
    c.timing.worst < Overflow.bound
      ↔ (c.controller = .dram → c.pre + c.ras + c.cas < Overflow.bound) := by
  unfold Ddr.timing
  cases hcontroller : c.controller with
  | simple =>
      simp only [Testbench.Ddr.Timing.worst, reduceCtorEq, false_implies, iff_true]
      exact h.latency
  | dram => simp [Testbench.Ddr.Timing.worst]

theorem Ddr.rowFits_iff {c : Config.Ddr} :
    c.timing.rowFits = true
      ↔ (c.controller = .dram → c.rowBytes ≤ Testbench.Ddr.Timing.greatestRow) := by
  unfold Ddr.timing
  cases hcontroller : c.controller with
  | simple => simp [Testbench.Ddr.Timing.rowFits]
  | dram => simp [Testbench.Ddr.Timing.rowFits]

open Testbench.Ddr (AccessTimer)

/-- **When configured latencies stay in range.**  Take any configuration that is accepted.  Its
timer can be built exactly if the row size, where there are rows, is at most half of the address
space. No sequence of accesses then overflows exactly if the three latencies of the rows fit
together.  And if they do, no tick overflows in any history of a bench that is set up with the
configuration, and every run in it has an outcome. -/
theorem timing_in_range {text : List Char} {config : Config}
    (h : Config.ofText text = .ok config) :
    ((∃ timer, AccessTimer.ofTiming config.ddr.timing = .ok timer)
        ↔ (config.ddr.controller = .dram → config.ddr.rowBytes ≤ 0x8000_0000_0000_0000))
      ∧ (∀ timer, AccessTimer.ofTiming config.ddr.timing = .ok timer →
        ((∀ addresses : List UInt64, .error .sum ∉ timer.latencies (addresses.map (·.toNat)))
          ↔ (config.ddr.controller = .dram →
              config.ddr.pre + config.ddr.ras + config.ddr.cas < Overflow.bound)))
      ∧ ((config.ddr.controller = .dram →
            config.ddr.pre + config.ddr.ras + config.ddr.cas < Overflow.bound) →
        ∀ files device image reader b,
            (Setup.ofConfig files device image config reader).result = .ok b →
          ∀ history, (∀ s ∈ Bench.states history b, s.overflows = false)
            ∧ ∀ stop, ∃ outcome, ((Bench.after history b).runUntil stop).outcome = .ok outcome) := by
  have hrange := (inRange_of_ofText h).ddr
  refine ⟨?_, ?_, ?_⟩
  · constructor
    · rintro ⟨timer, htimer⟩
      exact Ddr.rowFits_iff.1 (AccessTimer.ofTiming_eq_ok_iff.1 htimer).1
    · intro hrow
      exact ⟨_, AccessTimer.ofTiming_eq_ok_iff.2 ⟨Ddr.rowFits_iff.2 hrow, rfl⟩⟩
  · intro timer htimer
    obtain ⟨hrow, rfl⟩ := AccessTimer.ofTiming_eq_ok_iff.1 htimer
    rw [← Ddr.worst_lt_iff hrange]
    constructor
    · intro hnever
      by_cases hfits : config.ddr.timing.worst < Overflow.bound
      · exact hfits
      · have hover := AccessTimer.exists_overflow (t := .new config.ddr.timing) hrow
          (Nat.le_of_not_lt hfits)
        exact absurd hover (hnever _)
    · intro hfits addresses
      exact AccessTimer.not_mem_latencies hfits _
  · intro hfits files device image reader b hb history
    have htimely := Setup.timely_ofConfig hb ((Ddr.worst_lt_iff hrange).2 hfits)
    obtain ⟨hafter, hstates⟩ := Bench.timely_after htimely history
    refine ⟨fun s hs => Bench.overflows_eq_false (hstates s hs), ?_⟩
    intro stop
    obtain ⟨reason, -, hrun⟩ := Bench.endsAt_runLength stop hafter
    rw [hrun]
    exact ⟨_, rfl⟩

end Config

/-! ## Accepted configurations in and out of range -/

namespace Sample

/-- A configuration with rows and their usual latencies. -/
def usualText : String := "\x7b\"ddr\": \x7b\"enabled\": true, \"controller\": \"Dram\"\x7d\x7d"

def usualConfig : Config := { ddr := { enabled := true, controller := .dram } }

/-- A row of one byte more than half of the address space. -/
def wideText : String :=
  "\x7b\"ddr\": \x7b\"enabled\": true, \"controller\": \"Dram\", \"row_bytes\": 9223372036854775809\x7d\x7d"

def wideConfig : Config :=
  { ddr := { enabled := true, controller := .dram, rowBytes := 0x8000_0000_0000_0001 } }

/-- The greatest column latency. -/
def slowText : String :=
  "\x7b\"ddr\": \x7b\"enabled\": true, \"controller\": \"Dram\", \"t_cas\": 18446744073709551615\x7d\x7d"

def slowConfig : Config :=
  { ddr := { enabled := true, controller := .dram, cas := 0xFFFF_FFFF_FFFF_FFFF } }

/-- The same with memories of one word, one counter and a short reset. -/
def smallConfig : Config where
  general := { resetCycles := 1 }
  memory := { sizeBytes := 4 }
  ddr := { slowConfig.ddr with sizeBytes := 4 }
  events := some ["stall"]

/-- A request on the bus in the first cycle. -/
def askingTrace : Trace where
  ports := 1
  eventWidth := 1
  ddrPort := true
  frames := [{ ddr := some { address := 0 } }]

/-- The memory behind the bus in the small bench, filled with one byte. -/
def slowMemory : Ddr where
  store := ⟨#[0x13, 0, 0, 0]⟩
  base := 0
  timer := .new smallConfig.ddr.timing

/-- The bench around it and a device for the trace. -/
def slowBench : Bench :=
  ((Bench.start (.start askingTrace) ⟨#[0x13]⟩ smallConfig).withPeripheral
    (.memory slowMemory)).withUart (Uart.Sink.capturing.withEcho {})

end Sample

namespace Config

open Testbench.Ddr (AccessTimer)

/-- Is the configuration the one that a text is read as? -/
def isReadFrom (config : Config) (text : String) : Bool :=
  match Config.ofText text.toList with
  | .ok found => found = config
  | .error _ => false

theorem ofText_of_isReadFrom {config : Config} {text : String} (h : config.isReadFrom text = true) :
    Config.ofText text.toList = .ok config := by
  unfold isReadFrom at h
  split at h
  · rename_i found hfound
    rw [hfound, of_decide_eq_true h]
  · cases h

/-- With the usual latencies no sequence of accesses overflows. -/
theorem usual_timing_sample :
    Config.ofText Sample.usualText.toList = .ok Sample.usualConfig
      ∧ ∀ addresses : List UInt64,
        .error .sum ∉ (AccessTimer.new Sample.usualConfig.ddr.timing).latencies
          (addresses.map (·.toNat)) := by
  have hread := ofText_of_isReadFrom (show Sample.usualConfig.isReadFrom Sample.usualText = true by
    decide +kernel)
  refine ⟨hread, ?_⟩
  exact ((timing_in_range hread).2.1 _ rfl).2 (by decide)

/-- Accepted configurations can be out of range: for one the timer cannot be built, and with another
the first access overflows, which breaks off the run after a reset. -/
theorem accepted_timing_overflows :
    Config.ofText Sample.wideText.toList = .ok Sample.wideConfig
      ∧ AccessTimer.ofTiming Sample.wideConfig.ddr.timing = .error .sum
      ∧ Config.ofText Sample.slowText.toList = .ok Sample.slowConfig
      ∧ AccessTimer.ofTiming Sample.slowConfig.ddr.timing
        = .ok (.new Sample.slowConfig.ddr.timing)
      ∧ (AccessTimer.new Sample.slowConfig.ddr.timing).latencies [0] = [.error .sum]
      ∧ Sample.smallConfig.validate = .ok ()
      ∧ (Setup.ofConfig .empty (.start Sample.askingTrace) { bytes := #[0x13] }
          Sample.smallConfig).result = .ok Sample.slowBench
      ∧ Sample.slowBench.reset.run.outcome = .error .sum := by
  have hwide : Sample.wideConfig.isReadFrom Sample.wideText = true := by decide +kernel
  have hslow : Sample.slowConfig.isReadFrom Sample.slowText = true := by decide +kernel
  have hover : Sample.slowBench.reset.overflows = true := by decide
  refine ⟨ofText_of_isReadFrom hwide, rfl, ofText_of_isReadFrom hslow, rfl, by decide, rfl, rfl, ?_⟩
  rw [Bench.run, Bench.runUntil, if_pos hover]

end Config

end Testbench
