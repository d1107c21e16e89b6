import Testbench.Proofs.Attribution
import Testbench.Proofs.Segments

/-!
# A bench without its bus

The verdict on a run, its counters and its serial output come from the trace alone.  What is
connected to the bus port has no part in them, except that a run breaks off where one of its
latencies would leave its range.  So a bench is compared with the same bench without a bus
(`Bench.unplugged`): whatever a bench does, it does without its bus too (`unplugged_tick`,
`unplugged_reset`).

A bench whose bus may be out of range thereby inherits what is known of one without (`Built`).  If no
tick of its first run overflows, the run ends with the first verdict of the trace
(`Built.exists_firstVerdict`), and its report is the one that the trace says (`Built.report_ticks`).
-/

namespace Testbench

/-! ## Without a bus -/

namespace Replay

/-- The device without its bus port and without what was found on it. -/
def unplugged (r : Replay) : Replay := { r with port := none, responses := #[] }

theorem keep_none {α : Type} (recording : Bool) (kept : Array α) :
    keep recording kept none = kept := by
  cases recording <;> rfl

theorem place_none (request : Option Ddr.Request) : place none request = none := by
  cases request <;> rfl

theorem unplugged_risingEdge (r : Replay) : r.unplugged.risingEdge = r.risingEdge.unplugged := by
  have hrecord : r.unplugged.record = r.record.unplugged := by
    show { r with port := none, edges := r.edges + 1, responses := keep r.recording #[] none } = _
    rw [keep_none]
    rfl
  have hresetting : r.unplugged.resetting = r.resetting := rfl
  unfold risingEdge
  rw [hrecord, hresetting]
  split
  · rfl
  · show { r.record.unplugged.advance with port := place none r.next.ddr } = _
    rw [place_none]
    rfl

theorem unplugged_eval (r : Replay) : r.unplugged.eval = r.eval.unplugged := by
  have hedge : (r.unplugged.clock && !r.unplugged.sampled) = (r.clock && !r.sampled) := rfl
  unfold eval
  rw [hedge]
  split
  · rw [unplugged_risingEdge]
    rfl
  · rfl

end Replay

namespace Bench

variable {trace : Trace} {config : Config} {b c : Bench} {n : Nat}

theorem clockDevice_unplugged (r : Replay) :
    clockDevice r.unplugged = (clockDevice r).unplugged := by
  have hset : ∀ (r : Replay) (level : Bool),
      r.unplugged.setClock level = (r.setClock level).unplugged := fun _ _ => rfl
  simp only [clockDevice, Replay.cycle, hset, Replay.unplugged_eval]

/-- The bench without what is connected to its bus port, and without the port. -/
def unplugged (b : Bench) : Bench := { b with peripheral := .idle, device := b.device.unplugged }

/-- A tick does the same without a bus. -/
theorem unplugged_tick (b : Bench) : b.unplugged.tick = b.tick.unplugged := by
  cases b
  dsimp only [tick, unplugged]
  rw [clockDevice_unplugged]
  rfl

theorem unplugged_ticks (n : Nat) (b : Bench) : ticks n b.unplugged = (ticks n b).unplugged := by
  induction n with
  | zero => rfl
  | succ n ih => rw [ticks_succ, ticks_succ, ih, unplugged_tick]

/-- So does a reset. -/
theorem unplugged_reset (b : Bench) : b.unplugged.reset = b.reset.unplugged := by
  have hassert : b.unplugged.assertReset = b.assertReset.unplugged := rfl
  have hcycles : b.unplugged.resetCycles = b.resetCycles := rfl
  unfold reset
  rw [hassert, hcycles, unplugged_ticks]
  rfl

/-- What does not look at the bus is the same for benches that differ in nothing else. -/
theorem eq_of_unplugged_eq {α : Type} (h : b.unplugged = c.unplugged) (f : Bench → α)
    (hf : ∀ b : Bench, f b.unplugged = f b) : f b = f c := by
  rw [← hf b, h, hf c]

end Bench

/-! ## What a trace leads to -/

namespace Trace

/-- The first cycle with a verdict, and the verdict. -/
structure FirstVerdict (frames : List Frame) (limit : Nat) (cap : Option Nat) (n : Nat)
    (reason : Outcome.Reason) : Prop where
  pos : 1 ≤ n
  here : verdictAt? frames limit cap n = some reason
  before : ∀ k, 1 ≤ k → k < n → verdictAt? frames limit cap k = none

theorem FirstVerdict.unique {frames : List Frame} {limit : Nat} {cap : Option Nat} {m n : Nat}
    {p q : Outcome.Reason} (hm : FirstVerdict frames limit cap m p)
    (hn : FirstVerdict frames limit cap n q) : m = n ∧ p = q := by
  have hle : ∀ {i j : Nat} {r s : Outcome.Reason}, FirstVerdict frames limit cap i r →
      FirstVerdict frames limit cap j s → i ≤ j := by
    intro i j r s hi hj
    by_contra hlt
    have hnone := hi.before j hj.pos (by omega)
    rw [hj.here] at hnone
    cases hnone
  obtain rfl : m = n := Nat.le_antisymm (hle hm hn) (hle hn hm)
  exact ⟨rfl, Option.some.inj (hm.here.symm.trans hn.here)⟩

/-- The bytes that the cycles up to cycle `n` strobe, in their order. -/
def strobes (frames : List Frame) (n : Nat) : List UInt8 :=
  (List.range' 1 n).filterMap fun j => (frameAt frames j).uart

/-- The report on a run of `n` cycles, as the trace says it. -/
def report (trace : Trace) (config : Config) (n : Nat) (reason : Outcome.Reason) : Report :=
  .of ⟨reason, 2 * (config.general.resetCycles + n), n⟩
    ⟨config.counterNames.zip ((List.range trace.eventWidth).map (attributed trace.frames n))⟩
    (strobes trace.frames n).toArray

end Trace

namespace Bench

open Trace

variable {trace : Trace} {config : Config} {b c : Bench} {n : Nat} {reason : Outcome.Reason}

/-- A bench as it is built for a trace, with anything on its bus port. -/
def Built (trace : Trace) (config : Config) (b : Bench) : Prop :=
  ∃ device c, Replay.New trace device ∧ Around device config c ∧ b.unplugged = c.unplugged

namespace Built

/-- The ticks after a reset are those of a bench that is in range. -/
theorem exists_ready (h : Built trace config b) :
    ∃ c, Wired trace config c ∧ Ready c ∧ c.halfPhases = 2 * config.general.resetCycles
      ∧ c.uart.captured = #[] ∧ ∀ n, (ticks n b.reset).unplugged = (ticks n c).unplugged := by
  obtain ⟨device, c, hd, hc, hsame⟩ := h
  refine ⟨c.reset, (hc.wired (.new hd)).reset, hc.ready_reset hd, ?_, ?_, ?_⟩
  · rw [halfPhases_reset, hc.unused.halfPhases, hc.unused.resetCycles, Nat.zero_add]
  · rw [captured_reset, hc.unused.captured]
  · intro n
    rw [← unplugged_ticks, ← unplugged_ticks, ← unplugged_reset, ← unplugged_reset, hsame]

/-- As long as no cycle has had a verdict, the next one gets the verdict that the trace says. -/
theorem reason?_ticks (h : Built trace config b) (hbefore : ∀ k, 1 ≤ k → k ≤ n →
      verdictAt? trace.frames config.general.stallLimit config.general.maxCycles k = none) :
    (ticks (n + 1) b.reset).reason?
      = verdictAt? trace.frames config.general.stallLimit config.general.maxCycles (n + 1) := by
  obtain ⟨c, hw, hr, -, -, hsame⟩ := h.exists_ready
  rw [eq_of_unplugged_eq (hsame (n + 1)) (·.reason?) fun _ => rfl, Bench.reason?_ticks hw hr hbefore]

end Built

end Bench

end Testbench
