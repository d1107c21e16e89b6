import Mathlib.Data.List.ReduceOption
import Testbench.Proofs.Driving
import Testbench.Proofs.RegisteredReads

/-!
# One rising edge for every tick

A tick drives the clock high, low and high again, and the device looks at every level.  How many
rising edges it finds in this depends on the level that it found last, and that is always high: also
when the bench is new, and also when a reset has just left the clock input low.  So there is exactly
one (`risingEdges_tick`), and the edges that a device counts are those among the levels it finds,
however it is driven (`Replay.edges_feed`).

A history of calls is a list of ticks, with resets and flushes in between that are no ticks
themselves.  `states` lists the bench as it stands before each of them, and what every elementary
step keeps, a history keeps (`after_induction`).  From this follow the books of the clock: after any
history the edges, the full cycles, the steps of the peripheral and the words presented on either
interface are all as many as the ticks (`one_edge_per_tick`).
-/

namespace Testbench

/-! ## The edges that a device counts -/

namespace Replay

/-- What a tick of a bench does to the inputs of its device. -/
def Stimulus.tick : List Stimulus := [.clock true, .eval, .clock false, .eval, .clock true, .eval]

@[simp] theorem edges_risingEdge (r : Replay) : r.risingEdge.edges = r.edges + 1 := by
  unfold risingEdge
  split <;> rfl

theorem edges_eval (r : Replay) :
    r.eval.edges = if r.clock && !r.sampled then r.edges + 1 else r.edges := by
  unfold eval
  by_cases hedge : (r.clock && !r.sampled) = true
  · rw [if_pos hedge, if_pos hedge]
    exact edges_risingEdge r
  · rw [if_neg hedge, if_neg hedge]

/-- **The edges counted are the rising edges among the levels found**, however a device is driven.
-/
theorem edges_feed (ops : List Stimulus) (r : Replay) :
    (feed ops r).edges
      = r.edges + (risingEdges r.sampled (Stimulus.levels ⟨r.clock, r.resetting⟩ ops)).length := by
  induction ops generalizing r with
  | nil => rfl
  | cons op ops ih =>
      rw [feed, ih]
      cases op with
      | clock level => rfl
      | reset level => rfl
      | eval =>
          simp only [Stimulus.apply, Stimulus.levels, risingEdges, sampled_eval, clock_eval,
            resetting_eval, edges_eval]
          by_cases hedge : (r.clock && !r.sampled) = true
          · rw [if_pos hedge, if_pos hedge, List.length_cons]
            omega
          · rw [if_neg hedge, if_neg hedge]

/-- A new device has neither counted nor kept anything. -/
theorem New.untouched {trace : Trace} {r : Replay} (h : New trace r) :
    r.edges = 0 ∧ r.instructionWords = #[] ∧ r.dataWords = #[] ∧ r.responses = #[]
      ∧ ∀ port ∈ r.port, port = {} := by
  induction h with
  | ofTrace h =>
      obtain ⟨rfl, -⟩ := eq_start_of_ofTrace h
      refine ⟨rfl, rfl, rfl, rfl, ?_⟩
      intro port hport
      unfold start at hport
      split at hport
      · exact (Option.some.inj hport).symm
      · cases hport
  | withPort _ ih =>
      obtain ⟨hedges, hinstruction, hdata, hresponses, -⟩ := ih
      exact ⟨hedges, hinstruction, hdata, hresponses,
        fun port hport => (Option.some.inj hport).symm⟩
  | withRecording _ ih => exact ih

end Replay

namespace Bench

open Replay

variable {trace : Trace} {device : Replay} {memory : LocalMemory} {config : Config} {b : Bench}
  {past : List Bench}

theorem clockDevice_eq_feed (r : Replay) : clockDevice r = feed Stimulus.tick r := rfl

/-- **A tick is one rising edge** for a device that found its clock high last, whatever level the
clock input has been left at. -/
theorem risingEdges_tick {r : Replay} (h : r.sampled = true) :
    risingEdges r.sampled (Stimulus.levels ⟨r.clock, r.resetting⟩ Stimulus.tick)
      = [r.resetting] := by
  rw [h]
  rfl

theorem edges_tick (h : b.device.sampled = true) : b.tick.device.edges = b.device.edges + 1 := by
  show (clockDevice b.device).edges = _
  rw [clockDevice_eq_feed, edges_feed, risingEdges_tick h]
  rfl

/-! ## A history, tick by tick -/

/-- The bench before each of `n` ticks. -/
def statesIn : Nat → Bench → List Bench
  | 0, _ => []
  | n + 1, b => b :: statesIn n b.tick

/-- The bench before each tick of a call. -/
def Call.states : Call → Bench → List Bench
  | .reset, b => statesIn b.resetCycles b.assertReset
  | c, b => statesIn (c.taken b) b

/-- The bench before each tick of a history of calls. -/
def states : List Call → Bench → List Bench
  | [], _ => []
  | c :: cs, b => c.states b ++ states cs (c.apply b)

@[simp] theorem length_statesIn (n : Nat) (b : Bench) : (statesIn n b).length = n := by
  induction n generalizing b with
  | zero => rfl
  | succ n ih => rw [statesIn, List.length_cons, ih]

theorem Call.length_states (c : Call) (b : Bench) : (c.states b).length = c.taken b := by
  cases c <;> exact length_statesIn _ _

@[simp] theorem length_states (cs : List Call) (b : Bench) :
    (states cs b).length = taken cs b := by
  induction cs generalizing b with
  | nil => rfl
  | cons c cs ih => rw [states, List.length_append, ih, Call.length_states, taken]

theorem after_append (cs ds : List Call) (b : Bench) :
    after (cs ++ ds) b = after ds (after cs b) := by
  induction cs generalizing b with
  | nil => rfl
  | cons c cs ih => exact ih (c.apply b)

theorem taken_append (cs ds : List Call) (b : Bench) :
    taken (cs ++ ds) b = taken cs b + taken ds (after cs b) := by
  induction cs generalizing b with
  | nil => exact (Nat.zero_add _).symm
  | cons c cs ih =>
      show c.taken b + taken (cs ++ ds) (c.apply b) = c.taken b + taken cs (c.apply b) + _
      rw [ih, Nat.add_assoc]
      rfl

/-- A call other than a reset is some ticks and then perhaps a flush, also if it breaks off. -/
theorem apply_eq_withUart {c : Call} (hc : c.advances = true) (b : Bench) :
    ∃ u, c.apply b = (ticks (c.taken b) b).withUart u := by
  cases c with
  | tick => exact ⟨b.tick.uart, rfl⟩
  | reset => cases hc
  | run => exact bench_runUntil_eq _ b
  | runUntil stop => exact bench_runUntil_eq stop b

/-- What every tick keeps, with the list of the states before the ticks, `n` ticks keep. -/
theorem ticks_states_induction {P : List Bench → Bench → Prop}
    (htick : ∀ past b, P past b → P (past ++ [b]) b.tick) (n : Nat) (h : P past b) :
    P (past ++ statesIn n b) (ticks n b) := by
  induction n generalizing past b with
  | zero => simpa [statesIn] using h
  | succ n ih =>
      have hnext := ih (htick past b h)
      rw [List.append_assoc] at hnext
      exact hnext

/-- **What every elementary step keeps, every history keeps**: a tick, the two ends of a reset, and
whatever happens to the serial port. -/
theorem after_induction {P : List Bench → Bench → Prop}
    (htick : ∀ past b, P past b → P (past ++ [b]) b.tick)
    (hassert : ∀ past b, P past b → P past b.assertReset)
    (hrelease : ∀ past b, P past b → P past b.releaseReset)
    (huart : ∀ past b u, P past b → P past (b.withUart u)) (h : P past b) (cs : List Call) :
    P (past ++ states cs b) (after cs b) := by
  have hcall : ∀ past b (c : Call), P past b → P (past ++ c.states b) (c.apply b) := by
    intro past b c h
    have hticks := ticks_states_induction htick (c.taken b) h
    cases c with
    | tick => exact hticks
    | reset =>
        exact hrelease _ _ (ticks_states_induction htick b.resetCycles (hassert past b h))
    | run =>
        obtain ⟨u, hu⟩ := apply_eq_withUart (c := .run) rfl b
        rw [hu]
        exact huart _ _ u hticks
    | runUntil stop =>
        obtain ⟨u, hu⟩ := apply_eq_withUart (c := .runUntil stop) rfl b
        rw [hu]
        exact huart _ _ u hticks
  induction cs generalizing past b with
  | nil => simpa [states, after] using h
  | cons c cs ih =>
      rw [states, ← List.append_assoc]
      exact ih (hcall past b c h)

/-- An invariant that does not look at the ticks holds after a history and before each tick of it.
-/
theorem after_keeps {P : Bench → Prop} (htick : ∀ b, P b → P b.tick)
    (hassert : ∀ b, P b → P b.assertReset) (hrelease : ∀ b, P b → P b.releaseReset)
    (huart : ∀ b u, P b → P (b.withUart u)) (h : P b) (cs : List Call) :
    P (after cs b) ∧ ∀ s ∈ states cs b, P s := by
  refine @after_induction b [] (fun past s => P s ∧ ∀ t ∈ past, P t) ?_ ?_ ?_ ?_
    ⟨h, fun t ht => by cases ht⟩ cs
  · rintro past s ⟨hs, hpast⟩
    exact ⟨htick s hs, List.forall_mem_append.2 ⟨hpast, List.forall_mem_singleton.2 hs⟩⟩
  · rintro past s ⟨hs, hpast⟩
    exact ⟨hassert s hs, hpast⟩
  · rintro past s ⟨hs, hpast⟩
    exact ⟨hrelease s hs, hpast⟩
  · rintro past s u ⟨hs, hpast⟩
    exact ⟨huart s u hs, hpast⟩

/-- The device found its clock high last, at all times. -/
theorem sampled_states (h : b.device.sampled = true) (cs : List Call) :
    ∀ s ∈ states cs b, s.device.sampled = true :=
  (after_keeps (P := fun s => s.device.sampled = true) (fun s _ => sampled_tick s) (fun _ h => h)
    (fun _ h => h) (fun _ _ h => h) h cs).2

/-! ## The books of the clock -/

/-- The port that the coming tick shows to the peripheral: that of the device after the edge. -/
def offered (b : Bench) : Option Ddr.Port := (clockDevice b.device).port

/-- A peripheral after a step with each of some ports. -/
def steppedWith (ports : List (Option Ddr.Port)) (p : Peripheral) : Peripheral :=
  ports.foldl (fun p port => (p.step port).1) p

/-- A peripheral that counts has counted the ports, and those among them that are there. -/
theorem steppedWith_counting (ports : List (Option Ddr.Port)) (steps withPort : Nat) :
    steppedWith ports (.counting steps withPort)
      = .counting (steps + ports.length) (withPort + ports.reduceOption.length) := by
  induction ports generalizing steps withPort with
  | nil => rfl
  | cons port ports ih =>
      have hports : (port :: ports).reduceOption.length
          = port.toList.length + ports.reduceOption.length := by
        cases port with
        | none => simp
        | some port => simp [Nat.add_comm]
      show steppedWith ports (.counting (steps + 1) (withPort + port.toList.length)) = _
      rw [ih, hports, List.length_cons, Nat.add_assoc, Nat.add_assoc, Nat.add_comm 1]

/-- A bench whose clock, device and peripheral have gone through as many ticks as there are states
before it. -/
structure Clocked (p : Peripheral) (resetCycles : Nat) (past : List Bench) (b : Bench) : Prop where
  /-- The device found its clock high last. -/
  sampled : b.device.sampled = true
  edges : b.device.edges = past.length
  halfPhases : b.halfPhases = 2 * past.length
  peripheral : b.peripheral = steppedWith (past.map offered) p
  resetCycles : b.resetCycles = resetCycles

variable {p : Peripheral} {resetCycles : Nat}

theorem Clocked.tick (h : Clocked p resetCycles past b) :
    Clocked p resetCycles (past ++ [b]) b.tick where
  sampled := sampled_tick b
  edges := by
    rw [edges_tick h.sampled, h.edges, List.length_append]
    rfl
  halfPhases := by
    rw [halfPhases_tick, h.halfPhases, List.length_append, List.length_singleton]
    omega
  peripheral := by
    rw [peripheral_tick, h.peripheral, List.map_append, steppedWith, steppedWith,
      List.foldl_append]
    rfl
  resetCycles := h.resetCycles

theorem Clocked.after (h : Clocked p resetCycles past b) (cs : List Call) :
    Clocked p resetCycles (past ++ states cs b) (after cs b) := by
  refine after_induction (fun _ _ => Clocked.tick) ?_ ?_ ?_ h cs
  · intro past b h
    exact ⟨h.sampled, h.edges, h.halfPhases, h.peripheral, h.resetCycles⟩
  · intro past b h
    exact ⟨h.sampled, h.edges, h.halfPhases, h.peripheral, h.resetCycles⟩
  · intro past b u h
    exact ⟨h.sampled, h.edges, h.halfPhases, h.peripheral, h.resetCycles⟩

/-- A new bench around a new device has counted nothing. -/
theorem Fitted.clocked (hnew : New trace device) (hb : Fitted device memory config b) :
    Clocked b.peripheral config.general.resetCycles [] b := by
  induction hb with
  | connect h =>
      obtain ⟨-, -, -, -, -, -, hsampled, -⟩ := hnew.spec
      unfold Bench.connect at h
      split at h
      · cases h
        exact ⟨hsampled, hnew.untouched.1, rfl, rfl, rfl⟩
      · cases h
  | withPeripheral q _ ih =>
      exact ⟨ih.sampled, ih.edges, ih.halfPhases, rfl, ih.resetCycles⟩
  | withUart u _ ih =>
      exact ⟨ih.sampled, ih.edges, ih.halfPhases, ih.peripheral, ih.resetCycles⟩

/-- **Every tick is exactly one rising edge, whatever the history.**  Build a bench around a new
recording device, with any length of reset, and let its owner call it in any way.

The half cycles of the clock are then two for each tick, so their number is even and the full cycles
are the ticks; the rising edges that the device has counted are as many, and so are the steps that
the peripheral has made and the words presented on each interface.  A peripheral that counts its
steps has counted just these, no step twice and none left out.  In each single tick, wherever in the
history it stands, the levels that the device finds contain one rising edge, at the level of reset
that holds in that tick.  A reset adds its configured ticks to the count and a tick adds one, and
below `2 ^ 63` ticks the half cycles fit sixty-four bits. -/
theorem one_edge_per_tick (hnew : New trace device) (hrecording : device.recording = true)
    (hb : Fitted device memory config b) (history : List Call) :
    (after history b).halfPhases = 2 * taken history b
      ∧ (after history b).halfPhases % 2 = 0
      ∧ (after history b).fullCycles = taken history b
      ∧ (after history b).device.edges = (after history b).halfPhases / 2
      ∧ (after history b).device.edges = taken history b
      ∧ (after history b).peripheral
        = steppedWith ((states history b).map offered) b.peripheral
      ∧ ((states history b).map offered).length = taken history b
      ∧ (∀ steps withPort, b.peripheral = .counting steps withPort →
          (after history b).peripheral = .counting (steps + taken history b)
            (withPort + ((states history b).map offered).reduceOption.length))
      ∧ (after history b).device.instructionWords.size = taken history b
      ∧ (after history b).device.dataWords.size = taken history b
      ∧ (∀ s ∈ states history b,
          clockDevice s.device = feed Stimulus.tick s.device
            ∧ risingEdges s.device.sampled
                (Stimulus.levels ⟨s.device.clock, s.device.resetting⟩ Stimulus.tick)
              = [s.device.resetting]
            ∧ s.tick.device.edges = s.device.edges + 1)
      ∧ taken (history ++ [.reset]) b = taken history b + config.general.resetCycles
      ∧ taken (history ++ [.tick]) b = taken history b + 1
      ∧ (taken history b < 0x8000_0000_0000_0000 →
          (after history b).halfPhases < Overflow.bound) := by
  have hclocked := (hb.clocked hnew).after history
  have hserved := (hb.served hrecording).after history
  obtain ⟨-, hinstruction, hdata, -⟩ := hnew.untouched
  rw [List.nil_append] at hclocked hserved
  have hhalf := hclocked.halfPhases
  have hedges := hclocked.edges
  rw [length_states] at hhalf hedges
  have hwords : ∀ initial reads,
      (presented memory (shown history b) initial reads).length = taken history b := by
    intro initial reads
    rw [presented, List.length_map, List.length_range, length_shown]
  refine ⟨hhalf, by omega, ?_, by omega, hedges, hclocked.peripheral, ?_, ?_, ?_, ?_, ?_, ?_, ?_,
    ?_⟩
  · show (after history b).halfPhases / 2 = _
    omega
  · rw [List.length_map, length_states]
  · intro steps withPort hcounting
    rw [hclocked.peripheral, hcounting, steppedWith_counting, List.length_map, length_states]
  · rw [← Array.length_toList, hserved.instructionWords, hinstruction]
    exact hwords _ _
  · rw [← Array.length_toList, hserved.dataWords, hdata]
    exact hwords _ _
  · intro s hs
    have hhigh := sampled_states (hb.clocked hnew).sampled history s hs
    exact ⟨clockDevice_eq_feed s.device, risingEdges_tick hhigh, edges_tick hhigh⟩
  · rw [taken_append]
    show taken history b + ((after history b).resetCycles + 0) = _
    rw [hclocked.resetCycles, Nat.add_zero]
  · rw [taken_append]
    rfl
  · intro hlt
    show (after history b).halfPhases < 0x1_0000_0000_0000_0000
    omega

end Bench

/-! ## A bench whose reset takes no time -/

namespace Sample

/-- Reset is not held for any tick. -/
def unheldConfig : Config := { config with general := { config.general with resetCycles := 0 } }

/-- The small bench that uses its memory, under these settings. -/
def unheldBench : Bench := .start memoryDevice memory unheldConfig

/-- The same bench, with a peripheral that counts its steps. -/
def countingBench : Bench := unheldBench.withPeripheral (.counting 0 0)

end Sample

namespace Bench

/-- The reset takes no tick and leaves the clock input low; the tick after it is still one rising
edge and one step of what is connected, and so is the second one. -/
theorem edges_after_unheld_reset :
    (after [.reset, .tick, .reset, .tick] Sample.countingBench).device.edges = 2
      ∧ (after [.reset, .tick, .reset, .tick] Sample.countingBench).halfPhases = 4
      ∧ (after [.reset, .tick, .reset, .tick] Sample.countingBench).device.dataWords.size = 2
      ∧ (after [.reset, .tick, .reset, .tick] Sample.countingBench).peripheral = .counting 2 0 := by
  have hnew : Replay.New Sample.memoryTrace Sample.memoryDevice := .withRecording (.ofTrace rfl)
  have hconnect : Bench.connect Sample.memoryDevice Sample.memory Sample.unheldConfig
      = .ok Sample.unheldBench := rfl
  obtain ⟨hhalf, -, -, -, hedges, -, -, hsteps, -, hdata, -⟩ := one_edge_per_tick hnew rfl
    (.withPeripheral (.counting 0 0) (.connect hconnect)) [.reset, .tick, .reset, .tick]
  exact ⟨hedges, hhalf, hdata, hsteps 0 0 rfl⟩

end Bench

end Testbench
