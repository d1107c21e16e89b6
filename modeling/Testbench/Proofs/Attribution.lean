import Mathlib.Data.List.GetD
import Testbench.Proofs.Tally
import Testbench.Proofs.Verdict
import Testbench.Report

/-!
# Which cycles a report counts

The counters of a report can be read off the expanded trace.  A cycle lies inside a benchmark region
if the last region sentinel up to it opened one (`Inside`); where several retire together the start
wins over the resume and the resume over the end (`winner`).  Of the cycles inside regions those
count that are not before the last start (`Counted`), and a counter is the sum of its event over
them (`attributed`).

A run keeps its counters tick by tick and knows nothing of such sums.  The two agree because the sum
takes the same step from cycle to cycle as the collector does (`attributed_succ_of_start`,
`attributed_succ_of_inside`, `attributed_succ_of_outside`), and every history of ticks and runs from
a fresh reset leaves exactly the sums (`report_eq_attribution`).
-/

namespace Testbench

namespace Trace

variable {frames : List Frame} {n : Nat}

/-! ## Regions of a trace -/

/-- The region sentinel that decides in a cycle: a start before a resume, a resume before an end. -/
def winner (f : Frame) : Option Sentinel :=
  if f.carries .statsStart then some .statsStart
  else if f.carries .statsResume then some .statsResume
  else if f.carries .statsEnd then some .statsEnd
  else none

/-- The sentinel opens a region. -/
def Opens (s : Option Sentinel) : Prop := s = some .statsStart ∨ s = some .statsResume

/-- Cycle `j` lies inside a region: the last region sentinel up to it opened one. -/
def Inside (frames : List Frame) (j : Nat) : Prop :=
  ∃ k ∈ Finset.Icc 1 j, Opens (winner (frameAt frames k))
    ∧ ∀ i ∈ Finset.Ioc k j, winner (frameAt frames i) = none

/-- Of the first `n` cycles, cycle `j` counts: it lies inside a region and not before the last
start. -/
def Counted (frames : List Frame) (n j : Nat) : Prop :=
  Inside frames j
    ∧ ∀ k ∈ Finset.Icc 1 n, winner (frameAt frames k) = some .statsStart → k ≤ j

instance (s : Option Sentinel) : Decidable (Opens s) := inferInstanceAs (Decidable (_ ∨ _))

instance (frames : List Frame) (j : Nat) : Decidable (Inside frames j) :=
  inferInstanceAs (Decidable (∃ k ∈ Finset.Icc 1 j, Opens (winner (frameAt frames k))
    ∧ ∀ i ∈ Finset.Ioc k j, winner (frameAt frames i) = none))

instance (frames : List Frame) (n j : Nat) : Decidable (Counted frames n j) :=
  inferInstanceAs (Decidable (_ ∧ _))

/-- What event `i` sums up to over the cycles that count. -/
def attributed (frames : List Frame) (n i : Nat) : Nat :=
  ∑ j ∈ Finset.Icc 1 n with Counted frames n j, ((frameAt frames j).events.getD i 0).toNat

/-! ## From one cycle to the next -/

theorem inside_succ_iff : Inside frames (n + 1) ↔ Opens (winner (frameAt frames (n + 1)))
    ∨ winner (frameAt frames (n + 1)) = none ∧ Inside frames n := by
  constructor
  · rintro ⟨k, hk, hopens, hnone⟩
    rw [Finset.mem_Icc] at hk
    rcases Nat.lt_or_ge n k with hlast | hearlier
    · obtain rfl : k = n + 1 := by omega
      exact Or.inl hopens
    · refine Or.inr ⟨hnone (n + 1) (Finset.mem_Ioc.2 ⟨by omega, Nat.le_refl _⟩), k,
        Finset.mem_Icc.2 ⟨hk.1, hearlier⟩, hopens, ?_⟩
      intro i hi
      rw [Finset.mem_Ioc] at hi
      exact hnone i (Finset.mem_Ioc.2 ⟨hi.1, by omega⟩)
  · rintro (hopens | ⟨hlast, k, hk, hopens, hnone⟩)
    · refine ⟨n + 1, Finset.mem_Icc.2 ⟨Nat.le_add_left _ _, Nat.le_refl _⟩, hopens, ?_⟩
      intro i hi
      rw [Finset.mem_Ioc] at hi
      omega
    · rw [Finset.mem_Icc] at hk
      refine ⟨k, Finset.mem_Icc.2 ⟨hk.1, by omega⟩, hopens, ?_⟩
      intro i hi
      rw [Finset.mem_Ioc] at hi
      rcases Nat.lt_or_ge n i with hi' | hi'
      · obtain rfl : i = n + 1 := by omega
        exact hlast
      · exact hnone i (Finset.mem_Ioc.2 ⟨hi.1, hi'⟩)

theorem attributed_eq_tally (frames : List Frame) (n i : Nat) : attributed frames n i
    = tally (Inside frames) (fun k => winner (frameAt frames k) = some .statsStart)
        (fun j => ((frameAt frames j).events.getD i 0).toNat) n := rfl

/-- **After a start only its own cycle counts.** -/
theorem attributed_succ_of_start (h : winner (frameAt frames (n + 1)) = some .statsStart)
    (i : Nat) :
    attributed frames (n + 1) i = ((frameAt frames (n + 1)).events.getD i 0).toNat := by
  rw [attributed_eq_tally, tally_succ_of_clears h, if_pos (inside_succ_iff.2 (Or.inl (Or.inl h)))]

/-- Any other cycle inside a region adds its events. -/
theorem attributed_succ_of_inside (h : winner (frameAt frames (n + 1)) ≠ some .statsStart)
    (hin : Inside frames (n + 1)) (i : Nat) :
    attributed frames (n + 1) i
      = attributed frames n i + ((frameAt frames (n + 1)).events.getD i 0).toNat := by
  rw [attributed_eq_tally, tally_succ h, if_pos hin, attributed_eq_tally]

/-- A cycle outside of regions changes nothing. -/
theorem attributed_succ_of_outside (h : winner (frameAt frames (n + 1)) ≠ some .statsStart)
    (hout : ¬ Inside frames (n + 1)) (i : Nat) :
    attributed frames (n + 1) i = attributed frames n i := by
  rw [attributed_eq_tally, tally_succ h, if_neg hout, Nat.add_zero, attributed_eq_tally]

end Trace

/-! ## What the collector does in a cycle -/

namespace Counters

theorem length_counts (t : Counters) : t.counts.length = t.size := by simp [counts, size]

theorem length_names (t : Counters) : t.names.length = t.size := by simp [names, size]

theorem getD_addEvents (entries : List (String × Nat)) (events : List UInt32) {i : Nat}
    (h : i < entries.length) :
    ((addEvents entries events).map (·.2)).getD i 0
      = (entries.map (·.2)).getD i 0 + (events.getD i 0).toNat := by
  fun_induction addEvents entries events generalizing i with
  | case1 name count entries event events ih =>
      cases i with
      | zero => rfl
      | succ i => exact ih (Nat.lt_of_succ_lt_succ h)
  | case2 entries => rfl
  | case3 => cases h

/-- Each counter grows by its own event, or by nothing where the events are too few. -/
theorem getD_counts_accumulate_of_lt {t : Counters} {i : Nat} (h : i < t.size)
    (events : List UInt32) :
    (t.accumulate events).counts.getD i 0 = t.counts.getD i 0 + (events.getD i 0).toNat :=
  getD_addEvents t.entries events h

/-- Where there is an event for each counter, each counter grows by its own. -/
theorem getD_counts_accumulate {t : Counters} {events : List UInt32}
    (h : events.length = t.size) (i : Nat) :
    (t.accumulate events).counts.getD i 0 = t.counts.getD i 0 + (events.getD i 0).toNat := by
  rcases Nat.lt_or_ge i t.size with hlt | hge
  · exact getD_counts_accumulate_of_lt hlt events
  · rw [List.getD_eq_default _ _ (by rwa [length_counts, size_accumulate]),
      List.getD_eq_default _ _ (by rwa [length_counts]), List.getD_eq_default _ _ (by rwa [h])]
    rfl

@[simp] theorem size_clear (t : Counters) : t.clear.size = t.size := by
  rw [← length_names, names_clear, length_names]

theorem getD_counts_zeroed (names : List String) (i : Nat) :
    (zeroed names).counts.getD i 0 = 0 := by
  rw [counts_zeroed, List.getD_eq_getElem?_getD, List.getElem?_replicate]
  split <;> rfl

end Counters

namespace Region

open Trace

variable {r : Region} {row : Retirement} {events : List UInt32}

/-- A cycle leaves the region open if it opens one, or has no region sentinel and found one open. -/
theorem collecting_update_iff : (r.update row events).collecting = true ↔
    Opens (fired row) ∨ fired row = none ∧ r.collecting = true := by
  unfold update
  cases hf : fired row with
  | none => simp [collecting, Opens]
  | some s =>
      have hs := mem_triggers_of_fired hf
      cases s with
      | statsStart | statsResume | statsEnd => simp [collecting, transition, Opens]
      | errorTerminate | successTerminate => simp [triggers] at hs

/-- A cycle that leaves a region open counts its events, from zero if it starts one; any other cycle
leaves the counters alone. -/
theorem counters_update : (r.update row events).counters
    = if (r.update row events).collecting then
        (if fired row = some .statsStart then r.counters.clear else r.counters).accumulate events
      else r.counters := by
  unfold update
  cases hf : fired row with
  | none =>
      unfold count
      cases hc : r.collecting <;> simp_all [collecting]
  | some s =>
      have hs := mem_triggers_of_fired hf
      cases s with
      | statsStart | statsResume | statsEnd => rfl
      | errorTerminate | successTerminate => simp [triggers] at hs

end Region

namespace Bench

open Trace

variable {trace : Trace} {config : Config} {b : Bench}

/-! ## What a run has counted after some ticks -/

theorem fired_ticks (hw : Wired trace config b) (hr : Ready b) (n : Nat) :
    Region.fired (ticks n b).device.signals.retirement = winner (frameAt trace.frames n) := by
  simp only [Region.fired, Region.triggers, List.find?_cons, List.find?_nil, carries_ticks hw hr]
  unfold winner
  cases (frameAt trace.frames n).carries .statsStart <;>
    cases (frameAt trace.frames n).carries .statsResume <;>
      cases (frameAt trace.frames n).carries .statsEnd <;> rfl

/-- The collector is inside a region exactly if the cycle is. -/
theorem collecting_ticks (hw : Wired trace config b) (hr : Ready b) (n : Nat) :
    (ticks n b).region.collecting = true ↔ Inside trace.frames n := by
  induction n with
  | zero =>
      rw [ticks_zero, hr.region]
      constructor
      · intro h
        cases h
      · rintro ⟨k, hk, -⟩
        rw [Finset.mem_Icc] at hk
        omega
  | succ n ih =>
      rw [inside_succ_iff, ticks_succ, region_tick, Region.collecting_update_iff, ← ticks_succ,
        fired_ticks hw hr, ih]

/-- The coming tick finds one event signal for each counter. -/
def Fits (b : Bench) : Prop := b.tick.device.signals.events.length = b.region.counters.size

theorem Wired.fits (h : Wired trace config b) : Fits b := by
  rw [Fits, h.tick.length_events, ← Counters.length_names, ← Counters.length_names, h.tick.names,
    h.names]

theorem getD_events_ticks (hw : Wired trace config b) (hr : Ready b) (n i : Nat) :
    (ticks n b).device.signals.events.getD i 0 = (frameAt trace.frames n).events.getD i 0 := by
  rw [signals_ticks hw hr]
  exact Signals.getD_events_ofFrame (hw.sound.length_frameAt_le n).2 i

/-- Counter `i` after one more cycle: inside a region it grows by its event, from zero in a cycle
that starts one. -/
theorem getD_counts_ticks_succ (hw : Wired trace config b) (hr : Ready b) (n i : Nat) :
    (ticks (n + 1) b).region.counters.counts.getD i 0
      = if Inside trace.frames (n + 1) then
          (if winner (frameAt trace.frames (n + 1)) = some .statsStart then 0
            else (ticks n b).region.counters.counts.getD i 0)
            + ((frameAt trace.frames (n + 1)).events.getD i 0).toNat
        else (ticks n b).region.counters.counts.getD i 0 := by
  have hfits : (ticks (n + 1) b).device.signals.events.length
      = (ticks n b).region.counters.size := by
    rw [ticks_succ]
    exact (hw.ticks n).fits
  have hopen := collecting_ticks hw hr (n + 1)
  rw [← fired_ticks hw hr, ← getD_events_ticks hw hr]
  rw [ticks_succ, region_tick] at hopen ⊢
  rw [← ticks_succ] at hopen ⊢
  rw [Region.counters_update]
  by_cases hin : Inside trace.frames (n + 1)
  · rw [if_pos (hopen.2 hin), if_pos hin]
    split
    · rw [Counters.getD_counts_accumulate (by rw [hfits, Counters.size_clear]), Counters.clear,
        Counters.getD_counts_zeroed]
    · rw [Counters.getD_counts_accumulate hfits]
  · rw [if_neg (fun h => hin (hopen.1 h)), if_neg hin]

/-- **A counter is the sum of its event over the cycles that count.** -/
theorem counts_ticks (hw : Wired trace config b) (hr : Ready b) (n i : Nat) :
    (ticks n b).region.counters.counts.getD i 0 = attributed trace.frames n i := by
  induction n with
  | zero =>
      rw [ticks_zero, hr.region]
      exact Counters.getD_counts_zeroed _ i
  | succ n ih =>
      rw [getD_counts_ticks_succ hw hr, ih]
      by_cases hstart : winner (frameAt trace.frames (n + 1)) = some .statsStart
      · have hin : Inside trace.frames (n + 1) := inside_succ_iff.2 (Or.inl (Or.inl hstart))
        rw [if_pos hin, if_pos hstart, Nat.zero_add, attributed_succ_of_start hstart]
      · by_cases hin : Inside trace.frames (n + 1)
        · rw [if_pos hin, if_neg hstart, attributed_succ_of_inside hstart hin]
        · rw [if_neg hin, attributed_succ_of_outside hstart hin]

/-- The whole table, a sum for each event of the trace. -/
theorem counts_ticks_eq_map (hw : Wired trace config b) (hr : Ready b) (n : Nat) :
    (ticks n b).region.counters.counts
      = (List.range trace.eventWidth).map (attributed trace.frames n) := by
  have hsize : (ticks n b).region.counters.counts.length = trace.eventWidth := by
    rw [Counters.length_counts, ← Counters.length_names, (hw.ticks n).names, hw.width]
  refine List.ext_getElem (by rw [hsize, List.length_map, List.length_range]) fun i hi hi' => ?_
  rw [List.getElem_map, List.getElem_range, ← counts_ticks hw hr]
  exact List.getElem_eq_getD 0

/-- What reaches the serial port is what the cycles of the trace strobe, in their order. -/
theorem sent_eq (hw : Wired trace config b) (hr : Ready b) (n : Nat) :
    sent n b = (List.range' 1 n).filterMap fun j => (frameAt trace.frames j).uart := by
  rw [List.range'_eq_map_range, List.filterMap_map, sent]
  refine List.filterMap_congr fun k _ => ?_
  rw [signals_ticks hw hr, Function.comp_apply, Nat.add_comm 1 k]
  rfl

/-! ## The report -/

/-- **A report attributes every event to its cycle.**  After the first reset of a new bench and a
history of ticks and runs, `n` ticks in all, the counters stand in the order of the configuration
and each is the sum of its event over the cycles that count; what the serial port has captured is
what the cycles strobed, and its length is the number of strobes.  No event is lost for want of a
counter in any tick of any history, those under reset included. -/
theorem report_eq_attribution {device : Replay} (hd : Replay.New trace device)
    (hb : Around device config b) {cs : List Call} (hcs : ∀ c ∈ cs, c.advances = true)
    (outcome : Outcome) :
    (after cs b.reset).cycles = taken cs b.reset
    ∧ ((after cs b.reset).report outcome).counters.names = config.counterNames
    ∧ ((after cs b.reset).report outcome).counters.counts
      = (List.range trace.eventWidth).map (attributed trace.frames (taken cs b.reset))
    ∧ (after cs b.reset).uart.captured.toList
      = (List.range' 1 (taken cs b.reset)).filterMap (fun j => (frameAt trace.frames j).uart)
    ∧ ((after cs b.reset).report outcome).uartBytes
      = (List.range' 1 (taken cs b.reset)).countP (fun j => (frameAt trace.frames j).uart.isSome)
    ∧ ∀ (history : List Call) (k : Nat),
        Fits (ticks k (after history b)) ∧ Fits (ticks k (after history b).assertReset) := by
  have hwired := hb.wired (.new hd)
  have hw := hwired.reset
  have hr := hb.ready_reset hd
  obtain ⟨u, hafter, hcaptured⟩ := after_eq_ticks hw hcs
  have hregion : (after cs b.reset).region = (ticks (taken cs b.reset) b.reset).region := by
    rw [hafter]
    rfl
  have hbytes : (after cs b.reset).uart.captured.toList
      = (List.range' 1 (taken cs b.reset)).filterMap fun j => (frameAt trace.frames j).uart := by
    rw [hafter]
    show u.captured.toList = _
    rw [hcaptured, captured_ticks, captured_reset, hb.unused.captured, sent_eq hw hr]
    rfl
  have hnames : (after cs b.reset).region.counters.names = config.counterNames := by
    rw [hregion, (hw.ticks _).names]
  have hcycles : (after cs b.reset).cycles = taken cs b.reset := by
    rw [hafter]
    show (ticks (taken cs b.reset) b.reset).cycles = _
    rw [cycles_ticks, hr.cycles, Nat.zero_add]
  refine ⟨hcycles, hnames, ?_, hbytes, ?_, ?_⟩
  · show (after cs b.reset).region.counters.counts = _
    rw [hregion, counts_ticks_eq_map hw hr]
  · show (after cs b.reset).uart.captured.size = _
    rw [← Array.length_toList, hbytes, List.length_filterMap_eq_countP]
  · intro history k
    have hh := hwired.after history
    exact ⟨(hh.ticks k).fits, (hh.assertReset.ticks k).fits⟩

/-- The small bench counts three cycles of its region and captures a byte in two of them. -/
theorem report_sample :
    ((after (List.replicate 8 .tick) Sample.bench.reset).report ⟨.success, 20, 8⟩).counters.counts
        = [11]
      ∧ (after (List.replicate 8 .tick) Sample.bench.reset).uart.captured.toList
        = [0x48, 0x48] := by
  have hcs : ∀ c ∈ List.replicate 8 Call.tick, c.advances = true := by decide
  obtain ⟨-, -, hcounts, hbytes, -⟩ :=
    report_eq_attribution Sample.new_device Sample.around_bench hcs ⟨.success, 20, 8⟩
  refine ⟨hcounts.trans ?_, hbytes.trans ?_⟩
  · decide
  · decide

end Bench

end Testbench
