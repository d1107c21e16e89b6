import Mathlib.Data.List.Induction
import Testbench.Proofs.Playback

/-!
# A device driven from outside

The clock, the reset and the evaluations of a device need not come from a bench: they may come in
any order (`Stimulus`).  What the device shows then depends on them through one number alone.

The evaluations find certain levels on the inputs (`Stimulus.levels`).  Among them the rising edges
are those that find the clock high after one that found it low (`risingEdges`), and what counts is how
many of these came with reset released since the last one that came with reset asserted
(`released`).  That many cycles have been shown (`applied_feed`), and the device shows the entry of
that number in the expanded trace, whole and filled up with silence (`shows_entry_of_expansion`).
-/

namespace Testbench

open Trace

/-! ## A frame on the ports -/

/-- All of a frame on the lowest ports and events, and silence on the rest. -/
def Signals.padded (ports eventWidth : Nat) (f : Frame) : Signals where
  retirement := f.retire ++ List.replicate (ports - f.retire.length) ⟨0, false⟩
  events := f.events ++ List.replicate (eventWidth - f.events.length) 0
  storeQueueEmpty := f.storeQueueEmpty
  uart := f.uart
  fetch := ⟨f.fetch.getD 0, f.fetch.isSome⟩
  data := ⟨(f.data.getD {}).address, f.data.isSome, (f.data.getD {}).data,
    (f.data.getD {}).byteEnable⟩

/-- Nothing is cut off a frame that fits the device. -/
theorem Signals.ofFrame_eq_padded {ports eventWidth : Nat} {f : Frame}
    (hports : f.retire.length ≤ ports) (hevents : f.events.length ≤ eventWidth) :
    ofFrame ports eventWidth f = padded ports eventWidth f := by
  unfold ofFrame padded
  rw [fit_of_length_le hports, fit_of_length_le hevents]
  congr 1
  · cases f.fetch <;> rfl
  · cases f.data <;> rfl

namespace Replay

/-! ## Stimuli -/

/-- What can be done to a device from outside. -/
inductive Stimulus where
  /-- Drives the clock input. -/
  | clock (level : Bool)
  /-- Drives the reset input. -/
  | reset (level : Bool)
  /-- Lets the device look at its inputs. -/
  | eval
  deriving DecidableEq, Repr

/-- The device after a stimulus. -/
def Stimulus.apply : Stimulus → Replay → Replay
  | .clock level, r => r.setClock level
  | .reset level, r => r.setReset level
  | .eval, r => r.eval

/-- The device after a sequence of stimuli. -/
def feed : List Stimulus → Replay → Replay
  | [], r => r
  | op :: ops, r => feed ops (op.apply r)

/-- The levels on the inputs. -/
structure Levels where
  clock : Bool
  reset : Bool
  deriving DecidableEq, Repr

/-- The levels that the evaluations find, beginning with some levels on the inputs. -/
def Stimulus.levels : Levels → List Stimulus → List Levels
  | _, [] => []
  | l, .clock level :: ops => levels { l with clock := level } ops
  | l, .reset level :: ops => levels { l with reset := level } ops
  | l, .eval :: ops => l :: levels l ops

/-- The rising edges among evaluations, each as the level of reset it found; `before` is the level
of the clock that the evaluation before them found. -/
def risingEdges (before : Bool) : List Levels → List Bool
  | [] => []
  | l :: rest =>
      if l.clock && !before then l.reset :: risingEdges l.clock rest else risingEdges l.clock rest

/-- How many of the edges came with reset released, since the last one with reset asserted. -/
def released (edges : List Bool) : Nat := (edges.reverse.takeWhile fun reset => !reset).length

/-- The rising edges with reset released that a new device has seen since the last one with reset
asserted.  Its clock is high and its reset released at first, and its clock counts as seen high. -/
def releasedEdges (ops : List Stimulus) : Nat :=
  released (risingEdges true (Stimulus.levels ⟨true, false⟩ ops))

/-! ## Counting edges -/

@[simp] theorem released_nil : released [] = 0 := rfl

@[simp] theorem released_append_asserted (es : List Bool) : released (es ++ [true]) = 0 := by
  simp [released]

@[simp] theorem released_append_released (es : List Bool) :
    released (es ++ [false]) = released es + 1 := by
  simp [released]

/-- The count can be kept from edge to edge. -/
theorem foldl_edges (es : List Bool) :
    es.foldl (fun n reset => if reset then 0 else n + 1) 0 = released es := by
  induction es using List.reverseRecOn with
  | nil => rfl
  | append_singleton es reset ih =>
      rw [List.foldl_append, ih]
      cases reset with
      | true => simp
      | false => simp

@[simp] theorem clock_eval (r : Replay) : r.eval.clock = r.clock := by
  unfold eval
  split
  · exact clock_risingEdge r
  · rfl

@[simp] theorem sampled_eval (r : Replay) : r.eval.sampled = r.clock := rfl

/-- The cycles shown so far change only on a rising edge. -/
theorem applied_eval (r : Replay) :
    r.eval.applied
      = if r.clock && !r.sampled then (if r.resetting then 0 else r.applied + 1)
        else r.applied := by
  unfold eval
  by_cases hedge : (r.clock && !r.sampled) = true
  · rw [if_pos hedge, if_pos hedge]
    show r.risingEdge.applied = _
    unfold risingEdge
    by_cases hreset : r.resetting = true
    · rw [if_pos hreset, if_pos hreset]
      rfl
    · rw [if_neg hreset, if_neg hreset]
      rfl
  · rw [if_neg hedge, if_neg hedge]

/-- **The cycles shown are counted by the edges**, from any state of the device. -/
theorem applied_feed (ops : List Stimulus) (r : Replay) :
    (feed ops r).applied
      = (risingEdges r.sampled (Stimulus.levels ⟨r.clock, r.resetting⟩ ops)).foldl
          (fun n reset => if reset then 0 else n + 1) r.applied := by
  induction ops generalizing r with
  | nil => rfl
  | cons op ops ih =>
      rw [feed, ih]
      cases op with
      | clock level => rfl
      | reset level => rfl
      | eval =>
          simp only [Stimulus.apply, Stimulus.levels, risingEdges, sampled_eval, clock_eval,
            resetting_eval, applied_eval]
          by_cases hedge : (r.clock && !r.sampled) = true
          · rw [if_pos hedge, if_pos hedge, List.foldl_cons]
          · rw [if_neg hedge, if_neg hedge]

theorem Driven.feed {trace : Trace} {r : Replay} (h : Driven trace r) (ops : List Stimulus) :
    Driven trace (feed ops r) := by
  induction ops generalizing r with
  | nil => exact h
  | cons op ops ih =>
      apply ih
      cases op with
      | clock level => exact .setClock level h
      | reset level => exact .setReset level h
      | eval => exact .eval h

theorem New.clock_eq {trace : Trace} {r : Replay} (h : New trace r) : r.clock = true := by
  induction h with
  | ofTrace h =>
      obtain ⟨rfl, -⟩ := eq_start_of_ofTrace h
      rfl
  | withPort _ ih => exact ih
  | withRecording _ ih => exact ih

/-- A new device has shown as many cycles as there were edges to show them on. -/
theorem New.applied_feed {trace : Trace} {r : Replay} (h : New trace r) (ops : List Stimulus) :
    (Replay.feed ops r).applied = releasedEdges ops := by
  obtain ⟨-, -, -, happlied, -, -, hsampled, hresetting⟩ := h.spec
  rw [Replay.applied_feed, happlied, hsampled, h.clock_eq, hresetting, foldl_edges, releasedEdges]

/-! ## What is shown -/

/-- Behind the end of a trace there is silence. -/
theorem frameAt_of_span_lt {frames : List Frame} {n : Nat} (h : span frames < n) :
    frameAt frames n = .idle := by
  obtain ⟨k, rfl⟩ : ∃ k, n = k + 1 := ⟨n - 1, by omega⟩
  have hle : (expansion frames).length ≤ k := by
    rw [length_expansion]
    omega
  rw [frameAt, List.getD_eq_getElem?_getD, List.getElem?_eq_none hle]
  rfl

/-- Up to its end the trace has an entry for each cycle. -/
theorem getElem?_expansion {frames : List Frame} {n : Nat} (hpos : 1 ≤ n)
    (hle : n ≤ span frames) : (expansion frames)[n - 1]? = some (frameAt frames n) := by
  obtain ⟨k, rfl⟩ : ∃ k, n = k + 1 := ⟨n - 1, by omega⟩
  have hlt : k < (expansion frames).length := by
    rw [length_expansion]
    omega
  rw [frameAt, List.getD_eq_getElem?_getD, Nat.add_sub_cancel, List.getElem?_eq_getElem hlt]
  rfl

/-- A device on its trace shows the whole frame of the cycle shown last. -/
theorem Tracks.signals_eq {r : Replay} (h : r.Tracks) (hsound : r.trace.Sound) :
    r.signals = .padded r.trace.ports r.trace.eventWidth (frameAt r.trace.frames r.applied) := by
  obtain ⟨hports, hevents⟩ := hsound.length_frameAt_le r.applied
  rw [h.shown, drive, Signals.ofFrame_eq_padded hports hevents]

/-- The cycles for which a frame has been held stay below every bound on the repeats. -/
theorem Tracks.held_succ_lt {r : Replay} (h : r.Tracks) {bound : Nat} (hbound : 1 < bound)
    (hrepeats : ∀ f ∈ r.trace.frames, f.repeated < bound) : r.held + 1 < bound := by
  have hheld : r.held < r.next.hold := h.inPlace
  have hnext : r.next.hold < bound := by
    rw [h.next_eq]
    rcases frameAt_mem_or_eq_idle r.trace.frames (r.applied + 1) with hmem | hidle
    · have hrepeat := hrepeats _ hmem
      exact Nat.max_lt.2 ⟨hrepeat, hbound⟩
    · rw [hidle]
      exact hbound
  omega

/-- **A device shows the expanded trace, however it is driven.**  After any stimuli in any order a
new device has shown as many cycles as there were rising edges with reset released since the last
one with reset asserted.  If there were none, or more than the trace has cycles, it shows silence,
and otherwise exactly the entry of that number in the expansion: all of the frame, filled up with
invalid ports and zero events.  It never changes its number of ports or events, and the count of
held cycles stays in thirty-two bits if the repeats do. -/
theorem shows_entry_of_expansion {trace : Trace} {r : Replay} (hr : New trace r)
    (ops : List Stimulus) :
    (feed ops r).applied = releasedEdges ops
      ∧ (releasedEdges ops = 0 ∨ span trace.frames < releasedEdges ops →
          (feed ops r).signals = .padded trace.ports trace.eventWidth .idle)
      ∧ (1 ≤ releasedEdges ops → releasedEdges ops ≤ span trace.frames →
          ∃ f, (expansion trace.frames)[releasedEdges ops - 1]? = some f
            ∧ f.retire.length ≤ trace.ports ∧ f.events.length ≤ trace.eventWidth
            ∧ (feed ops r).signals = .padded trace.ports trace.eventWidth f)
      ∧ (feed ops r).signals.retirement.length = trace.ports
      ∧ (feed ops r).signals.events.length = trace.eventWidth
      ∧ ((∀ f ∈ trace.frames, f.repeated < UInt32.size) →
          (feed ops r).held + 1 < UInt32.size) := by
  obtain ⟨hsound, htrace, htracks⟩ := ((Driven.new hr).feed ops).tracks
  have happlied := hr.applied_feed ops
  have hsignals := htracks.signals_eq (by rw [htrace]; exact hsound)
  have hshown := htracks.shown
  rw [htrace, happlied] at hsignals
  rw [drive, htrace] at hshown
  refine ⟨happlied, ?_, ?_, ?_, ?_, ?_⟩
  · rintro (hzero | hbehind)
    · rw [hsignals, hzero, frameAt_zero]
    · rw [hsignals, frameAt_of_span_lt hbehind]
  · intro hpos hle
    obtain ⟨hports, hevents⟩ := hsound.length_frameAt_le (releasedEdges ops)
    exact ⟨_, getElem?_expansion hpos hle, hports, hevents, hsignals⟩
  · rw [hshown]
    exact Signals.length_fit _ _ _
  · rw [hshown]
    exact Signals.length_fit _ _ _
  · intro hrepeats
    exact htracks.held_succ_lt (by decide) (by rw [htrace]; exact hrepeats)

/-- A clock cycle in which the device looks more than once at each level, with the reset input
driven while the clock is low. -/
def Stimulus.pulse (reset : Bool) : List Stimulus :=
  [.clock false, .eval, .reset reset, .eval, .clock true, .eval, .eval]

/-- A frame for two cycles, and one that is asked to be held for none. -/
def twoFrames : Trace where
  ports := 2
  eventWidth := 2
  frames :=
    [{ retire := [.retired 0x00000013], events := [7], uart := some 0x48, repeated := 2 },
      { storeQueueEmpty := false, fetch := some 5, repeated := 0 }]

/-- Reset in the middle of the first frame makes the device begin again, so that the third cycle
after it shows the second frame. -/
theorem entry_after_reset :
    (feed ([false, true, false, false, false].flatMap Stimulus.pulse) (.start twoFrames)).signals
      = { retirement := [{}, {}], events := [0, 0], storeQueueEmpty := false, fetch := ⟨5, true⟩ }
    := by
  obtain ⟨-, -, hentry, -⟩ := shows_entry_of_expansion (.ofTrace rfl : New twoFrames _)
    ([false, true, false, false, false].flatMap Stimulus.pulse)
  obtain ⟨f, hf, -, -, hsignals⟩ := hentry (by decide) (by decide)
  have hframe : f = { storeQueueEmpty := false, fetch := some 5, repeated := 0 } :=
    Option.some.inj (hf.symm.trans (by decide))
  rw [hsignals, hframe]
  rfl

end Replay

end Testbench
