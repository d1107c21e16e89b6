import Testbench.Proofs.Expansion
import Testbench.Bench.Basic

/-!
# What a replayed device shows

A device has shown some number of cycles since reset, and that number alone decides what it shows
now and what it will show: the signals are those of that cycle of the expanded trace, and the
cycles left are the expansion without the ones shown (`Replay.Tracks`).  Every operation on a device
keeps this, in whatever order the operations come (`Replay.Driven.tracks`).

A tick of the bench is one rising edge for a device that saw its clock high last
(`clockDevice_eq`), and under reset it goes back to the beginning whatever it saw
(`rewound_clockDevice`).
-/

namespace Testbench

open Trace

/-! ## What a frame shows -/

namespace Trace.Frame

/-- Does a valid port of the frame carry the sentinel? -/
def carries (f : Frame) (s : Sentinel) : Bool := Retirement.retires f.retire s

/-- Does the frame have a valid port? -/
def retiresAny (f : Frame) : Bool := Retirement.retiresAny f.retire

end Trace.Frame

namespace Signals

/-- Filling a row up with silent ports retires nothing more. -/
theorem any_fit (p : Retirement.Port → Bool) (hp : p {} = false) {row : Retirement} {ports : Nat}
    (h : row.length ≤ ports) : (fit ports {} row).any p = row.any p := by
  rw [fit_of_length_le h, List.any_append]
  have hfill : (List.replicate (ports - row.length) ({} : Retirement.Port)).any p = false := by
    rw [List.any_eq_false]
    intro port hport
    rw [List.eq_of_mem_replicate hport, hp]
    exact Bool.false_ne_true
  rw [hfill, Bool.or_false]

theorem retires_ofFrame {ports width : Nat} {f : Frame} (h : f.retire.length ≤ ports)
    (s : Sentinel) : (ofFrame ports width f).retirement.retires s = f.carries s :=
  any_fit (fun port => port.valid && port.instruction == s.encoding) rfl h

theorem retiresAny_ofFrame {ports width : Nat} {f : Frame} (h : f.retire.length ≤ ports) :
    (ofFrame ports width f).retirement.retiresAny = f.retiresAny :=
  any_fit (fun port => port.valid) rfl h

/-- An event that a frame does not list is zero. -/
theorem getD_events_ofFrame {ports width : Nat} {f : Frame} (h : f.events.length ≤ width)
    (i : Nat) : (ofFrame ports width f).events.getD i 0 = f.events.getD i 0 := by
  show (fit width 0 f.events).getD i 0 = _
  rw [fit_of_length_le h]
  simp only [List.getD_eq_getElem?_getD]
  rcases Nat.lt_or_ge i f.events.length with hlt | hge
  · rw [List.getElem?_append_left hlt]
  · rw [List.getElem?_append_right hge, List.getElem?_eq_none hge, List.getElem?_replicate]
    split <;> rfl

end Signals

namespace Replay

/-! ## The place of a device in its trace -/

/-- The device has shown `applied` cycles of its trace since reset: the others are left, and it
shows the last of them. -/
structure Tracks (r : Replay) : Prop where
  /-- The current frame is not used up. -/
  inPlace : InPlace r.pending r.held
  /-- What is left is the expansion without the cycles shown. -/
  left : unplayed r.pending r.held = (expansion r.trace.frames).drop r.applied
  /-- The signals are those of the cycle shown last. -/
  shown : r.signals = r.drive (frameAt r.trace.frames r.applied)

theorem tracks_start (trace : Trace) : (start trace).Tracks where
  inPlace := inPlace_zero _
  left := by
    rw [show (start trace).held = 0 from rfl, unplayed_zero]
    rfl
  shown := rfl

/-- The frame that comes next is that of the following cycle. -/
theorem Tracks.next_eq {r : Replay} (h : r.Tracks) :
    r.next = frameAt r.trace.frames (r.applied + 1) := by
  rw [next, ← headD_unplayed h.inPlace, h.left, frameAt_succ]

theorem Tracks.rewind {r : Replay} : r.rewind.Tracks where
  inPlace := inPlace_zero _
  left := by
    rw [show r.rewind.held = 0 from rfl, unplayed_zero]
    rfl
  shown := rfl

theorem Tracks.advance {r : Replay} (h : r.Tracks) : r.advance.Tracks where
  inPlace := inPlace_consume h.inPlace
  left := by
    show unplayed (consume r.pending r.held).1 (consume r.pending r.held).2
      = (expansion r.trace.frames).drop (r.applied + 1)
    rw [unplayed_consume h.inPlace, h.left, List.tail_drop]
  shown := by
    show r.drive r.next = r.drive (frameAt r.trace.frames (r.applied + 1))
    rw [h.next_eq]

/-- A rising edge keeps the device on its trace, with reset released or asserted. -/
theorem Tracks.risingEdge {r : Replay} (h : r.Tracks) : r.risingEdge.Tracks := by
  unfold Replay.risingEdge
  split
  · exact Tracks.rewind
  · exact Tracks.advance (r := r.record) ⟨h.inPlace, h.left, h.shown⟩

theorem Tracks.eval {r : Replay} (h : r.Tracks) : r.eval.Tracks := by
  unfold Replay.eval
  split
  · exact ⟨h.risingEdge.inPlace, h.risingEdge.left, h.risingEdge.shown⟩
  · exact ⟨h.inPlace, h.left, h.shown⟩

theorem Tracks.setClock {r : Replay} (h : r.Tracks) (level : Bool) : (r.setClock level).Tracks :=
  ⟨h.inPlace, h.left, h.shown⟩

theorem Tracks.setReset {r : Replay} (h : r.Tracks) (level : Bool) : (r.setReset level).Tracks :=
  ⟨h.inPlace, h.left, h.shown⟩

/-! ## Every device is on its trace -/

/-- A device as it is made for a trace: with or without a bus port, recording or not. -/
inductive New (trace : Trace) : Replay → Prop
  | ofTrace {r : Replay} : Replay.ofTrace trace = .ok r → New trace r
  | withPort {r : Replay} : New trace r → New trace r.withPort
  | withRecording {r : Replay} : New trace r → New trace r.withRecording

/-- A device after any operations in any order. -/
inductive Driven (trace : Trace) : Replay → Prop
  | new {r : Replay} : New trace r → Driven trace r
  | setClock {r : Replay} (level : Bool) : Driven trace r → Driven trace (r.setClock level)
  | setReset {r : Replay} (level : Bool) : Driven trace r → Driven trace (r.setReset level)
  | eval {r : Replay} : Driven trace r → Driven trace r.eval
  | presentInstruction {r : Replay} (word : UInt32) :
      Driven trace r → Driven trace (r.presentInstruction word)
  | presentData {r : Replay} (word : UInt32) : Driven trace r → Driven trace (r.presentData word)
  | exchange {r : Replay} (port : Option Ddr.Port) :
      Driven trace r → Driven trace { r with port }

@[simp] theorem trace_risingEdge (r : Replay) : r.risingEdge.trace = r.trace := by
  unfold risingEdge
  split <;> rfl

@[simp] theorem trace_eval (r : Replay) : r.eval.trace = r.trace := by
  unfold eval
  split <;> simp

theorem eq_start_of_ofTrace {trace : Trace} {r : Replay} (h : ofTrace trace = .ok r) :
    r = start trace ∧ trace.Sound := by
  cases hd : trace.defect? with
  | some d =>
      rw [ofTrace, hd] at h
      cases h
  | none =>
      rw [ofTrace_of_fits hd] at h
      split at h
      · exact ⟨(Except.ok.inj h).symm, defect?_eq_none_iff.1 hd⟩
      · cases h

/-- A new device stands at the beginning of a sound trace and has seen its clock high. -/
theorem New.spec {trace : Trace} {r : Replay} (h : New trace r) :
    trace.Sound ∧ r.trace = trace ∧ r.Tracks ∧ r.applied = 0 ∧ r.pending = trace.frames
      ∧ r.held = 0 ∧ r.sampled = true ∧ r.resetting = false := by
  induction h with
  | ofTrace h =>
      obtain ⟨rfl, hsound⟩ := eq_start_of_ofTrace h
      exact ⟨hsound, rfl, tracks_start trace, rfl, rfl, rfl, rfl, rfl⟩
  | withPort _ ih =>
      obtain ⟨hsound, ht, htracks, hrest⟩ := ih
      exact ⟨hsound, ht, ⟨htracks.inPlace, htracks.left, htracks.shown⟩, hrest⟩
  | withRecording _ ih =>
      obtain ⟨hsound, ht, htracks, hrest⟩ := ih
      exact ⟨hsound, ht, ⟨htracks.inPlace, htracks.left, htracks.shown⟩, hrest⟩

/-- **However a device is driven, it stays on its trace.** -/
theorem Driven.tracks {trace : Trace} {r : Replay} (h : Driven trace r) :
    trace.Sound ∧ r.trace = trace ∧ r.Tracks := by
  induction h with
  | new h => exact ⟨h.spec.1, h.spec.2.1, h.spec.2.2.1⟩
  | eval _ ih =>
      obtain ⟨hsound, ht, htracks⟩ := ih
      exact ⟨hsound, by rw [trace_eval, ht], htracks.eval⟩
  | setClock level _ ih => exact ⟨ih.1, ih.2.1, ih.2.2.setClock level⟩
  | setReset level _ ih => exact ⟨ih.1, ih.2.1, ih.2.2.setReset level⟩
  | presentInstruction _ _ ih =>
      exact ⟨ih.1, ih.2.1, ⟨ih.2.2.inPlace, ih.2.2.left, ih.2.2.shown⟩⟩
  | presentData _ _ ih => exact ⟨ih.1, ih.2.1, ⟨ih.2.2.inPlace, ih.2.2.left, ih.2.2.shown⟩⟩
  | exchange _ _ ih => exact ⟨ih.1, ih.2.1, ⟨ih.2.2.inPlace, ih.2.2.left, ih.2.2.shown⟩⟩

end Replay

/-! ## The clock edges of a tick -/

namespace Bench

open Replay

/-- For a device that saw its clock high, the edges of a tick are one rising edge. -/
theorem clockDevice_eq {r : Replay} (h : r.sampled = true) :
    clockDevice r = { r.risingEdge with clock := true, sampled := true } := by
  have hhigh : (r.setClock true).eval = { r with clock := true, sampled := true } := by
    simp [eval, setClock, h]
  rw [clockDevice, hhigh, cycle_eq, Replay.risingEdge, Replay.risingEdge]
  by_cases hr : r.resetting = true
  · rw [if_pos hr, if_pos hr]
    rfl
  · rw [if_neg hr, if_neg hr]
    rfl

@[simp] theorem sampled_clockDevice (r : Replay) : (clockDevice r).sampled = true := by
  rw [clockDevice, cycle_eq]

@[simp] theorem resetting_clockDevice (r : Replay) :
    (clockDevice r).resetting = r.resetting := by
  simp [clockDevice, setClock]

@[simp] theorem trace_clockDevice (r : Replay) : (clockDevice r).trace = r.trace := by
  simp [clockDevice, cycle, setClock]

theorem tracks_clockDevice {r : Replay} (h : r.Tracks) : (clockDevice r).Tracks := by
  have hhigh : ((r.setClock true).eval).Tracks := (h.setClock true).eval
  have hlow : ((((r.setClock true).eval).setClock false).eval).Tracks :=
    (hhigh.setClock false).eval
  exact (hlow.setClock true).eval

/-- A tick with reset released shows one cycle. -/
theorem applied_clockDevice {r : Replay} (hs : r.sampled = true) (hr : r.resetting = false) :
    (clockDevice r).applied = r.applied + 1 := by
  rw [clockDevice_eq hs]
  show r.risingEdge.applied = _
  rw [Replay.risingEdge, hr]
  rfl

/-- A device at the beginning of its trace, showing silence. -/
structure Rewound (r : Replay) : Prop where
  pending : r.pending = r.trace.frames
  held : r.held = 0
  applied : r.applied = 0
  signals : r.signals = r.drive .idle

/-- A tick under reset goes back to the beginning, also if the device saw its clock low. -/
theorem rewound_clockDevice {r : Replay} (hr : r.resetting = true) : Rewound (clockDevice r) := by
  have hhigh : ((r.setClock true).eval).resetting = true := by simp [setClock, hr]
  rw [clockDevice, cycle_eq, Replay.risingEdge, if_pos hhigh]
  exact ⟨rfl, rfl, rfl, rfl⟩

end Bench

end Testbench
