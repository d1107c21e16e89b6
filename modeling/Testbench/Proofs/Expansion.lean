import Testbench.Replay

/-!
# What is left of a trace

A device keeps its place in a trace as the frames from the current one on together with the cycles
for which that one has been held.  This file reads such a place as the list of cycles that are still
to be shown (`unplayed`) and says that using up a cycle takes exactly the first entry off that list
(`unplayed_consume`), so that hold-down is nothing but an economical form of the expansion.

A place makes sense when the current frame has been held for less than its hold (`InPlace`).  Every
place that a device can reach is of this kind, since `consume` keeps it so (`inPlace_consume`).
-/

namespace Testbench.Replay

open Trace

/-- A place in a trace: the current frame has at least one cycle left. -/
def InPlace (pending : List Frame) (held : Nat) : Prop := held < (pending.headD .idle).hold

/-- The cycles that are still to be shown, one entry for each. -/
def unplayed : List Frame → Nat → List Frame
  | [], _ => []
  | f :: rest, held => List.replicate (f.hold - held) f ++ expansion rest

theorem inPlace_zero (pending : List Frame) : InPlace pending 0 := Frame.one_le_hold _

/-- At the beginning of a frame the whole expansion is left. -/
theorem unplayed_zero (pending : List Frame) : unplayed pending 0 = expansion pending := by
  cases pending with
  | nil => rfl
  | cons f rest => simp [unplayed, expansion]

/-- The first cycle that is left shows the current frame, and silence if none is left. -/
theorem headD_unplayed {pending : List Frame} {held : Nat} (h : InPlace pending held) :
    (unplayed pending held).headD .idle = pending.headD .idle := by
  cases pending with
  | nil => rfl
  | cons f rest =>
      have hlt : held < f.hold := h
      obtain ⟨k, hk⟩ : ∃ k, f.hold - held = k + 1 := ⟨f.hold - held - 1, by omega⟩
      simp [unplayed, hk, List.replicate_succ]

/-- **Using up a cycle takes the first entry off what is left.** -/
theorem unplayed_consume {pending : List Frame} {held : Nat} (h : InPlace pending held) :
    unplayed (consume pending held).1 (consume pending held).2 = (unplayed pending held).tail := by
  cases pending with
  | nil => rfl
  | cons f rest =>
      have hlt : held < f.hold := h
      obtain ⟨k, hk⟩ : ∃ k, f.hold - held = k + 1 := ⟨f.hold - held - 1, by omega⟩
      simp only [consume]
      split
      · -- the frame is used up, so its hold was over with this cycle
        have hzero : k = 0 := by omega
        rw [unplayed_zero, unplayed, hk, hzero]
        rfl
      · have hsucc : f.hold - (held + 1) = k := by omega
        rw [unplayed, unplayed, hk, hsucc, List.replicate_succ]
        rfl

theorem inPlace_consume {pending : List Frame} {held : Nat} (h : InPlace pending held) :
    InPlace (consume pending held).1 (consume pending held).2 := by
  cases pending with
  | nil => exact h
  | cons f rest =>
      simp only [consume]
      split
      · exact inPlace_zero rest
      · rename_i hle
        show held + 1 < f.hold
        omega

/-- The cycles left are those of the frames from the current one on, less the cycles for which that
one has been held. -/
theorem cyclesLeft_eq {pending : List Frame} {held : Nat} (h : InPlace pending held) :
    cyclesLeft pending held = span pending - held := by
  cases pending with
  | nil => simp [cyclesLeft, span]
  | cons f rest =>
      have hlt : held < f.hold := h
      simp only [cyclesLeft, span]
      omega

end Testbench.Replay

namespace Testbench.Trace

/-! ## The frames of single cycles -/

@[simp] theorem frameAt_zero (frames : List Frame) : frameAt frames 0 = .idle := rfl

/-- The frame of a cycle is the first of those left when the cycles before it are taken off. -/
theorem frameAt_succ (frames : List Frame) (n : Nat) :
    frameAt frames (n + 1) = ((expansion frames).drop n).headD .idle := by
  rw [frameAt, List.headD_eq_head?_getD, List.head?_drop, List.getD_eq_getElem?_getD]

/-- A cycle shows a frame of the trace or silence. -/
theorem frameAt_mem_or_eq_idle (frames : List Frame) (n : Nat) :
    frameAt frames n ∈ frames ∨ frameAt frames n = .idle := by
  cases n with
  | zero => exact Or.inr rfl
  | succ k =>
      rw [frameAt, List.getD_eq_getElem?_getD]
      cases h : (expansion frames)[k]? with
      | none => exact Or.inr rfl
      | some f =>
          obtain ⟨g, hg, hf⟩ := List.mem_flatMap.1 (List.mem_of_getElem? h)
          rw [List.eq_of_mem_replicate hf]
          exact Or.inl hg

/-- No cycle of a sound trace drives more ports or events than there are. -/
theorem Sound.length_frameAt_le {t : Trace} (h : t.Sound) (n : Nat) :
    (frameAt t.frames n).retire.length ≤ t.ports
      ∧ (frameAt t.frames n).events.length ≤ t.eventWidth := by
  rcases frameAt_mem_or_eq_idle t.frames n with hmem | hidle
  · exact h.2 _ hmem
  · rw [hidle]
    exact ⟨Nat.zero_le _, Nat.zero_le _⟩

end Testbench.Trace
