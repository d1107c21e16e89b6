import Testbench.Trace.Frame

/-!
# Traces

A trace is a list of frames for a device with a fixed number of retirement ports and event signals.
It is sound when the device has a port and no frame drives more ports or events than the device has.
Its expansion lists a frame once for each cycle it is held (`expansion`).
-/

namespace Testbench

/-- The recorded behaviour of a device. -/
structure Trace where
  /-- The number of retirement ports. -/
  ports : Nat
  /-- The number of event signals. -/
  eventWidth : Nat
  /-- Whether the device has a bus port. -/
  ddrPort : Bool := false
  /-- The frames in order. -/
  frames : List Trace.Frame
  deriving DecidableEq, Repr, Inhabited

namespace Trace

/-- Why a trace does not fit its device. -/
inductive Defect where
  /-- The device has no retirement port. -/
  | noPorts
  /-- A frame drives more ports than there are. -/
  | portExcess (frame driven ports : Nat)
  /-- A frame drives more events than there are. -/
  | eventExcess (frame driven width : Nat)
  deriving DecidableEq, Repr, Inhabited

/-- The text of a defect. -/
def Defect.message : Defect → String
  | .noPorts => "trace needs at least one retirement port"
  | .portExcess frame driven ports =>
      "trace frame " ++ toString frame ++ " retires on " ++ toString driven
        ++ " ports but the model has " ++ toString ports
  | .eventExcess frame driven width =>
      "trace frame " ++ toString frame ++ " drives " ++ toString driven
        ++ " events but the vector is " ++ toString width ++ " wide"

/-- The defect of a frame at an index. -/
def frameDefect? (ports eventWidth index : Nat) (f : Frame) : Option Defect :=
  if ports < f.retire.length then some (.portExcess index f.retire.length ports)
  else if eventWidth < f.events.length then some (.eventExcess index f.events.length eventWidth)
  else none

/-- The first defect of a trace. -/
def defect? (t : Trace) : Option Defect :=
  if t.ports = 0 then some .noPorts
  else t.frames.zipIdx.findSome? fun (f, index) => frameDefect? t.ports t.eventWidth index f

/-- A trace without a defect. -/
def Sound (t : Trace) : Prop :=
  0 < t.ports
    ∧ ∀ f ∈ t.frames, f.retire.length ≤ t.ports ∧ f.events.length ≤ t.eventWidth

/-- The frames, each once for every cycle it is held. -/
def expansion (frames : List Frame) : List Frame := frames.flatMap fun f => List.replicate f.hold f

/-- The number of cycles that frames cover. -/
def span : List Frame → Nat
  | [] => 0
  | f :: rest => f.hold + span rest

/-- The frame of cycle `n`, counted from one: an entry of the expansion, and silence behind its end
and before its beginning. -/
def frameAt (frames : List Frame) (n : Nat) : Frame :=
  match n with
  | 0 => .idle
  | n + 1 => (expansion frames).getD n .idle

theorem length_expansion (frames : List Frame) : (expansion frames).length = span frames := by
  induction frames with
  | nil => rfl
  | cons f rest ih =>
      rw [span, ← ih]
      simp [expansion]

theorem frameDefect?_eq_none_iff {ports eventWidth index : Nat} {f : Frame} :
    frameDefect? ports eventWidth index f = none ↔
      f.retire.length ≤ ports ∧ f.events.length ≤ eventWidth := by
  unfold frameDefect?
  split
  · simp
    omega
  · split
    · simp
      omega
    · simp
      omega

/-- The check finds nothing exactly on sound traces. -/
theorem defect?_eq_none_iff {t : Trace} : t.defect? = none ↔ t.Sound := by
  unfold defect? Sound
  split
  · simp_all
  · rw [List.findSome?_eq_none_iff]
    constructor
    · intro h
      refine ⟨by omega, fun f hf => ?_⟩
      obtain ⟨i, hi, rfl⟩ := List.mem_iff_getElem.1 hf
      exact frameDefect?_eq_none_iff.1 (h (t.frames[i], i) (by simp [List.mem_zipIdx_iff_getElem?]))
    · rintro ⟨-, h⟩ ⟨f, index⟩ hmem
      exact frameDefect?_eq_none_iff.2 (h f (List.fst_mem_of_mem_zipIdx hmem))

end Trace

end Testbench
