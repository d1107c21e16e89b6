import Testbench.SetupError

/-!
# A device that replays a trace

The replayed device is clocked from outside.  Its inputs are a clock level and a reset level, and it
looks at them only when it is evaluated: an evaluation that finds the clock high after one that
found it low is a rising edge.  The clock counts as high before the first evaluation.

A rising edge with reset released shows the next cycle of the trace, and silence once the trace is
used up.  A rising edge with reset asserted shows silence and goes back to the beginning.  What is
still to be shown is kept as the frames from the current one on and the cycles for which the current
one has been held, so a long hold costs nothing.

A recording device also keeps the words that the bench presents to it and the bus responses it finds
on rising edges.
-/

namespace Testbench

/-- A device that replays a trace. -/
structure Replay where
  /-- The trace. -/
  trace : Trace
  /-- The frames that are not used up, from the current one on. -/
  pending : List Trace.Frame
  /-- The cycles for which the first of them has been held. -/
  held : Nat := 0
  /-- The cycles shown since reset was last asserted. -/
  applied : Nat := 0
  /-- The level of the clock input. -/
  clock : Bool := true
  /-- The level of the clock at the last evaluation. -/
  sampled : Bool := true
  /-- The level of the reset input. -/
  resetting : Bool := false
  /-- The rising edges so far. -/
  edges : Nat := 0
  /-- What the device shows. -/
  signals : Signals
  /-- The bus port, if the device has one. -/
  port : Option Ddr.Port := none
  /-- Whether the device keeps what it is presented with. -/
  recording : Bool := false
  /-- The words presented on the instruction interface. -/
  instructionWords : Array UInt32 := #[]
  /-- The words presented on the data interface. -/
  dataWords : Array UInt32 := #[]
  /-- The responses found on the bus port. -/
  responses : Array Ddr.Response := #[]
  deriving DecidableEq, Repr, Inhabited

namespace Replay

/-- What the device drives while a frame is held. -/
def drive (r : Replay) (f : Trace.Frame) : Signals :=
  .ofFrame r.trace.ports r.trace.eventWidth f

/-- A device at the beginning of a trace. -/
def start (trace : Trace) : Replay where
  trace := trace
  pending := trace.frames
  signals := .ofFrame trace.ports trace.eventWidth .idle
  port := if trace.ddrPort then some {} else none

/-- The bytes that a retirement port takes. -/
def bytesPerPort : Nat := 8

/-- The bytes that an event signal takes. -/
def bytesPerEvent : Nat := 4

/-- A device for a trace, unless the trace does not fit it or has too many ports or event signals
for them to be stored. -/
def ofTrace (trace : Trace) : Except SetupError Replay :=
  match trace.defect? with
  | some d => .error (.trace d)
  | none => do
      (Overflow.reserve (trace.ports * bytesPerPort)).mapError .overflow
      (Overflow.reserve (trace.eventWidth * bytesPerEvent)).mapError .overflow
      .ok (start trace)

/-- What is made for a trace that fits is the device at its beginning, or nothing if it is too large
to be stored. -/
theorem ofTrace_of_fits {trace : Trace} (h : trace.defect? = none) : ofTrace trace =
    if trace.ports * bytesPerPort ≤ Overflow.greatestStore
        ∧ trace.eventWidth * bytesPerEvent ≤ Overflow.greatestStore then .ok (start trace)
    else .error (.overflow .capacity) := by
  unfold ofTrace
  rw [h]
  dsimp only
  rcases Nat.lt_or_ge Overflow.greatestStore (trace.ports * bytesPerPort) with hports | hports
  · rw [Overflow.reserve_of_lt hports, if_neg (by omega)]
    rfl
  · rw [Overflow.reserve_of_le hports]
    rcases Nat.lt_or_ge Overflow.greatestStore (trace.eventWidth * bytesPerEvent) with
      hevents | hevents
    · rw [Overflow.reserve_of_lt hevents, if_neg (by omega)]
      rfl
    · rw [Overflow.reserve_of_le hevents, if_pos ⟨hports, hevents⟩]
      rfl

/-- Gives the device a bus port. -/
def withPort (r : Replay) : Replay := { r with port := some {} }

/-- Makes the device keep what it is presented with. -/
def withRecording (r : Replay) : Replay := { r with recording := true }

/-- The cycles left of frames of which the first has been held for some cycles.  A frame that is not
used up is shown at least once more. -/
def cyclesLeft : List Trace.Frame → Nat → Nat
  | [], _ => 0
  | f :: rest, held => max (f.hold - held) 1 + Trace.span rest

/-- The cycles of the trace that have not been shown. -/
def remaining (r : Replay) : Nat := cyclesLeft r.pending r.held

/-- The frame that the next rising edge shows if reset is released. -/
def next (r : Replay) : Trace.Frame := r.pending.headD .idle

/-- What has been kept after something more was found, if the device records. -/
def keep {α : Type} (recording : Bool) (kept : Array α) (found : Option α) : Array α :=
  match recording, found with
  | true, some value => kept.push value
  | _, _ => kept

/-- Counts a rising edge and keeps the response on the bus port, if the device records. -/
def record (r : Replay) : Replay :=
  { r with
    edges := r.edges + 1
    responses := keep r.recording r.responses (r.port.bind (·.response)) }

/-- Goes back to the beginning of the trace and shows silence. -/
def rewind (r : Replay) : Replay :=
  { r with pending := r.trace.frames, held := 0, applied := 0, signals := r.drive .idle }

/-- Places a request on the bus port, if there is one. -/
def place (port : Option Ddr.Port) (request : Option Ddr.Request) : Option Ddr.Port :=
  match request with
  | some q => port.map fun p => { p with request := some q }
  | none => port

/-- Uses up one cycle of the trace. -/
def consume : List Trace.Frame → Nat → List Trace.Frame × Nat
  | [], held => ([], held)
  | f :: rest, held => if f.hold ≤ held + 1 then (rest, 0) else (f :: rest, held + 1)

/-- Shows the next cycle of the trace. -/
def advance (r : Replay) : Replay :=
  { r with
    pending := (consume r.pending r.held).1
    held := (consume r.pending r.held).2
    applied := r.applied + 1
    signals := r.drive r.next
    port := place r.port r.next.ddr }

/-- A rising edge of the clock. -/
def risingEdge (r : Replay) : Replay :=
  if r.resetting then r.record.rewind else r.record.advance

/-- Drives the clock input. -/
def setClock (r : Replay) (level : Bool) : Replay := { r with clock := level }

/-- Drives the reset input. -/
def setReset (r : Replay) (level : Bool) : Replay := { r with resetting := level }

/-- Looks at the inputs. -/
def eval (r : Replay) : Replay :=
  { (if r.clock && !r.sampled then r.risingEdge else r) with sampled := r.clock }

/-- Presents a word on the instruction interface. -/
def presentInstruction (r : Replay) (word : UInt32) : Replay :=
  { r with instructionWords := keep r.recording r.instructionWords (some word) }

/-- Presents a word on the data interface. -/
def presentData (r : Replay) (word : UInt32) : Replay :=
  { r with dataWords := keep r.recording r.dataWords (some word) }

/-- One clock cycle: the clock goes low and high again, with an evaluation at each level. -/
def cycle (r : Replay) : Replay := (((r.setClock false).eval).setClock true).eval

/-! ## What is left of the trace -/

theorem cyclesLeft_zero (frames : List Trace.Frame) : cyclesLeft frames 0 = Trace.span frames := by
  cases frames with
  | nil => rfl
  | cons f rest =>
      have h := f.one_le_hold
      simp only [cyclesLeft, Trace.span]
      omega

/-- Using up a cycle leaves one cycle less. -/
theorem cyclesLeft_consume (frames : List Trace.Frame) (held : Nat) :
    cyclesLeft (consume frames held).1 (consume frames held).2 = cyclesLeft frames held - 1 := by
  cases frames with
  | nil => rfl
  | cons f rest =>
      simp only [consume]
      split
      · show cyclesLeft rest 0 = _
        rw [cyclesLeft_zero, cyclesLeft]
        omega
      · simp only [cyclesLeft]
        omega

theorem next_of_remaining_eq_zero {r : Replay} (h : r.remaining = 0) : r.next = .idle := by
  unfold remaining at h
  unfold next
  cases hp : r.pending with
  | nil => rfl
  | cons f rest =>
      rw [hp] at h
      simp only [cyclesLeft] at h
      omega

/-- A frame in which nothing happens retires nothing. -/
theorem retiresAny_drive_idle (r : Replay) : (r.drive .idle).retirement.retiresAny = false := by
  have h : ∀ n : Nat, (Signals.fit n ({} : Retirement.Port) []).any (·.valid) = false := by
    intro n
    simp [Signals.fit]
  exact h _

/-! ## One rising edge per clock cycle -/

@[simp] theorem clock_risingEdge (r : Replay) : r.risingEdge.clock = r.clock := by
  unfold risingEdge
  split <;> rfl

@[simp] theorem resetting_risingEdge (r : Replay) : r.risingEdge.resetting = r.resetting := by
  unfold risingEdge
  split <;> rfl

@[simp] theorem resetting_eval (r : Replay) : r.eval.resetting = r.resetting := by
  unfold eval
  split <;> simp

/-- A clock cycle is one rising edge, whatever the levels of the clock were before. -/
theorem cycle_eq (r : Replay) :
    r.cycle = { ({ r with clock := true, sampled := false } : Replay).risingEdge with
      sampled := true } := by
  have hlow : (r.setClock false).eval = { r with clock := false, sampled := false } := rfl
  rw [cycle, hlow]
  show { ({ r with clock := true, sampled := false } : Replay).risingEdge with
    sampled := true } = _
  rfl

@[simp] theorem resetting_cycle (r : Replay) : r.cycle.resetting = r.resetting := by
  simp [cycle_eq]

/-- A rising edge with reset released shows one cycle of what is left. -/
theorem remaining_risingEdge {r : Replay} (h : r.resetting = false) :
    r.risingEdge.remaining = r.remaining - 1 := by
  rw [risingEdge, h]
  exact cyclesLeft_consume r.pending r.held

theorem remaining_cycle {r : Replay} (h : r.resetting = false) :
    r.cycle.remaining = r.remaining - 1 := by
  have := remaining_risingEdge (r := { r with clock := true, sampled := false }) h
  rw [cycle_eq]
  exact this

theorem remaining_eval_le {r : Replay} (h : r.resetting = false) :
    r.eval.remaining ≤ r.remaining := by
  unfold eval
  split
  · have := remaining_risingEdge h
    show r.risingEdge.remaining ≤ r.remaining
    omega
  · exact Nat.le_refl _

/-- A clock cycle under reset retires nothing. -/
theorem retiresAny_cycle_of_resetting {r : Replay} (h : r.resetting = true) :
    r.cycle.signals.retirement.retiresAny = false := by
  rw [cycle_eq, risingEdge, if_pos h]
  exact retiresAny_drive_idle r

/-- A clock cycle behind the end of the trace retires nothing. -/
theorem retiresAny_cycle_of_remaining_eq_zero {r : Replay} (hr : r.resetting = false)
    (h : r.remaining = 0) : r.cycle.signals.retirement.retiresAny = false := by
  have hnext : ({ r with clock := true, sampled := false } : Replay).record.next = .idle :=
    next_of_remaining_eq_zero h
  rw [cycle_eq, risingEdge, if_neg (by simp [hr])]
  show (drive _
    ({ r with clock := true, sampled := false } : Replay).record.next).retirement.retiresAny = false
  rw [hnext]
  exact retiresAny_drive_idle r

end Replay

end Testbench
