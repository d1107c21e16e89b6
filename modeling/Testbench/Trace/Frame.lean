import Testbench.Ddr.Port
import Testbench.Interface
import Testbench.Retirement

/-!
# Frames

A frame says what a device shows in one cycle, or in several cycles on end: which instructions
retire, the event vector, whether the store queue is empty, the byte for the serial port and the
requests on the memory interfaces and the bus port.  A frame lists only as many ports and events as
it drives; the device fills the rest with silence (`Signals.ofFrame`).
-/

namespace Testbench.Trace

/-- An access on the data interface. -/
structure Access where
  /-- The word index. -/
  address : UInt32 := 0
  /-- The word to write. -/
  data : UInt32 := 0
  /-- The lanes to write; none for a pure read. -/
  byteEnable : UInt8 := 0
  deriving DecidableEq, Repr, Inhabited

/-- What a device shows while the frame is held. -/
structure Frame where
  /-- The retirement ports from the lowest up. -/
  retire : List Retirement.Port := []
  /-- The event vector from its first entry up. -/
  events : List UInt32 := []
  /-- Whether the store queue is empty. -/
  storeQueueEmpty : Bool := true
  /-- The byte written to the serial port. -/
  uart : Option UInt8 := none
  /-- The word index of an instruction fetch. -/
  fetch : Option UInt32 := none
  /-- The access on the data interface. -/
  data : Option Access := none
  /-- The request placed on the bus port. -/
  ddr : Option Ddr.Request := none
  /-- For how many cycles the frame is asked to be held. -/
  repeated : Nat := 1
  deriving DecidableEq, Repr, Inhabited

namespace Frame

/-- A frame in which nothing happens. -/
def idle : Frame := {}

/-- A frame that retires words on consecutive ports. -/
def retiring (words : List UInt32) : Frame := { retire := words.map Retirement.Port.retired }

/-- For how many cycles the frame is held: at least one. -/
def hold (f : Frame) : Nat := max f.repeated 1

theorem one_le_hold (f : Frame) : 1 ≤ f.hold := Nat.le_max_right _ _

end Frame

end Testbench.Trace

namespace Testbench

open Trace

/-- What a device shows in a cycle. -/
structure Signals where
  /-- The retirement ports. -/
  retirement : Retirement
  /-- The event vector. -/
  events : List UInt32
  /-- Whether the store queue is empty. -/
  storeQueueEmpty : Bool := true
  /-- The byte written to the serial port. -/
  uart : Option UInt8 := none
  /-- The request on the instruction interface. -/
  fetch : FetchRequest := {}
  /-- The request on the data interface. -/
  data : AccessRequest := {}
  deriving DecidableEq, Repr, Inhabited

namespace Signals

/-- The list cut or filled up to a length. -/
def fit {α : Type} (length : Nat) (fill : α) (xs : List α) : List α :=
  (xs ++ List.replicate length fill).take length

/-- What a device with the given number of ports and events shows while a frame is held. -/
def ofFrame (ports eventWidth : Nat) (f : Frame) : Signals where
  retirement := fit ports {} f.retire
  events := fit eventWidth 0 f.events
  storeQueueEmpty := f.storeQueueEmpty
  uart := f.uart
  fetch := match f.fetch with
    | some address => ⟨address, true⟩
    | none => {}
  data := match f.data with
    | some access => ⟨access.address, true, access.data, access.byteEnable⟩
    | none => {}

@[simp] theorem length_fit {α : Type} (length : Nat) (fill : α) (xs : List α) :
    (fit length fill xs).length = length := by
  simp [fit]

/-- Nothing is cut off a list that is short enough. -/
theorem fit_of_length_le {α : Type} {length : Nat} {fill : α} {xs : List α}
    (h : xs.length ≤ length) :
    fit length fill xs = xs ++ List.replicate (length - xs.length) fill := by
  rw [fit, List.take_append, List.take_of_length_le h, List.take_replicate]
  congr 2
  omega

end Signals

end Testbench
