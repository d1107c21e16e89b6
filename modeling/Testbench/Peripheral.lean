import Testbench.Ddr.Basic

/-!
# Peripherals

One peripheral is stepped beside the device, once per cycle.  It is absent, and then leaves the bus
port alone, or a memory, or it just counts its steps.  A memory without a bus port does nothing.
-/

namespace Testbench

/-- What is connected to the bus port. -/
inductive Peripheral where
  | idle
  | memory (ddr : Ddr)
  /-- Leaves the bus port alone and counts its steps, and those among them with a bus port. -/
  | counting (steps withPort : Nat)
  deriving DecidableEq, Repr, Inhabited

namespace Peripheral

/-- One step of the peripheral and the port. -/
def step (p : Peripheral) (port : Option Ddr.Port) : Peripheral × Option Ddr.Port :=
  match p, port with
  | .memory ddr, some port =>
      let (ddr, port) := ddr.step port
      (.memory ddr, some port)
  | .counting steps withPort, port => (.counting (steps + 1) (withPort + port.toList.length), port)
  | p, port => (p, port)

/-- Would the coming step form a latency that leaves the sixty-four-bit range? -/
def stepOverflows (p : Peripheral) (port : Option Ddr.Port) : Bool :=
  match p, port with
  | .memory ddr, some port => ddr.stepOverflows port
  | _, _ => false

/-- The events that a step raises. -/
def stepEvents (p : Peripheral) (port : Option Ddr.Port) : List Event :=
  match p, port with
  | .memory ddr, some port => ddr.stepEvents port
  | _, _ => []

@[simp] theorem step_idle (port : Option Ddr.Port) :
    Peripheral.idle.step port = (.idle, port) := rfl

@[simp] theorem stepOverflows_idle (port : Option Ddr.Port) :
    Peripheral.idle.stepOverflows port = false := rfl

end Peripheral

end Testbench
