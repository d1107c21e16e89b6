import Testbench.Config.Basic
import Testbench.Ending
import Testbench.Peripheral
import Testbench.Region
import Testbench.Replay
import Testbench.Uart.Sink
import Testbench.Watchdog

/-!
# The bench

The bench clocks a device and serves everything around it.  One tick is one full clock cycle: the
clock goes high, low and high again, and then, looking at what the device shows after the edge, the
peripheral is stepped, the benchmark region is updated, a byte for the serial port is passed on, the
memory interfaces are served through their output registers, and the verdicts on the cycle are
formed.  A tick is a total function of the state (`tick`).

The only part of a tick that can leave its range is the latency that a memory behind the bus forms
when it accepts a request.  `overflows` says beforehand whether the coming tick would do so; whoever
takes ticks stops there (`abortWithin`).
-/

namespace Testbench

/-- What the last tick found out. -/
structure Verdict where
  /-- How the program ended, if it did. -/
  ending : Option Ending := none
  /-- Whether the watchdog tripped. -/
  stalled : Bool := false
  deriving DecidableEq, Repr, Inhabited

/-- A device and everything it is connected to. -/
structure Bench where
  /-- The device. -/
  device : Replay
  /-- The local memory. -/
  memory : LocalMemory
  /-- The output registers of the memory interfaces. -/
  registers : ReadRegisters
  /-- What is connected to the bus port. -/
  peripheral : Peripheral := .idle
  /-- The destinations of the serial port. -/
  uart : Uart.Sink := .capturing
  /-- The benchmark region with its counters. -/
  region : Region
  /-- The stall watchdog. -/
  watchdog : Watchdog
  /-- The watch for the end of the program. -/
  detector : EndDetector := {}
  /-- The ticks that reset is held. -/
  resetCycles : Nat
  /-- The ticks since reset after which a run is cut off. -/
  maxCycles : Option Nat
  /-- The half cycles of the clock since the beginning. -/
  halfPhases : Nat := 0
  /-- The ticks since reset was last released. -/
  cycles : Nat := 0
  /-- What the last tick found out. -/
  verdict : Verdict := {}
  deriving Inhabited

namespace Bench

/-- The half cycles in a tick. -/
def phasesPerTick : Nat := 2

/-- A bench as a configuration describes it, around a device and a memory.  It has no peripheral and
only captures the serial port. -/
def start (device : Replay) (memory : LocalMemory) (config : Config) : Bench where
  device := device
  memory := memory
  registers := .primed memory device.signals.fetch
  region := .closed config.counterNames
  watchdog := { limit := config.general.stallLimit }
  resetCycles := config.general.resetCycles
  maxCycles := config.general.maxCycles

/-- The events that setting up a bench raises. -/
def startEvents (device : Replay) (memory : LocalMemory) : List Event :=
  memory.readEvents device.signals.fetch.address

/-- Connects a peripheral to the bus port. -/
def withPeripheral (b : Bench) (peripheral : Peripheral) : Bench := { b with peripheral }

/-- Passes the bytes of the serial port on to a sink. -/
def withUart (b : Bench) (uart : Uart.Sink) : Bench := { b with uart }

/-- The full clock cycles so far. -/
def fullCycles (b : Bench) : Nat := b.halfPhases / phasesPerTick

/-! ## One tick -/

/-- A device after the clock edges of a tick. -/
def clockDevice (device : Replay) : Replay := ((device.setClock true).eval).cycle

/-- One clock cycle. -/
def tick : Bench → Bench
  | { device, memory, registers, peripheral, uart, region, watchdog, detector, resetCycles,
      maxCycles, halfPhases, cycles, verdict := _ } =>
    let device := clockDevice device
    let (peripheral, port) := peripheral.step device.port
    let signals := device.signals
    let device := (({ device with port }).presentInstruction registers.instruction).presentData
      registers.data
    -- both interfaces are read before the data interface writes
    let registers := registers.latch memory signals.fetch signals.data
    { device
      memory := memory.serve signals.data
      registers
      peripheral
      uart := match signals.uart with
        | some byte => uart.push byte
        | none => uart
      region := region.update signals.retirement signals.events
      watchdog := watchdog.observe signals.retirement.retiresAny
      detector := detector.observe signals.retirement
      resetCycles
      maxCycles
      halfPhases := halfPhases + phasesPerTick
      cycles := cycles + 1
      verdict := {
        ending := detector.verdict signals.retirement signals.storeQueueEmpty
        stalled := watchdog.trips signals.retirement.retiresAny } }

/-- The bench after `n` ticks. -/
def ticks : Nat → Bench → Bench
  | 0, b => b
  | n + 1, b => ticks n b.tick

/-- Would the coming tick form a latency that leaves the sixty-four-bit range? -/
def overflows (b : Bench) : Bool :=
  match b.peripheral with
  | .memory ddr => (clockDevice b.device).port.any ddr.stepOverflows
  | _ => false

/-- The first of the coming `n` states whose next tick would overflow. -/
def abortWithin : Nat → Bench → Option Bench
  | 0, _ => none
  | n + 1, b => if b.overflows then some b else abortWithin n b.tick

/-! ## Reset -/

/-- Pulls the clock low and asserts reset. -/
def assertReset (b : Bench) : Bench := { b with device := (b.device.setClock false).setReset true }

/-- Releases reset and forgets what belongs to the run before it. -/
def releaseReset (b : Bench) : Bench :=
  { b with
    device := b.device.setReset false
    region := b.region.reset
    watchdog := b.watchdog.reset
    detector := b.detector.reset
    verdict := {}
    cycles := 0 }

/-- Holds reset for the configured ticks and releases it. -/
def reset (b : Bench) : Bench := (ticks b.resetCycles b.assertReset).releaseReset

/-! ## What the journal says -/

/-- The events that a tick raises. -/
def tickEvents (b : Bench) : List Event :=
  let device := clockDevice b.device
  let signals := device.signals
  b.peripheral.stepEvents device.port
    ++ b.region.updateEvents signals.retirement
    ++ (match signals.uart with
        | some byte => b.uart.pushEvents byte
        | none => [])
    ++ b.memory.serveEvents signals.fetch signals.data
    ++ [{ severity := .trace, message := "tick",
          fields := [("cycle_count", toString (b.halfPhases + phasesPerTick))] }]

/-- The events that `n` ticks raise. -/
def ticksEvents : Nat → Bench → List Event
  | 0, _ => []
  | n + 1, b => b.tickEvents ++ ticksEvents n b.tick

/-- The events that a reset raises. -/
def resetEvents (b : Bench) : List Event :=
  ticksEvents b.resetCycles b.assertReset
    ++ [{ severity := .info, message := "reset released",
          fields := [("reset_cycles", toString b.resetCycles),
            ("cycle_count", toString b.reset.halfPhases)] }]

/-! ## The debugging text -/

/-- The debugging text of a bench. -/
def describe (b : Bench) : String :=
  let cap := match b.maxCycles with
    | some n => "Some(" ++ toString n ++ ")"
    | none => "None"
  "SimulationDriver \x7b cycle_count: " ++ toString b.halfPhases
    ++ ", cycles_since_reset: " ++ toString b.cycles
    ++ ", reset_cycles: " ++ toString b.resetCycles
    ++ ", max_cycles: " ++ cap
    ++ ", watchdog: StallWatchdog \x7b limit: " ++ toString b.watchdog.limit
    ++ ", count: " ++ toString b.watchdog.count
    ++ " \x7d, termination: TerminationDetector \x7b program_complete: "
    ++ Text.ofBool b.detector.programComplete
    ++ " \x7d, stats: " ++ b.region.mode.label ++ ", uart: " ++ b.uart.describe ++ ", .. \x7d"

end Bench

end Testbench
