import Testbench.Ddr.Timing
import Testbench.Word

/-!
# Configuration

A configuration sets the length of reset and the budgets of a run, the sizes of the stores and where
the program goes in them, the timing of the memory behind the bus, the destinations of the serial
port and the names of the event counters.  Every setting has a default.  `defect?` finds the first
setting that would make a run meaningless.
-/

namespace Testbench

namespace Config

/-- Clocking and budgets. -/
structure General where
  /-- The cycles that reset is held. -/
  resetCycles : Nat := 64
  /-- The longest idle stretch that is put up with. -/
  stallLimit : Nat := 2000
  /-- The cycles after which a run is cut off. -/
  maxCycles : Option Nat := none
  deriving DecidableEq, Repr, Inhabited

/-- The local memory. -/
structure Memory where
  /-- The size in bytes. -/
  sizeBytes : Nat := 128 * 1024
  /-- The byte offset of the program. -/
  loadOffset : Nat := 0
  deriving DecidableEq, Repr, Inhabited

/-- The kinds of access timing. -/
inductive Controller where
  | simple
  | dram
  deriving DecidableEq, Repr, Inhabited

/-- The name of a kind of access timing. -/
def Controller.label : Controller → String
  | .simple => "Simple"
  | .dram => "Dram"

/-- The memory behind the bus. -/
structure Ddr where
  /-- Whether there is such a memory. -/
  enabled : Bool := false
  /-- The file that fills it; without one the program does. -/
  initFile : Option String := none
  /-- The bus address of its first byte. -/
  base : Nat := 0
  /-- The byte offset at which its contents go. -/
  fileOffset : Nat := 0
  /-- How much of the contents is used at most. -/
  numBytes : Option Nat := none
  /-- The size in bytes. -/
  sizeBytes : Nat := 1024 * 1024
  /-- The kind of timing. -/
  controller : Controller := .simple
  /-- The latency under fixed timing. -/
  latency : Nat := 4
  /-- The column access latency under open-row timing. -/
  cas : Nat := 14
  /-- The row activation latency under open-row timing. -/
  ras : Nat := 14
  /-- The precharge latency under open-row timing. -/
  pre : Nat := 14
  /-- The row size in bytes under open-row timing. -/
  rowBytes : Nat := 2048
  deriving DecidableEq, Repr, Inhabited

/-- The access timing that the settings describe. -/
def Ddr.timing (c : Config.Ddr) : Testbench.Ddr.Timing :=
  match c.controller with
  | .simple => .fixed c.latency
  | .dram => .openRow c.cas c.ras c.pre c.rowBytes

/-- The serial port. -/
structure Uart where
  /-- The file that every byte is appended to. -/
  logFile : Option String := none
  /-- Whether bytes are echoed to the standard output. -/
  echo : Bool := true
  deriving DecidableEq, Repr, Inhabited

/-- The names of the event counters where the configuration has none. -/
def defaultCounterNames : List String :=
  ["operand_stall", "unit_stall", "no_id_stall", "no_instruction_stall", "other_stall",
    "instruction_issued_dec", "branch_operand_stall", "alu_operand_stall", "ls_operand_stall",
    "div_operand_stall", "alu_op", "branch_or_jump_op", "load_op", "store_op", "mul_op", "div_op",
    "misc_op", "branch_correct", "branch_misspredict", "return_correct", "return_misspredict",
    "load_conflict_delay", "rs1_forwarding_needed", "rs2_forwarding_needed",
    "rs1_and_rs2_forwarding_needed"]

end Config

/-- The settings of a run. -/
structure Config where
  /-- Clocking and budgets. -/
  general : Config.General := {}
  /-- The local memory. -/
  memory : Config.Memory := {}
  /-- The memory behind the bus. -/
  ddr : Config.Ddr := {}
  /-- The serial port. -/
  uart : Config.Uart := {}
  /-- The names of the event counters, in the order of the device's event signals. -/
  events : Option (List String) := none
  deriving DecidableEq, Repr, Inhabited

namespace Config

/-- The names of the event counters. -/
def counterNames (c : Config) : List String := c.events.getD defaultCounterNames

/-- The paths that the configuration names. -/
def paths (c : Config) : List String := [c.ddr.initFile, c.uart.logFile].filterMap id

/-- A setting that would make a run meaningless. -/
inductive Defect where
  /-- The local memory is empty or does not consist of whole words. -/
  | memorySize (sizeBytes : Nat)
  /-- The memory behind the bus is empty. -/
  | ddrSize
  /-- The list of event names is empty. -/
  | noEvents
  deriving DecidableEq, Repr, Inhabited

/-- The text of a defect. -/
def Defect.message : Defect → String
  | .memorySize sizeBytes =>
      "memory.size_bytes must be a non-zero multiple of " ++ toString Word.laneCount ++ ", got "
        ++ toString sizeBytes
  | .ddrSize => "ddr.size_bytes must be non-zero"
  | .noEvents => "events must name at least one counter"

/-- The first defect of a configuration. -/
def defect? (c : Config) : Option Defect :=
  if c.memory.sizeBytes < Word.laneCount ∨ c.memory.sizeBytes % Word.laneCount ≠ 0 then
    some (.memorySize c.memory.sizeBytes)
  else if c.ddr.enabled ∧ c.ddr.sizeBytes = 0 then some .ddrSize
  else if c.events = some [] then some .noEvents
  else none

/-- Refuses a configuration with a defect. -/
def validate (c : Config) : Except Defect Unit :=
  match c.defect? with
  | some d => .error d
  | none => .ok ()

/-- A configuration is accepted exactly when its memory consists of at least one whole word, its
bus memory is not empty where there is one, and its list of event names is not empty. -/
theorem defect?_eq_none_iff {c : Config} :
    c.defect? = none ↔
      (4 ≤ c.memory.sizeBytes ∧ c.memory.sizeBytes % 4 = 0)
        ∧ (c.ddr.enabled = true → c.ddr.sizeBytes ≠ 0) ∧ c.events ≠ some [] := by
  unfold defect? Word.laneCount
  split
  · simp
    omega
  · split
    · simp_all
    · split <;> simp_all

end Config

end Testbench
