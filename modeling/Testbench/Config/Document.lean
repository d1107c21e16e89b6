import Testbench.Config.Basic
import Testbench.Json.Schema

/-!
# Configuration documents

A configuration is written as a record of sections, each a record itself.  Sections and settings may
be left out.  A section that is left out is the one of the default configuration; a setting that is
left out of its section has the value that the schema of the section gives it (`blank`).
-/

namespace Testbench.Config

open Json

/-- A file path in a document. -/
def path : Node → Except Refusal String := string "path string"

/-- The section on clocking and budgets. -/
def General.schema : Schema General where
  title := "GeneralConfig"
  blank := { resetCycles := 64, stallLimit := 2000, maxCycles := none }
  fields :=
    [.withDefault "reset_cycles" (natural .count) fun v c => { c with resetCycles := v },
      .withDefault "stall_limit" (natural .count) fun v c => { c with stallLimit := v },
      .withDefault "max_cycles" (optional (natural .count)) fun v c => { c with maxCycles := v }]

/-- The section on the local memory. -/
def Memory.schema : Schema Memory where
  title := "MemoryConfig"
  blank := { sizeBytes := 128 * 1024, loadOffset := 0 }
  fields :=
    [.withDefault "size_bytes" (natural .size) fun v c => { c with sizeBytes := v },
      .withDefault "load_offset" (natural .count) fun v c => { c with loadOffset := v }]

/-- The names of the kinds of access timing. -/
def Controller.choices : List (String × Controller) :=
  [("Simple", .simple), ("DRAM", .dram), ("Dram", .dram)]

/-- The section on the memory behind the bus. -/
def Ddr.schema : Schema Config.Ddr where
  title := "DdrConfig"
  blank :=
    { enabled := false, initFile := none, base := 0, fileOffset := 0, numBytes := none,
      sizeBytes := 1024 * 1024, controller := .simple, latency := 4, cas := 14, ras := 14,
      pre := 14, rowBytes := 2048 }
  fields :=
    [.withDefault "enabled" boolean fun v c => { c with enabled := v },
      .withDefault "init_file" (optional path) fun v c => { c with initFile := v },
      .withDefault "base" (natural .count) fun v c => { c with base := v },
      .withDefault "file_offset" (natural .count) fun v c => { c with fileOffset := v },
      .withDefault "num_bytes" (optional (natural .size)) fun v c => { c with numBytes := v },
      .withDefault "size_bytes" (natural .size) fun v c => { c with sizeBytes := v },
      .withDefault "controller" (choice Controller.choices) fun v c => { c with controller := v },
      .withDefault "latency" (natural .count) fun v c => { c with latency := v },
      .withDefault "t_cas" (natural .count) fun v c => { c with cas := v },
      .withDefault "t_ras" (natural .count) fun v c => { c with ras := v },
      .withDefault "t_pre" (natural .count) fun v c => { c with pre := v },
      .withDefault "row_bytes" (natural .count) fun v c => { c with rowBytes := v }]

/-- The section on the serial port. -/
def Uart.schema : Schema Config.Uart where
  title := "UartConfig"
  blank := { logFile := none, echo := true }
  fields :=
    [.withDefault "log_file" (optional path) fun v c => { c with logFile := v },
      .withDefault "echo" boolean fun v c => { c with echo := v }]

/-- A whole configuration. -/
def schema : Schema Config where
  title := "Config"
  blank := {}
  fields :=
    [.withDefault "general" General.schema.read fun v c => { c with general := v },
      .withDefault "memory" Memory.schema.read fun v c => { c with memory := v },
      .withDefault "ddr" Ddr.schema.read fun v c => { c with ddr := v },
      .withDefault "uart" Uart.schema.read fun v c => { c with uart := v },
      .withDefault "events" (optional (list (string "a string"))) fun v c => { c with events := v }]

end Testbench.Config
