import Testbench.Bench.Run
import Testbench.Json.Printer

/-!
# Reports

A report holds how a run ended, the event counters, and what the device wrote to its serial port.
It is printed as text in sections, or as a document.  The byte count is that of the serial port
itself, also where the text needs replacement characters.
-/

namespace Testbench

/-- What a run produced. -/
structure Report where
  /-- How the run ended. -/
  outcome : Outcome
  /-- The event counters. -/
  counters : Counters
  /-- The number of bytes that the device wrote. -/
  uartBytes : Nat
  /-- The bytes as text. -/
  uart : String
  deriving DecidableEq, Repr, Inhabited

namespace Report

/-- The report on a run with the given counters and serial output. -/
def of (outcome : Outcome) (counters : Counters) (uart : Array UInt8) : Report :=
  ⟨outcome, counters, uart.size, String.ofList (Text.Utf8.lossy uart)⟩

/-- The section on how the run ended. -/
def summary (r : Report) : String :=
  "\n" ++ Counters.rule '=' ++ "\nCO-SIMULATION SUMMARY\n" ++ Counters.rule '='
    ++ "\noutcome                  " ++ r.outcome.reason.describe
    ++ "\nsim_cycles               " ++ toString r.outcome.cycles
    ++ "\nhalf_phase_count         " ++ toString r.outcome.halfPhases
    ++ "\nuart_bytes               " ++ toString r.uartBytes
    ++ "\n" ++ Counters.rule '-' ++ "\n"

/-- The section with the text of the serial port, left out if there is none. -/
def uartSection (r : Report) : String :=
  if r.uart.isEmpty then ""
  else
    "UART OUTPUT\n" ++ Counters.rule '-' ++ "\n" ++ r.uart
      ++ (if r.uart.endsWith "\n" then "" else "\n") ++ Counters.rule '=' ++ "\n"

/-- The wanted sections in their fixed order; all of them if none is named. -/
def render (r : Report) (sections : List String) : String :=
  let wanted (name : String) (text : String) : String :=
    if sections.isEmpty ∨ sections.contains name then text else ""
  wanted "summary" r.summary ++ wanted "counters" r.counters.table ++ wanted "uart" r.uartSection

/-- The report as a document. -/
def print (r : Report) : Json.Output :=
  .record
    [("outcome", .record
        [("reason", .text r.outcome.reason.label), ("cycle_count", .natural r.outcome.halfPhases),
          ("cycles", .natural r.outcome.cycles)]),
      ("counters", .record
        [("names", .list (r.counters.names.map .text)),
          ("counts", .list (r.counters.counts.map .natural))]),
      ("uart_bytes", .natural r.uartBytes), ("uart", .text r.uart)]

/-- The text of the document. -/
def document (r : Report) : String := r.print.pretty 0

/-- The contents of its file. -/
def file (r : Report) : Array UInt8 := Text.Utf8.encode r.document

/-- Writes the document to a file. -/
def write (r : Report) (files : Directory) (path : String) (fault : Option WriteFault := none) :
    Directory × Except FileError Unit :=
  files.write path r.file fault

end Report

/-- The report on a run that left the bench in this state. -/
def Bench.report (b : Bench) (outcome : Outcome) : Report :=
  .of outcome b.region.counters b.uart.captured

end Testbench
