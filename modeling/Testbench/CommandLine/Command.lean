import Testbench.CommandLine.Arguments
import Testbench.Inputs
import Testbench.Placement
import Testbench.Report

/-!
# The command

A run from the command line reads the configuration, the program and the trace, in this order,
announces what it is going to do, sets up a bench, resets it, takes ticks until the run ends and
reports.  The first thing that goes wrong ends the command, and nothing is written before the bench
is set up, except that the log of the serial port is opened.

The command is a function of the words, of the files and of two things that neither of them tells:
how program files are read, and what keeps the report from being written (`execute`).  What it
leaves behind is an exit code, two texts and the files as they are afterwards.
-/

namespace Testbench.CommandLine

/-- What a command leaves behind. -/
structure Result where
  /-- The exit code. -/
  exit : Nat
  /-- What it wrote to the standard output. -/
  output : Array UInt8 := #[]
  /-- What it wrote to the standard error output. -/
  complaint : String := ""
  /-- The files. -/
  files : Directory
  deriving DecidableEq, Repr, Inhabited

/-- What a command finds that is not in the files. -/
structure Surroundings where
  /-- The reader of program files. -/
  reader : Elf.Reader := Elf.segments
  /-- What keeps the report from being written, if anything does. -/
  fault : Option WriteFault := none

/-- The exit code of a run that succeeded. -/
def succeeded : Nat := 0

/-- The exit code of a run that failed or could not be set up. -/
def failed : Nat := 1

/-- The exit code of a command line that asks for nothing that can be done. -/
def misused : Nat := 2

/-- The exit code of a run that broke off. -/
def aborted : Nat := 101

/-- How the command is used. -/
def usage : String :=
  "Usage: testbench run --trace <file> --program <file> [--config <file>] [--uart-log <file>]\n"
    ++ "         [--stall-limit <cycles>] [--max-cycles <cycles>] [--report-json <file>]\n"

namespace Arguments

/-- A configuration with the settings that the command line gives in place of its own. -/
def override (a : Arguments) (c : Config) : Config :=
  { c with
    general := { c.general with
      stallLimit := a.stallLimit.getD c.general.stallLimit
      maxCycles := a.maxCycles <|> c.general.maxCycles }
    uart := { c.uart with logFile := a.uartLog <|> c.uart.logFile } }

/-- The configuration of the run. -/
def configuration (a : Arguments) (files : Directory) : Except SetupError Config := do
  let config ← match a.config with
    | some path => Config.ofFile files path
    | none => .ok {}
  let config := a.override config
  config.validate.mapError .config
  .ok config

/-- What the run is told to do: the configuration, the program and the trace. -/
def inputs (a : Arguments) (files : Directory) (reader : Elf.Reader := Elf.segments) :
    Except SetupError (Config × Image × Replay) := do
  let config ← a.configuration files
  let image ← Image.ofFile files a.program reader
  let device ← Replay.ofFile files a.trace
  .ok (config, image, device)

/-- The paths that the command line names. -/
def paths (a : Arguments) : List String :=
  [some a.trace, some a.program, a.config, a.uartLog, a.reportJson].filterMap id

/-- The announcement of the run. -/
def banner (a : Arguments) (config : Config) (image : Image) (device : Replay) : String :=
  "[*] Program: " ++ a.program ++ " (" ++ toString image.size ++ " bytes)\n[*] Trace:   " ++ a.trace
    ++ " (" ++ toString (Trace.span device.trace.frames) ++ " cycles)\n    Reset: "
    ++ toString config.general.resetCycles ++ " cycles  Stall limit: "
    ++ toString config.general.stallLimit ++ "  Memory: "
    ++ toString (config.memory.sizeBytes / 1024) ++ " KiB  DDR: "
    ++ (if config.ddr.enabled then "enabled" else "disabled") ++ "\n\n"

end Arguments

namespace Result

/-- The exit code for an error.  A number that leaves its range breaks the run off. -/
def exitCode : SetupError → Nat
  | .overflow _ => aborted
  | _ => failed

/-- A command that stops at an error. -/
def stopped (files : Directory) (output : Array UInt8) (e : SetupError) : Result where
  exit := exitCode e
  output := output
  complaint := "Error: " ++ e.message ++ "\n"
  files := files

/-- A command whose run came to an end. -/
def ended (files : Directory) (output : Array UInt8) (reason : Outcome.Reason) : Result where
  exit := if reason.isSuccess then succeeded else failed
  output := output
  complaint := if reason.isSuccess then "" else "\n[!] Run failed: " ++ reason.describe ++ "\n"
  files := files

end Result

namespace Arguments

/-- The sections that are printed: the serial output is left out if it was echoed. -/
def sections (config : Config) : List String :=
  if config.uart.echo then ["summary", "counters"] else []

/-- Writes the report to its file, if one is asked for. -/
def deliver (a : Arguments) (report : Report) (files : Directory) (output : Array UInt8)
    (fault : Option WriteFault := none) : Result :=
  match a.reportJson with
  | none => .ended files output report.outcome.reason
  | some path =>
      match report.write files path fault with
      | (files, .error e) => .stopped files output (.file path e)
      | (files, .ok ()) =>
          .ended files (output ++ Text.Utf8.encode ("[*] Report written to " ++ path ++ "\n"))
            report.outcome.reason

/-- Reports on a run.  The serial port was flushed when the run ended; one that broke off is flushed
now. -/
def conclude (a : Arguments) (config : Config) (files : Directory) (output : Array UInt8)
    (run : Run) (fault : Option WriteFault := none) : Result :=
  let bench := run.bench.flushUart
  let files := bench.uart.settle files
  let output := output ++ bench.uart.writer.stored
  match run.outcome with
  | .error _ => { exit := aborted, output, files }
  | .ok outcome =>
      let report := bench.report outcome
      a.deliver report files (output ++ Text.Utf8.encode (report.render (sections config))) fault

/-- The run.  A bench that was just set up has no request on its bus port, so no latency is formed
while reset is held. -/
def run (a : Arguments) (files : Directory) (world : Surroundings := {}) : Result :=
  match a.inputs files world.reader with
  | .error e => .stopped files #[] e
  | .ok (config, image, device) =>
      let output := Text.Utf8.encode (a.banner config image device)
      let setup := Setup.ofConfig files device image config world.reader
      match setup.result with
      | .error e => .stopped setup.files output e
      | .ok bench => a.conclude config setup.files output bench.reset.run world.fault

end Arguments

/-- Does what a command line asks for. -/
def execute (files : Directory) (words : List String) (world : Surroundings := {}) : Result :=
  match Request.parse words with
  | .run arguments => arguments.run files world
  | .help => { exit := succeeded, output := Text.Utf8.encode usage, files }
  | .misuse => { exit := misused, complaint := usage, files }

end Testbench.CommandLine
