import Testbench.ByteStore
import Testbench.Config.Basic
import Testbench.Directory
import Testbench.Elf
import Testbench.Json.Schema
import Testbench.Overflow
import Testbench.Trace.Basic

/-!
# Why a run cannot be set up

Everything that can go wrong before the first cycle is one of a few causes: a file, an image, a
document, a configuration, a trace, or a device that does not match the counters.  Numbers that
nobody checks add one more, timing and sizes that leave their range.  A run itself never fails in
this way; what ends a run is part of its outcome.
-/

namespace Testbench

/-- The cause that keeps a run from being set up. -/
inductive SetupError where
  /-- A file cannot be read or written. -/
  | file (path : String) (cause : FileError)
  /-- A program image has no bytes. -/
  | emptyImage
  /-- Contents do not fit where they are to go. -/
  | overrun (o : Overrun)
  /-- A program file is broken. -/
  | elf (d : Elf.Defect)
  /-- A document is refused. -/
  | document (r : Json.Refusal)
  /-- A configuration is unusable. -/
  | config (d : Config.Defect)
  /-- A trace does not fit its device. -/
  | trace (d : Trace.Defect)
  /-- The device has another number of event signals than there are counters. -/
  | eventWidth (counters signals : Nat)
  /-- A number leaves its range.  The set-up breaks off, and there is no message to the user. -/
  | overflow (o : Overflow)
  deriving Repr, Inhabited

namespace SetupError

/-- The text of a refused document. -/
def refusalMessage : Json.Refusal → String
  | .mismatch m => m.message
  | .stop .malformed => "not a document"
  | .stop .truncated => "the document ends too early"

/-- The text of a cause. -/
def message : SetupError → String
  | .file path cause => "could not access '" ++ path ++ "': " ++ cause.message
  | .emptyImage => "program image is empty"
  | .overrun o => o.message
  | .elf d => "malformed ELF image: " ++ d.message
  | .document r => "malformed JSON: " ++ refusalMessage r
  | .config d => "invalid configuration: " ++ d.message
  | .trace d => "invalid configuration: " ++ d.message
  | .eventWidth counters signals =>
      "event vector width mismatch: " ++ toString counters ++ " counters but the model drives "
        ++ toString signals ++ " signals"
  | .overflow o => o.message

end SetupError

end Testbench
