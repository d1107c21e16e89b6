import Testbench.Config.Document
import Testbench.Replay
import Testbench.SetupError
import Testbench.Trace.Document

/-!
# The documents that a run needs

A configuration is read from a text or a file and then checked for defects.  A trace is read the
same way and becomes the device that replays it.  A file that cannot be read, a document that is
refused and a value that is unusable are told apart, and the first of them is the answer.
-/

namespace Testbench

/-- A configuration document, read and checked. -/
def Config.ofText (text : List Char) : Except SetupError Config := do
  let config ← (Config.schema.readText text).mapError .document
  config.validate.mapError .config
  .ok config

/-- A configuration file, read and checked. -/
def Config.ofFile (files : Directory) (path : String) : Except SetupError Config := do
  Config.ofText (← (files.readText path).mapError (.file path))

/-- A trace document. -/
def Trace.ofText (text : List Char) : Except SetupError Trace :=
  (Trace.schema.readText text).mapError .document

/-- A trace file. -/
def Trace.ofFile (files : Directory) (path : String) : Except SetupError Trace := do
  Trace.ofText (← (files.readText path).mapError (.file path))

/-- The device that replays a trace document. -/
def Replay.ofText (text : List Char) : Except SetupError Replay := do
  Replay.ofTrace (← Trace.ofText text)

/-- The device that replays a trace file. -/
def Replay.ofFile (files : Directory) (path : String) : Except SetupError Replay := do
  Replay.ofTrace (← Trace.ofFile files path)

end Testbench
