import Testbench.Json.Printer
import Testbench.Json.Schema
import Testbench.Trace.Basic

/-!
# Trace documents

A trace is written as a record of the device's dimensions and a list of frames.  Frames and traces
refuse fields that they do not have; the small records inside a frame skip them.  Printing writes
every field in order, with null for what is absent.
-/

namespace Testbench

open Json

namespace Trace

/-- A byte in a document. -/
def byte (node : Node) : Except Refusal UInt8 := (natural .byte node).map UInt8.ofNat

/-- A word in a document. -/
def word (node : Node) : Except Refusal UInt32 := (natural .word node).map UInt32.ofNat

/-- A retirement port in a document. -/
def portSchema : Schema Retirement.Port where
  title := "RetirePort"
  lenient := true
  blank := {}
  fields :=
    [.needed "instruction" word fun v p => { p with instruction := v },
      .needed "valid" boolean fun v p => { p with valid := v }]

/-- An access on the data interface in a document. -/
def Access.schema : Schema Access where
  title := "DataAccess"
  lenient := true
  blank := {}
  fields :=
    [.needed "addr" word fun v a => { a with address := v },
      .withDefault "data" word fun v a => { a with data := v },
      .withDefault "byte_enable" byte fun v a => { a with byteEnable := v }]

/-- A bus request in a document. -/
def requestSchema : Schema Ddr.Request where
  title := "DdrRequest"
  lenient := true
  blank := {}
  fields :=
    [.needed "addr" (natural .count) fun v r => { r with address := v },
      .withDefault "data" word fun v r => { r with data := v },
      .withDefault "strobe" byte fun v r => { r with strobe := v }]

/-- A frame in a document. -/
def Frame.schema : Schema Frame where
  title := "TraceFrame"
  blank := .idle
  fields :=
    [.withDefault "retire" (list portSchema.read) fun v f => { f with retire := v },
      .withDefault "events" (list word) fun v f => { f with events := v },
      .withDefault "store_queue_empty" boolean fun v f => { f with storeQueueEmpty := v },
      .withDefault "uart" (optional byte) fun v f => { f with uart := v },
      .withDefault "fetch" (optional word) fun v f => { f with fetch := v },
      .withDefault "data" (optional Access.schema.read) fun v f => { f with data := v },
      .withDefault "ddr" (optional requestSchema.read) fun v f => { f with ddr := v },
      .withDefault "repeat" (natural .word) fun v f => { f with repeated := v }]

/-- A trace in a document. -/
def schema : Schema Trace where
  title := "TraceFile"
  blank := { ports := 0, eventWidth := 0, frames := [] }
  fields :=
    [.needed "ports" (natural .size) fun v t => { t with ports := v },
      .needed "event_width" (natural .size) fun v t => { t with eventWidth := v },
      .withDefault "ddr_port" boolean fun v t => { t with ddrPort := v },
      .needed "frames" (list Frame.schema.read) fun v t => { t with frames := v }]

/-! ## Printing -/

/-- A value that may be absent. -/
def orNull {α : Type} (print : α → Output) : Option α → Output
  | some value => print value
  | none => .null

/-- A word to be printed. -/
def printWord (word : UInt32) : Output := .natural word.toNat

/-- A byte to be printed. -/
def printByte (byte : UInt8) : Output := .natural byte.toNat

/-- A retirement port to be printed. -/
def printPort (p : Retirement.Port) : Output :=
  .record [("instruction", printWord p.instruction), ("valid", .bool p.valid)]

/-- An access on the data interface to be printed. -/
def Access.print (a : Access) : Output :=
  .record [("addr", printWord a.address), ("data", printWord a.data),
    ("byte_enable", printByte a.byteEnable)]

/-- A bus request to be printed. -/
def printRequest (r : Ddr.Request) : Output :=
  .record [("addr", .natural r.address), ("data", printWord r.data), ("strobe", printByte r.strobe)]

/-- A frame to be printed. -/
def Frame.print (f : Frame) : Output :=
  .record
    [("retire", .list (f.retire.map printPort)), ("events", .list (f.events.map printWord)),
      ("store_queue_empty", .bool f.storeQueueEmpty), ("uart", orNull printByte f.uart),
      ("fetch", orNull printWord f.fetch), ("data", orNull Access.print f.data),
      ("ddr", orNull printRequest f.ddr), ("repeat", .natural f.repeated)]

/-- A trace to be printed. -/
def print (t : Trace) : Output :=
  .record
    [("ports", .natural t.ports), ("event_width", .natural t.eventWidth),
      ("ddr_port", .bool t.ddrPort), ("frames", .list (t.frames.map Frame.print))]

end Trace

end Testbench
