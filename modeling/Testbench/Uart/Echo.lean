import Testbench.Journal

/-!
# The echo of the serial port

Bytes are forwarded to a writer in chunks: at each newline, when 4096 bytes are waiting, and when
the sink is flushed.  A chunk is written with one call and then the writer is flushed with another.
The first call that fails detaches the writer for good, and the chunk that was being written is
dropped.
-/

namespace Testbench.Uart

/-- A pattern of failures: which calls of one kind fail, counted from one.  A call that is merely
interrupted is made again and counts once, as it ends. -/
structure Faults where
  /-- Does the call of this number fail? -/
  strikes : Nat → Bool := fun _ => false
  deriving Inhabited

/-- The number of a call stands for the pattern in which this call fails and no other. -/
instance : Coe (Option Nat) Faults := ⟨fun call => ⟨fun n => call == some n⟩⟩

/-- A destination of chunks that keeps what it was given and counts the calls.  It accepts every
chunk as a whole, except that some of the calls may fail. -/
structure Writer where
  /-- The bytes accepted. -/
  stored : Array UInt8 := #[]
  /-- The chunk of every write call. -/
  chunks : Array (Array UInt8) := #[]
  /-- The number of flush calls. -/
  flushes : Nat := 0
  /-- The write calls that fail. -/
  failWrite : Faults := {}
  /-- The flush calls that fail. -/
  failFlush : Faults := {}
  deriving Inhabited

namespace Writer

/-- The length of the chunk of every write call. -/
def writes (w : Writer) : Array Nat := w.chunks.map (·.size)

/-- Does the next write call fail? -/
def writeFails (w : Writer) : Bool := w.failWrite.strikes (w.chunks.size + 1)

/-- Does the next flush call fail? -/
def flushFails (w : Writer) : Bool := w.failFlush.strikes (w.flushes + 1)

/-- A write call.  A call that fails is counted and stores nothing. -/
def write (w : Writer) (chunk : Array UInt8) : Writer :=
  if w.writeFails then { w with chunks := w.chunks.push chunk }
  else { w with stored := w.stored ++ chunk, chunks := w.chunks.push chunk }

/-- A flush call. -/
def flush (w : Writer) : Writer := { w with flushes := w.flushes + 1 }

/-- The reason that a failing call gives. -/
def refusal : String := "closed"

end Writer

/-- A writer with the bytes that wait for it. -/
structure Echo where
  /-- The writer, as the calls so far have left it. -/
  writer : Writer := {}
  /-- Whether the writer is still attached. -/
  attached : Bool := true
  /-- The bytes that wait for the next chunk. -/
  pending : Array UInt8 := #[]
  deriving Inhabited

namespace Echo

/-- The number of waiting bytes that forces a chunk. -/
def chunkLimit : Nat := 4096

/-- Hands the waiting bytes to the writer as one chunk: a write call and, if it succeeds, a flush
call. -/
def deliver : Echo → Echo
  | { writer, attached := false, pending := _ } => ⟨writer, false, #[]⟩
  | { writer, attached := true, pending } =>
      if writer.writeFails then ⟨writer.write pending, false, #[]⟩
      else
        let written := writer.write pending
        ⟨written.flush, !written.flushFails, #[]⟩

/-- Accepts a byte. -/
def push (e : Echo) (byte : UInt8) : Echo :=
  if !e.attached then e
  else
    let e := { e with pending := e.pending.push byte }
    if byte = 10 ∨ chunkLimit ≤ e.pending.size then e.deliver else e

/-- Hands over whatever is waiting. -/
def flush (e : Echo) : Echo := if e.pending.isEmpty then e else e.deliver

/-- The warning when a writer is given up. -/
def detachEvents (before after : Echo) : List Event :=
  if before.attached && !after.attached then
    [.warning ("uart echo failed, detaching live output: " ++ Writer.refusal)]
  else []

end Echo

end Testbench.Uart
