import Testbench.Directory
import Testbench.Journal

/-!
# The log file of the serial port

Bytes for the log file gather in a buffer of 8192 bytes.  An attempt to bring them to the file is
made when the buffer is full and another byte comes, and when the sink is flushed.  The first
attempt that fails detaches the log.  With it goes the buffer, which makes one last attempt for what
the file has not taken; whatever is left then is lost.
-/

namespace Testbench.Uart

/-- An open log file with its buffer. -/
structure Log where
  /-- Where the file stands. -/
  place : Place := []
  /-- Whether the device behind the file is full, so that nothing more reaches it. -/
  full : Bool := false
  /-- Which attempts to reach the file fail, counted from one, and how many bytes each of them still
  brings there. -/
  faults : Nat → Option Nat := fun _ => none
  /-- Whether the log is still attached. -/
  attached : Bool := true
  /-- The bytes that reached the file since it was opened. -/
  stored : Array UInt8 := #[]
  /-- The bytes on their way to the file. -/
  buffered : Array UInt8 := #[]
  /-- The attempts so far to reach the file. -/
  attempts : Nat := 0
  deriving Inhabited

namespace Log

/-- The size of the buffer. -/
def capacity : Nat := 8192

/-- The bytes that an attempt brings to the file before it fails, if it does.  A full device takes
none. -/
def fault? (l : Log) (attempt : Nat) : Option Nat := if l.full then some 0 else l.faults attempt

/-- Would emptying the buffer into the file fail?  An empty buffer needs no attempt. -/
def blocked (l : Log) : Bool := !l.buffered.isEmpty && (l.fault? (l.attempts + 1)).isSome

/-- Empties the buffer into the file.  If the attempt fails, what the file has not taken stays in
the buffer. -/
def drain (l : Log) : Log :=
  if l.buffered.isEmpty then l
  else
    let taken := (l.fault? (l.attempts + 1)).getD l.buffered.size
    { l with
      stored := l.stored ++ l.buffered.extract 0 taken
      buffered := l.buffered.extract taken
      attempts := l.attempts + 1 }

/-- Gives the log up: the buffer makes its last attempt and is gone. -/
def giveUp (l : Log) : Log := { l.drain with attached := false, buffered := #[] }

/-- Puts a byte into the buffer. -/
def keep (l : Log) (byte : UInt8) : Log := { l with buffered := l.buffered.push byte }

/-- Accepts a byte. -/
def push (l : Log) (byte : UInt8) : Log :=
  if !l.attached then l
  else if l.buffered.size < capacity then l.keep byte
  else if l.blocked then l.drain.giveUp
  else l.drain.keep byte

/-- Empties the buffer. -/
def flush (l : Log) : Log :=
  if !l.attached then l else if l.blocked then l.drain.giveUp else l.drain

/-- The reason that a full device gives. -/
def refusal : String := "No space left on device (os error 28)"

/-- The warning when the log is given up while `activity` was going on. -/
def detachEvents (activity : String) (before after : Log) : List Event :=
  if before.attached && !after.attached then
    [.warning ("uart log " ++ activity ++ " failed, detaching log: " ++ refusal)]
  else []

end Log

end Testbench.Uart
