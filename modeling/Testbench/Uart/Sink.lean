import Testbench.Text.Number
import Testbench.Text.Utf8
import Testbench.Uart.Echo
import Testbench.Uart.Log

/-!
# The sink of the serial port

Every byte that the device writes to its serial port goes three ways: it is captured for the report,
echoed to a writer and appended to a log file.  The three ways do not know of each other, so a
failure of one never shows in the others (`captured_push`, `echo_push`, `log_push` and their
companions for `flush`).
-/

namespace Testbench.Uart

/-- The destinations of the bytes of a serial port. -/
structure Sink where
  /-- Every byte so far. -/
  captured : Array UInt8 := #[]
  /-- The echo, if there is one. -/
  echo : Option Echo := none
  /-- The log file, if there is one. -/
  log : Option Log := none
  deriving Inhabited

namespace Sink

/-- A sink that only captures. -/
def capturing : Sink := {}

/-- Echoes to a writer from now on. -/
def withEcho (s : Sink) (writer : Writer) : Sink := { s with echo := some { writer } }

/-- Appends to a log file from now on. -/
def withLog (s : Sink) (log : Log) : Sink := { s with log := some log }

/-- Accepts a byte. -/
def push (s : Sink) (byte : UInt8) : Sink where
  captured := s.captured.push byte
  echo := s.echo.map (·.push byte)
  log := s.log.map (·.push byte)

/-- Hands over whatever is waiting in the echo and in the log. -/
def flush (s : Sink) : Sink where
  captured := s.captured
  echo := s.echo.map Echo.flush
  log := s.log.map Log.flush

/-- Is a writer attached? -/
def live (s : Sink) : Bool := s.echo.any (·.attached)

/-- Is a log file attached? -/
def logging (s : Sink) : Bool := s.log.any (·.attached)

/-- The captured bytes as text. -/
def text (s : Sink) : String := String.ofList (Text.Utf8.lossy s.captured)

/-- What the echo's writer was given. -/
def writer (s : Sink) : Writer := (s.echo.map (·.writer)).getD {}

/-- The directory with the bytes that reached the log file. -/
def settle (s : Sink) (d : Directory) : Directory :=
  match s.log with
  | some log => d.append log.place log.stored
  | none => d

/-- The debugging text of a sink. -/
def describe (s : Sink) : String :=
  "UartSink \x7b captured: " ++ toString s.captured.size ++ ", buffered: "
    ++ toString ((s.echo.map (·.pending.size)).getD 0) ++ ", live: " ++ Text.ofBool s.live
    ++ ", log: " ++ Text.ofBool s.logging ++ " \x7d"

/-! ## What the journal says -/

/-- The events that accepting a byte raises. -/
def pushEvents (s : Sink) (byte : UInt8) : List Event :=
  (s.log.map fun l => l.detachEvents "write" (l.push byte)).getD []
    ++ (s.echo.map fun e => e.detachEvents (e.push byte)).getD []

/-- The events that a flush raises. -/
def flushEvents (s : Sink) : List Event :=
  (s.echo.map fun e => e.detachEvents e.flush).getD []
    ++ (s.log.map fun l => l.detachEvents "flush" l.flush).getD []

/-! ## The three ways are independent -/

@[simp] theorem captured_push (s : Sink) (byte : UInt8) :
    (s.push byte).captured = s.captured.push byte := rfl

@[simp] theorem echo_push (s : Sink) (byte : UInt8) :
    (s.push byte).echo = s.echo.map (·.push byte) := rfl

@[simp] theorem log_push (s : Sink) (byte : UInt8) :
    (s.push byte).log = s.log.map (·.push byte) := rfl

@[simp] theorem captured_flush (s : Sink) : s.flush.captured = s.captured := rfl

@[simp] theorem echo_flush (s : Sink) : s.flush.echo = s.echo.map Echo.flush := rfl

@[simp] theorem log_flush (s : Sink) : s.flush.log = s.log.map Log.flush := rfl

end Sink

end Testbench.Uart
