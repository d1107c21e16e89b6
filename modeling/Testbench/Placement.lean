import Testbench.Bench.Basic
import Testbench.Image

/-!
# Setting up a bench

A program image is placed in the local memory and, if the configuration asks for a memory behind the
bus, that memory is filled from a file of its own or from the same image.  Then the destinations of
the serial port are opened, and last the device is compared with the list of counters.  Whatever
fails first is the answer; the log file is open by then only if the comparison is what fails.

A configuration may ask for a store that is larger than any store can be.  It is accepted all the
same, and the set-up breaks off where the store would be made.
-/

namespace Testbench

/-- Places an image in a local memory. -/
def Image.loadInto (image : Image) (memory : LocalMemory) (offset : Nat) :
    Except SetupError LocalMemory :=
  (memory.load image.bytes offset).mapError .overrun

/-- A new local memory with the image in it. -/
def Image.inLocalMemory (image : Image) (config : Config.Memory) :
    Except SetupError LocalMemory := do
  let memory ← (LocalMemory.ofSize config.sizeBytes).mapError .overflow
  image.loadInto memory config.loadOffset

/-- The event that placing an image in a local memory raises. -/
def Image.loadedEvent (image : Image) (offset : Nat) : Event where
  severity := .info
  message := "program image loaded into local memory"
  fields := [("bytes", toString image.size), ("offset", toString offset)]

namespace Ddr

/-- What fills the memory behind the bus: the contents of its own file, or the program, cut to the
configured number of bytes. -/
def contents (files : Directory) (config : Config.Ddr) (image : Image)
    (reader : Elf.Reader := Elf.segments) : Except SetupError (Array UInt8) := do
  let source ← match config.initFile with
    | some path => Image.ofFile files path reader
    | none => .ok image
  match config.numBytes with
  | some n => .ok (source.bytes.extract 0 n)
  | none => .ok source.bytes

/-- The memory behind the bus that the settings describe. -/
def ofConfig (files : Directory) (config : Config.Ddr) (image : Image)
    (reader : Elf.Reader := Elf.segments) : Except SetupError Ddr := do
  let contents ← contents files config image reader
  let timer ← (AccessTimer.ofTiming config.timing).mapError .overflow
  let ddr ← (ofSize config.sizeBytes config.base timer).mapError .overflow
  (ddr.load contents config.fileOffset).mapError .overrun

/-- The event that filling the memory behind the bus raises. -/
def loadedEvents (files : Directory) (config : Config.Ddr) (image : Image)
    (reader : Elf.Reader := Elf.segments) : List Event :=
  match contents files config image reader with
  | .ok contents =>
      [{ severity := .info, message := "ddr backing store loaded",
         fields := [("bytes", toString contents.size), ("offset", toString config.fileOffset),
           ("separate_file", Text.ofBool config.initFile.isSome)] }]
  | .error _ => []

end Ddr

namespace Uart

/-- Opens the log file of a sink.  Some of the attempts to reach it may fail. -/
def Sink.openLog (s : Sink) (files : Directory) (path : String)
    (faults : Nat → Option Nat := fun _ => none) : Except SetupError (Sink × Directory) := do
  let (place, files) ← (files.openAppend path).mapError (.file path)
  .ok (s.withLog { place, faults }, files)

/-- The sink that the settings describe.  The echo goes to a writer that never fails. -/
def Sink.ofConfig (files : Directory) (config : Config.Uart) :
    Except SetupError (Sink × Directory) :=
  let sink := if config.echo then Sink.capturing.withEcho {} else .capturing
  match config.logFile with
  | some path => sink.openLog files path
  | none => .ok (sink, files)

end Uart

/-- Compares a device with the list of counters and puts a bench around it. -/
def Bench.connect (device : Replay) (memory : LocalMemory) (config : Config) :
    Except SetupError Bench :=
  if device.signals.events.length = config.counterNames.length then
    .ok (.start device memory config)
  else .error (.eventWidth config.counterNames.length device.signals.events.length)

/-- What setting up a bench leads to. -/
structure Setup where
  /-- The bench, or why there is none. -/
  result : Except SetupError Bench
  /-- The files, among which a log file may have appeared. -/
  files : Directory
  /-- The events raised on the way. -/
  events : List Event

namespace Setup

/-- A set-up that failed with the files as they were. -/
def failed (files : Directory) (events : List Event) (e : SetupError) : Setup :=
  ⟨.error e, files, events⟩

/-- The last part of a set-up: the serial port and the bench itself. -/
def connect (files : Directory) (events : List Event) (device : Replay) (memory : LocalMemory)
    (peripheral : Peripheral) (config : Config) : Setup :=
  match Uart.Sink.ofConfig files config.uart with
  | .error e => failed files events e
  | .ok (uart, files) =>
      match Bench.connect device memory config with
      | .error e => failed files events e
      | .ok bench =>
          ⟨.ok ((bench.withPeripheral peripheral).withUart uart), files,
            events ++ Bench.startEvents device memory⟩

/-- Sets up a bench with everything that a configuration asks for. -/
def ofConfig (files : Directory) (device : Replay) (image : Image) (config : Config)
    (reader : Elf.Reader := Elf.segments) : Setup :=
  match config.validate with
  | .error d => failed files [] (.config d)
  | .ok () =>
      match image.inLocalMemory config.memory with
      | .error e => failed files [] e
      | .ok memory =>
          let loaded := [image.loadedEvent config.memory.loadOffset]
          if config.ddr.enabled then
            match Ddr.ofConfig files config.ddr image reader with
            | .error e => failed files loaded e
            | .ok ddr =>
                connect files (loaded ++ Ddr.loadedEvents files config.ddr image reader) device
                  memory (.memory ddr) config
          else connect files loaded device memory .idle config

end Setup

end Testbench
