import Testbench.ByteStore
import Testbench.Ddr.Port
import Testbench.Ddr.Timing
import Testbench.Journal

/-!
# The memory behind the bus

A byte store mapped at a base address, served one request at a time.  While nothing is in flight the
memory takes the waiting request off the port and holds it for its latency, at least one step.  In
the step in which the latency is over it performs the access and presents the response, and it
accepts nothing in that step.  Every other step leaves the port without a response.

A word is mapped when all four of its bytes lie in the store (`offset?_eq_some_iff`).  Reading an
unmapped word gives zero and writing it does nothing, with a warning in the journal.
-/

namespace Testbench

namespace Ddr

/-- A request that was accepted and waits for its latency. -/
structure Flight where
  /-- The accepted request. -/
  request : Request
  /-- The steps until it completes. -/
  remaining : Nat
  deriving DecidableEq, Repr, Inhabited

end Ddr

/-- A byte store that answers requests on a bus port. -/
structure Ddr where
  /-- The contents. -/
  store : ByteStore
  /-- The bus address of the first byte. -/
  base : Nat
  /-- The latency of accesses. -/
  timer : Ddr.AccessTimer
  /-- The request being served. -/
  flight : Option Ddr.Flight := none
  /-- The number of requests completed. -/
  completed : Nat := 0
  deriving DecidableEq, Repr, Inhabited

namespace Ddr

/-- An idle memory of `size` zero bytes at `base`. -/
def zeroed (size base : Nat) (timer : AccessTimer) : Ddr :=
  ⟨ByteStore.zeroed size, base, timer, none, 0⟩

/-- An idle memory of zero bytes, unless they are too many for a store. -/
def ofSize (size base : Nat) (timer : AccessTimer) : Except Overflow Ddr := do
  let store ← ByteStore.ofSize size
  .ok ⟨store, base, timer, none, 0⟩

/-- Is a request being served? -/
def busy (d : Ddr) : Bool := d.flight.isSome

/-- Places contents at a byte offset from the base, or refuses them if they do not fit. -/
def load (d : Ddr) (contents : Array UInt8) (offset : Nat) : Except Overrun Ddr :=
  (d.store.load contents offset).map fun store => { d with store }

/-- The store offset of the word at a bus address, if all of the word is mapped. -/
def offset? (d : Ddr) (address : Nat) : Option Nat :=
  if d.base ≤ address ∧ address - d.base + Word.laneCount ≤ d.store.size then
    some (address - d.base)
  else none

/-- The word at a bus address, zero if it is not mapped. -/
def read (d : Ddr) (address : Nat) : UInt32 :=
  match d.offset? address with
  | some offset => d.store.readWord offset
  | none => 0

/-- Writes the selected lanes of a word at a bus address; nothing happens if it is not mapped. -/
def write (d : Ddr) (address : Nat) (data : UInt32) (strobe : UInt8) : Ddr :=
  match d.offset? address with
  | some offset => { d with store := d.store.writeWord offset data strobe }
  | none => d

/-- The memory after it performed a request. -/
def perform (d : Ddr) (r : Request) : Ddr :=
  if r.isWrite then d.write r.address r.data r.strobe else d

/-- The response to a request: the word as it stands before the request is performed. -/
def respond (d : Ddr) (r : Request) : Response := ⟨r.address, d.read r.address⟩

/-- The flight of a request that is accepted now. -/
def accept (d : Ddr) (r : Request) : Flight := ⟨r, max (d.timer.latency r.address) 1⟩

/-- One step of the memory and its port. -/
def step (d : Ddr) (port : Port) : Ddr × Port :=
  match d.flight with
  | some flight =>
      if 1 < flight.remaining then
        ({ d with flight := some { flight with remaining := flight.remaining - 1 } },
          { port with response := none })
      else
        -- the response is formed before the request changes the contents
        let response := d.respond flight.request
        let after := d.perform flight.request
        ({ after with flight := none, completed := after.completed + 1 },
          { port with response := some response })
  | none =>
      match port.request with
      | some r =>
          ({ d with flight := some (d.accept r), timer := d.timer.access r.address },
            ⟨none, none⟩)
      | none => (d, ⟨none, none⟩)

/-- Would the coming step form a latency that leaves the sixty-four-bit range? -/
def stepOverflows (d : Ddr) (port : Port) : Bool :=
  match d.flight, port.request with
  | none, some r => d.timer.overflows r.address
  | _, _ => false

/-! ## What the journal says -/

/-- The warning of a read that is not mapped. -/
def readEvents (d : Ddr) (address : Nat) : List Event :=
  match d.offset? address with
  | some _ => []
  | none => [.warning ("ddr read outside backing store at " ++ Text.hex address)]

/-- The warning of a write that is not mapped. -/
def writeEvents (d : Ddr) (address : Nat) : List Event :=
  match d.offset? address with
  | some _ => []
  | none => [.warning ("ddr write outside backing store at " ++ Text.hex address)]

/-- The events that a step raises. -/
def stepEvents (d : Ddr) (port : Port) : List Event :=
  match d.flight with
  | some flight =>
      if 1 < flight.remaining then []
      else
        d.readEvents flight.request.address
          ++ (if flight.request.isWrite then d.writeEvents flight.request.address else [])
  | none =>
      match port.request with
      | some r =>
          [{ severity := .trace, message := "ddr request accepted at " ++ Text.hex r.address,
             fields := [("remaining", toString (d.accept r).remaining)] }]
      | none => []

/-! ## The debugging text -/

/-- A request in the debugging text. -/
def Request.describe (r : Request) : String :=
  "DdrRequest \x7b addr: " ++ toString r.address ++ ", data: " ++ toString r.data.toNat
    ++ ", strobe: " ++ toString r.strobe.toNat ++ " \x7d"

/-- A request in flight in the debugging text. -/
def Flight.describe (f : Flight) : String :=
  "InFlight \x7b request: " ++ f.request.describe ++ ", remaining: " ++ toString f.remaining
    ++ " \x7d"

/-- The debugging text of a memory. -/
def describe (d : Ddr) : String :=
  let flight := match d.flight with
    | some f => "Some(" ++ f.describe ++ ")"
    | none => "None"
  "DdrModel \x7b size: " ++ toString d.store.size ++ ", base: " ++ Text.hex d.base
    ++ ", in_flight: " ++ flight ++ ", completed: " ++ toString d.completed ++ ", .. \x7d"

/-! ## Mapped words -/

/-- A word is mapped exactly when it starts at or above the base and ends inside the store. -/
theorem offset?_eq_some_iff {d : Ddr} {address offset : Nat} :
    d.offset? address = some offset ↔
      address = d.base + offset ∧ offset + Word.laneCount ≤ d.store.size := by
  unfold offset?
  split
  · rw [Option.some.injEq]
    omega
  · simp only [false_iff, reduceCtorEq]
    omega

@[simp] theorem size_store_write (d : Ddr) (address : Nat) (data : UInt32) (strobe : UInt8) :
    (d.write address data strobe).store.size = d.store.size := by
  unfold write
  split <;> simp

end Ddr

end Testbench
