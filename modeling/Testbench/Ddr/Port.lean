/-!
# The bus port

The device reaches the memory behind its bus through a port that carries at most one request and at
most one response.  The device places a request, the memory takes it off the port when it accepts
it, and presents a response for a single step.
-/

namespace Testbench.Ddr

/-- A request of the device. -/
structure Request where
  /-- The byte address. -/
  address : Nat := 0
  /-- The word to write; ignored by a read. -/
  data : UInt32 := 0
  /-- The byte lanes to write; zero for a read. -/
  strobe : UInt8 := 0
  deriving DecidableEq, Repr, Inhabited

/-- Does the request write? -/
def Request.isWrite (r : Request) : Bool := r.strobe != 0

/-- The answer to a request. -/
structure Response where
  /-- The byte address of the request. -/
  address : Nat := 0
  /-- The word read; for a write, the word that stood there before. -/
  data : UInt32 := 0
  deriving DecidableEq, Repr, Inhabited

/-- The signals between the device and the memory. -/
structure Port where
  /-- The request that waits to be accepted. -/
  request : Option Request := none
  /-- The response of this step. -/
  response : Option Response := none
  deriving DecidableEq, Repr, Inhabited

end Testbench.Ddr
