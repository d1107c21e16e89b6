import Testbench.LocalMemory

/-!
# The memory interfaces

The device asks for instructions and for data on two interfaces.  Each is served through an output
register: a read of this cycle reaches the device in the next one.  While an interface is not
enabled its register holds.  On the data interface an enabled cycle always reads and then writes the
selected lanes, so the register takes the word as it was before the write.
-/

namespace Testbench

/-- A request for an instruction. -/
structure FetchRequest where
  /-- The word index. -/
  address : UInt32 := 0
  /-- Whether the request is made. -/
  enable : Bool := false
  deriving DecidableEq, Repr, Inhabited

/-- A request on the data interface. -/
structure AccessRequest where
  /-- The word index. -/
  address : UInt32 := 0
  /-- Whether the request is made. -/
  enable : Bool := false
  /-- The word to write. -/
  data : UInt32 := 0
  /-- The lanes to write; none for a pure read. -/
  byteEnable : UInt8 := 0
  deriving DecidableEq, Repr, Inhabited

/-- The output registers of the two interfaces. -/
structure ReadRegisters where
  /-- The word that the instruction interface presents next. -/
  instruction : UInt32 := 0
  /-- The word that the data interface presents next. -/
  data : UInt32 := 0
  deriving DecidableEq, Repr, Inhabited

namespace ReadRegisters

/-- The registers before the first cycle: the instruction register holds the word at the address
that the device shows then, the data register zero. -/
def primed (memory : LocalMemory) (fetch : FetchRequest) : ReadRegisters :=
  ⟨memory.read fetch.address, 0⟩

/-- The registers after a cycle. -/
def latch (r : ReadRegisters) (memory : LocalMemory) (fetch : FetchRequest) (data : AccessRequest) :
    ReadRegisters where
  instruction := if fetch.enable then memory.read fetch.address else r.instruction
  data := if data.enable then memory.read data.address else r.data

end ReadRegisters

/-- The memory after a cycle's data request. -/
def LocalMemory.serve (memory : LocalMemory) (data : AccessRequest) : LocalMemory :=
  if data.enable then memory.write data.address data.data data.byteEnable else memory

/-- The events that serving a cycle's requests raises. -/
def LocalMemory.serveEvents (memory : LocalMemory) (fetch : FetchRequest) (data : AccessRequest) :
    List Event :=
  (if fetch.enable then memory.readEvents fetch.address else [])
    ++ (if data.enable then
          memory.readEvents data.address ++ memory.writeEvents data.address data.byteEnable
        else [])

@[simp] theorem LocalMemory.size_serve (memory : LocalMemory) (data : AccessRequest) :
    (memory.serve data).size = memory.size := by
  unfold LocalMemory.serve
  split <;> simp

/-- A data request merges its lanes into the word at its address, if it is made and there is one. -/
theorem LocalMemory.read_serve (memory : LocalMemory) (data : AccessRequest) (address : UInt32) :
    (memory.serve data).read address =
      if data.enable = true ∧ data.address = address ∧ address.toNat < memory.size then
        Word.merge data.byteEnable (memory.read address) data.data
      else memory.read address := by
  unfold LocalMemory.serve
  by_cases henable : data.enable = true
  · rw [if_pos henable, LocalMemory.read_write]
    simp [henable]
  · rw [if_neg henable]
    simp [henable]

end Testbench
