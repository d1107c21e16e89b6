import Testbench.ByteStore
import Testbench.Journal

/-!
# Local memory

The memory on the device's instruction and data interfaces is organised in words and addressed by
word index, while images are loaded into it by byte offset: byte lane `i` of word `a` is byte
`4 * a + i`.  Reads outside the store give zero and writes outside it are dropped, both with a
warning in the journal; a write that selects no lane is dropped without one.
-/

namespace Testbench

/-- A store of words. -/
structure LocalMemory where
  /-- The words in order. -/
  words : Array UInt32
  deriving DecidableEq, Repr, Inhabited

namespace LocalMemory

/-- A zeroed store of `sizeBytes` bytes, rounded down to whole words. -/
def zeroed (sizeBytes : Nat) : LocalMemory := ⟨Array.replicate (sizeBytes / Word.laneCount) 0⟩

/-- A zeroed store, unless its whole words are too many bytes for a store. -/
def ofSize (sizeBytes : Nat) : Except Overflow LocalMemory := do
  Overflow.reserve (sizeBytes / Word.laneCount * Word.laneCount)
  .ok (zeroed sizeBytes)

/-- The number of words. -/
def size (m : LocalMemory) : Nat := m.words.size

/-- The capacity in bytes. -/
def sizeBytes (m : LocalMemory) : Nat := m.size * Word.laneCount

/-- The word at an index, zero outside the store. -/
def read (m : LocalMemory) (address : UInt32) : UInt32 := m.words.getD address.toNat 0

/-- Writes the lanes that `enable` selects at a word index; outside the store nothing happens. -/
def write (m : LocalMemory) (address data : UInt32) (enable : UInt8) : LocalMemory :=
  if Word.selectsAny enable then
    ⟨m.words.modify address.toNat fun old => Word.merge enable old data⟩
  else m

/-- Replaces one byte, by its byte offset. -/
def setByte (m : LocalMemory) (offset : Nat) (byte : UInt8) : LocalMemory :=
  ⟨m.words.modify (offset / Word.laneCount) fun old =>
    Word.setLane old (offset % Word.laneCount) byte⟩

/-- Replaces the bytes from a byte offset on by the given ones. -/
def place (m : LocalMemory) (offset : Nat) : List UInt8 → LocalMemory
  | [] => m
  | byte :: rest => (m.setByte offset byte).place (offset + 1) rest

/-- Places contents at a byte offset, or refuses them if they do not fit. -/
def load (m : LocalMemory) (contents : Array UInt8) (offset : Nat) : Except Overrun LocalMemory :=
  if offset + contents.size ≤ m.sizeBytes then .ok (m.place offset contents.toList)
  else .error ⟨contents.size, offset, m.sizeBytes⟩

/-- The words that are not zero, with their indices. -/
def nonzeroWords (m : LocalMemory) : List (Nat × UInt32) :=
  (m.words.toList.zipIdx.filter fun entry => entry.1 != 0).map fun entry => (entry.2, entry.1)

/-! ## What the journal says -/

/-- The warning of a read outside the store. -/
def readEvents (m : LocalMemory) (address : UInt32) : List Event :=
  if address.toNat < m.size then []
  else [.warning ("memory read outside store at word " ++ Text.hex address.toNat)]

/-- The warning of a write outside the store. -/
def writeEvents (m : LocalMemory) (address : UInt32) (enable : UInt8) : List Event :=
  if !Word.selectsAny enable || address.toNat < m.size then []
  else [.warning ("memory write outside store at word " ++ Text.hex address.toNat)]

/-! ## Words -/

@[simp] theorem size_zeroed (n : Nat) : (zeroed n).size = n / 4 := by
  simp [zeroed, size, Word.laneCount]

@[simp] theorem size_write (m : LocalMemory) (address data : UInt32) (enable : UInt8) :
    (m.write address data enable).size = m.size := by
  unfold write
  split <;> simp [size]

@[simp] theorem size_setByte (m : LocalMemory) (offset : Nat) (byte : UInt8) :
    (m.setByte offset byte).size = m.size := by
  simp [setByte, size]

@[simp] theorem size_place (contents : List UInt8) (m : LocalMemory) (offset : Nat) :
    (m.place offset contents).size = m.size := by
  induction contents generalizing m offset with
  | nil => rfl
  | cons byte rest ih => rw [place, ih, size_setByte]

/-- A read outside the store gives zero. -/
theorem read_of_size_le {m : LocalMemory} {address : UInt32} (h : m.size ≤ address.toNat) :
    m.read address = 0 := by
  have hwords : m.words.size ≤ address.toNat := h
  simp [read, Array.getD_eq_getD_getElem?, Array.getElem?_eq_none hwords]

/-- A write changes the word at its own address, if there is one, and no other. -/
theorem read_write (m : LocalMemory) (address data : UInt32) (enable : UInt8) (other : UInt32) :
    (m.write address data enable).read other =
      if address = other ∧ other.toNat < m.size then Word.merge enable (m.read other) data
      else m.read other := by
  unfold write
  by_cases hsel : Word.selectsAny enable = true
  · rw [if_pos hsel]
    simp only [read, size, Array.getD_eq_getD_getElem?, Array.getElem?_modify]
    by_cases haddress : address = other
    · subst haddress
      by_cases hlt : address.toNat < m.words.size
      · simp [hlt]
      · simp [hlt]
    · have hne : ¬ address.toNat = other.toNat := by
        rw [UInt32.toNat_inj]
        exact haddress
      simp [haddress, hne]
  · have hnone : Word.selectsAny enable = false := by simpa using hsel
    rw [if_neg hsel, Word.merge_of_selectsAny_eq_false hnone, ite_self]

/-- A write outside the store does nothing. -/
theorem write_of_size_le {m : LocalMemory} {address : UInt32} (data : UInt32) (enable : UInt8)
    (h : m.size ≤ address.toNat) : m.write address data enable = m := by
  have hwords : ∀ f : UInt32 → UInt32, m.words.modify address.toNat f = m.words := by
    intro f
    have hge : ¬ address.toNat < m.words.size := Nat.not_lt.2 h
    simp [Array.modify, Array.modifyM, hge]
  unfold write
  rw [hwords, ite_self]

/-- Loading succeeds exactly when the contents fit. -/
theorem load_eq_ok_iff {m n : LocalMemory} {contents : Array UInt8} {offset : Nat} :
    m.load contents offset = .ok n ↔
      offset + contents.size ≤ m.sizeBytes ∧ n = m.place offset contents.toList := by
  unfold load
  split <;> rename_i h <;> simp [h, eq_comm]

end LocalMemory

end Testbench
