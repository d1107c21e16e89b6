import Testbench.Overflow
import Testbench.Text.Number
import Testbench.Word

/-!
# A store of bytes

A byte store is a fixed number of bytes, all zero at first.  It is read and written in little-endian
words at any byte offset, and contents are loaded into it as a whole or not at all.

Loading is described byte by byte (`byteAt_load`): the bytes from the offset on are those of the
contents and every other byte is as it was.  So is writing a word (`byteAt_writeWord`).
-/

namespace Testbench

/-- Contents that do not fit a store: their length, where they were to go, and the store's size. -/
structure Overrun where
  /-- The length of the contents in bytes. -/
  length : Nat
  /-- The byte offset at which they were to be placed. -/
  offset : Nat
  /-- The size of the store in bytes. -/
  capacity : Nat
  deriving DecidableEq, Repr, Inhabited

/-- The text of an overrun. -/
def Overrun.message (o : Overrun) : String :=
  "image of " ++ toString o.length ++ " bytes at offset " ++ Text.hex o.offset
    ++ " exceeds store capacity of " ++ toString o.capacity ++ " bytes"

/-- A fixed number of bytes. -/
structure ByteStore where
  /-- The bytes in order. -/
  bytes : Array UInt8
  deriving DecidableEq, Repr, Inhabited

namespace ByteStore

/-- A store of `size` zero bytes. -/
def zeroed (size : Nat) : ByteStore := ⟨Array.replicate size 0⟩

/-- A store of `size` zero bytes, unless that is too large for a store. -/
def ofSize (size : Nat) : Except Overflow ByteStore := do
  Overflow.reserve size
  .ok (zeroed size)

/-- The number of bytes. -/
def size (s : ByteStore) : Nat := s.bytes.size

/-- The byte at an offset, zero outside the store. -/
def byteAt (s : ByteStore) (offset : Nat) : UInt8 := s.bytes.getD offset 0

/-- Replaces the byte at an offset; outside the store nothing happens. -/
def setByte (s : ByteStore) (offset : Nat) (byte : UInt8) : ByteStore :=
  ⟨s.bytes.setIfInBounds offset byte⟩

/-- The little-endian word at a byte offset. -/
def readWord (s : ByteStore) (offset : Nat) : UInt32 :=
  Word.ofLanes fun i => s.byteAt (offset + i)

/-- Writes lane `i` of a word if the byte enable selects it. -/
def writeLane (word : UInt32) (enable : UInt8) (offset : Nat) (s : ByteStore) (i : Nat) :
    ByteStore :=
  if Word.selects enable i then s.setByte (offset + i) (Word.lane word i) else s

/-- Writes the selected lanes of a word at a byte offset. -/
def writeWord (s : ByteStore) (offset : Nat) (word : UInt32) (enable : UInt8) : ByteStore :=
  (List.range Word.laneCount).foldl (writeLane word enable offset) s

/-- Replaces the bytes from an offset on by the given ones. -/
def place (s : ByteStore) (offset : Nat) : List UInt8 → ByteStore
  | [] => s
  | byte :: rest => (s.setByte offset byte).place (offset + 1) rest

/-- Places contents at an offset, or refuses them if they do not fit. -/
def load (s : ByteStore) (contents : Array UInt8) (offset : Nat) : Except Overrun ByteStore :=
  if offset + contents.size ≤ s.size then .ok (s.place offset contents.toList)
  else .error ⟨contents.size, offset, s.size⟩

/-! ## Byte by byte -/

@[simp] theorem size_zeroed (n : Nat) : (zeroed n).size = n := by simp [zeroed, size]

@[simp] theorem byteAt_zeroed (n i : Nat) : (zeroed n).byteAt i = 0 := by
  simp only [zeroed, byteAt, Array.getD_eq_getD_getElem?, Array.getElem?_replicate]
  split <;> rfl

@[simp] theorem size_setByte (s : ByteStore) (i : Nat) (b : UInt8) :
    (s.setByte i b).size = s.size := by
  simp [setByte, size]

theorem byteAt_setByte (s : ByteStore) (i : Nat) (b : UInt8) (j : Nat) :
    (s.setByte i b).byteAt j = if i = j ∧ i < s.size then b else s.byteAt j := by
  simp only [setByte, byteAt, size, Array.getD_eq_getD_getElem?, Array.getElem?_setIfInBounds]
  by_cases hij : i = j
  · subst hij
    by_cases hi : i < s.bytes.size
    · simp [hi]
    · simp [hi]
  · simp [hij]

@[simp] theorem size_writeLane (word : UInt32) (enable : UInt8) (offset : Nat) (s : ByteStore)
    (i : Nat) : (writeLane word enable offset s i).size = s.size := by
  unfold writeLane
  split <;> simp

theorem size_foldl_writeLane (word : UInt32) (enable : UInt8) (offset : Nat) (s : ByteStore)
    (n : Nat) : ((List.range n).foldl (writeLane word enable offset) s).size = s.size := by
  induction n with
  | zero => rfl
  | succ n ih =>
      rw [List.range_succ, List.foldl_append]
      simp [ih]

@[simp] theorem size_writeWord (s : ByteStore) (offset : Nat) (word : UInt32) (enable : UInt8) :
    (s.writeWord offset word enable).size = s.size :=
  size_foldl_writeLane word enable offset s Word.laneCount

theorem byteAt_writeLane (word : UInt32) (enable : UInt8) (offset : Nat) (s : ByteStore)
    (i j : Nat) :
    (writeLane word enable offset s i).byteAt j =
      if Word.selects enable i = true ∧ offset + i = j ∧ offset + i < s.size then Word.lane word i
      else s.byteAt j := by
  unfold writeLane
  by_cases hsel : Word.selects enable i = true
  · simp [hsel, byteAt_setByte]
  · simp [hsel]

/-- The first `n` lanes of a word that lie in the store are written where they are selected. -/
theorem byteAt_foldl_writeLane (word : UInt32) (enable : UInt8) (offset : Nat) (s : ByteStore)
    (n j : Nat) (h : offset + n ≤ s.size) :
    ((List.range n).foldl (writeLane word enable offset) s).byteAt j =
      if offset ≤ j ∧ j < offset + n ∧ Word.selects enable (j - offset) = true then
        Word.lane word (j - offset)
      else s.byteAt j := by
  induction n with
  | zero =>
      have hnone : ¬ (offset ≤ j ∧ j < offset + 0 ∧ Word.selects enable (j - offset) = true) := by
        omega
      rw [if_neg hnone]
      rfl
  | succ n ih =>
      rw [List.range_succ, List.foldl_append, List.foldl_cons, List.foldl_nil, byteAt_writeLane,
        size_foldl_writeLane, ih (by omega)]
      by_cases hlast : offset + n = j
      · -- the lane written last
        subst hlast
        have hlane : offset + n - offset = n := by omega
        by_cases hsel : Word.selects enable n = true
        · rw [if_pos ⟨hsel, rfl, by omega⟩, hlane, if_pos ⟨by omega, by omega, hsel⟩]
        · rw [if_neg (by simp [hsel]), if_neg (by omega), hlane, if_neg (by simp [hsel])]
      · have hsame : (offset ≤ j ∧ j < offset + (n + 1) ∧ Word.selects enable (j - offset) = true)
            ↔ (offset ≤ j ∧ j < offset + n ∧ Word.selects enable (j - offset) = true) := by
          constructor
          · rintro ⟨hle, hlt, hsel⟩
            exact ⟨hle, by omega, hsel⟩
          · rintro ⟨hle, hlt, hsel⟩
            exact ⟨hle, by omega, hsel⟩
        rw [if_neg (by simp [hlast])]
        simp only [hsame]

/-- Writing a word changes the bytes of its selected lanes and no others. -/
theorem byteAt_writeWord (s : ByteStore) (offset : Nat) (word : UInt32) (enable : UInt8) (j : Nat)
    (h : offset + Word.laneCount ≤ s.size) :
    (s.writeWord offset word enable).byteAt j =
      if offset ≤ j ∧ j < offset + Word.laneCount ∧ Word.selects enable (j - offset) = true then
        Word.lane word (j - offset)
      else s.byteAt j :=
  byteAt_foldl_writeLane word enable offset s Word.laneCount j h

@[simp] theorem size_place (contents : List UInt8) (s : ByteStore) (offset : Nat) :
    (s.place offset contents).size = s.size := by
  induction contents generalizing s offset with
  | nil => rfl
  | cons byte rest ih => rw [place, ih, size_setByte]

theorem byteAt_place (contents : List UInt8) (s : ByteStore) (offset i : Nat)
    (h : offset + contents.length ≤ s.size) :
    (s.place offset contents).byteAt i =
      if offset ≤ i then contents.getD (i - offset) (s.byteAt i) else s.byteAt i := by
  induction contents generalizing s offset with
  | nil => simp [place]
  | cons byte rest ih =>
      have hlen : offset + (rest.length + 1) ≤ s.size := h
      rw [place, ih _ _ (by rw [size_setByte]; omega), byteAt_setByte]
      rcases Nat.lt_trichotomy i offset with hi | hi | hi
      · rw [if_neg (by omega), if_neg (by omega), if_neg (by omega)]
      · subst hi
        rw [if_neg (by omega), if_pos ⟨rfl, by omega⟩, if_pos (Nat.le_refl _), Nat.sub_self]
        rfl
      · rw [if_pos (by omega), if_neg (by omega), if_pos (by omega),
          show i - offset = (i - (offset + 1)) + 1 by omega]
        rfl

/-- Loading succeeds exactly when the contents fit. -/
theorem load_eq_ok_iff {s t : ByteStore} {contents : Array UInt8} {offset : Nat} :
    s.load contents offset = .ok t ↔
      offset + contents.size ≤ s.size ∧ t = s.place offset contents.toList := by
  unfold load
  split <;> rename_i h <;> simp [h, eq_comm]

/-- After loading, the bytes from the offset on are the contents and the others are unchanged. -/
theorem byteAt_load {s t : ByteStore} {contents : Array UInt8} {offset : Nat}
    (h : s.load contents offset = .ok t) (i : Nat) :
    t.byteAt i = if offset ≤ i then contents.getD (i - offset) (s.byteAt i) else s.byteAt i := by
  obtain ⟨hfit, rfl⟩ := load_eq_ok_iff.1 h
  rw [byteAt_place _ _ _ _ (by simpa using hfit)]
  simp [Array.getD_eq_getD_getElem?, List.getD_eq_getElem?_getD]

end ByteStore

end Testbench
