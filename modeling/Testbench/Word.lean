/-!
# Words and their byte lanes

Every store of the bench is addressed in bytes somewhere and in 32-bit words somewhere else.  A word
is little-endian: lane `i` is the byte of weight `256 ^ i`.  The two directions are `lane` and
`ofLanes`, and a word is nothing but its four lanes (`ofLanes_lane`, `lane_ofLanes`, `eq_of_lanes`).

A *byte enable* is a mask whose bit `i` selects lane `i`; bits above the third select nothing.
Writing under a mask is `merge`, and it is described lane by lane (`lane_merge`).
-/

namespace Testbench.Word

/-- The number of byte lanes in a word. -/
def laneCount : Nat := 4

/-- Byte lane `i` of a word, lane 0 being the least significant. -/
def lane (word : UInt32) (i : Nat) : UInt8 := UInt8.ofNat (word.toNat / Nat.pow 256 i)

/-- The word with the given bytes in lanes 0 to 3. -/
def ofLanes (byte : Nat → UInt8) : UInt32 :=
  UInt32.ofNat ((byte 0).toNat + 256 * (byte 1).toNat + 65536 * (byte 2).toNat
    + 16777216 * (byte 3).toNat)

/-- Does the byte enable select lane `i`? -/
def selects (enable : UInt8) (i : Nat) : Bool := enable.toNat.testBit i

/-- Does the byte enable select any lane of a word? -/
def selectsAny (enable : UInt8) : Bool := (List.range laneCount).any (selects enable)

/-- The old word with the lanes that `enable` selects taken from `new`. -/
def merge (enable : UInt8) (old new : UInt32) : UInt32 :=
  ofLanes fun i => if selects enable i then lane new i else lane old i

/-- The word with lane `k` replaced. -/
def setLane (word : UInt32) (k : Nat) (byte : UInt8) : UInt32 :=
  ofLanes fun i => if i = k then byte else lane word i

/-! ## A word is its lanes -/

theorem toNat_lane (word : UInt32) (i : Nat) :
    (lane word i).toNat = word.toNat / Nat.pow 256 i % 256 := by
  simp [lane]

theorem toNat_ofLanes (byte : Nat → UInt8) :
    (ofLanes byte).toNat = (byte 0).toNat + 256 * (byte 1).toNat + 65536 * (byte 2).toNat
      + 16777216 * (byte 3).toNat := by
  have h0 := (byte 0).toNat_lt
  have h1 := (byte 1).toNat_lt
  have h2 := (byte 2).toNat_lt
  have h3 := (byte 3).toNat_lt
  rw [ofLanes, UInt32.toNat_ofNat_of_lt']
  simp only [UInt32.size]
  omega

theorem lane_ofLanes (byte : Nat → UInt8) {i : Nat} (hi : i < 4) :
    lane (ofLanes byte) i = byte i := by
  have h0 := (byte 0).toNat_lt
  have h1 := (byte 1).toNat_lt
  have h2 := (byte 2).toNat_lt
  have h3 := (byte 3).toNat_lt
  apply UInt8.toNat_inj.1
  rw [toNat_lane, toNat_ofLanes]
  match i, hi with
  | 0, _ => show _ / 1 % 256 = _; omega
  | 1, _ => show _ / 256 % 256 = _; omega
  | 2, _ => show _ / 65536 % 256 = _; omega
  | 3, _ => show _ / 16777216 % 256 = _; omega

theorem ofLanes_lane (word : UInt32) : ofLanes (lane word) = word := by
  have h := word.toNat_lt
  apply UInt32.toNat_inj.1
  rw [toNat_ofLanes]
  simp only [toNat_lane]
  show word.toNat / 1 % 256 + 256 * (word.toNat / 256 % 256) + 65536 * (word.toNat / 65536 % 256)
    + 16777216 * (word.toNat / 16777216 % 256) = word.toNat
  omega

/-- Two words with the same four lanes are the same word. -/
theorem eq_of_lanes {v w : UInt32} (h : ∀ i, i < 4 → lane v i = lane w i) : v = w := by
  rw [← ofLanes_lane v, ← ofLanes_lane w]
  unfold ofLanes
  rw [h 0 (by decide), h 1 (by decide), h 2 (by decide), h 3 (by decide)]

/-! ## Writing under a mask -/

theorem lane_merge (enable : UInt8) (old new : UInt32) {i : Nat} (hi : i < 4) :
    lane (merge enable old new) i = if selects enable i then lane new i else lane old i :=
  lane_ofLanes _ hi

theorem lane_setLane (word : UInt32) (k : Nat) (byte : UInt8) {i : Nat} (hi : i < 4) :
    lane (setLane word k byte) i = if i = k then byte else lane word i :=
  lane_ofLanes _ hi

/-- A mask that selects no lane leaves the word as it was. -/
theorem merge_of_selectsAny_eq_false {enable : UInt8} (h : selectsAny enable = false)
    (old new : UInt32) : merge enable old new = old := by
  apply eq_of_lanes
  intro i hi
  have hsel : selects enable i = false := by
    have h' : (List.range laneCount).any (selects enable) = false := h
    rw [List.any_eq_false] at h'
    simpa using h' i (List.mem_range.2 hi)
  rw [lane_merge enable old new hi, hsel]
  rfl

end Testbench.Word
