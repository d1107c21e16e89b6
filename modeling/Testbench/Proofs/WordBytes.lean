import Testbench.Proofs.FlatStore

/-!
# Local memory as a row of bytes

Local memory is organised in words, but images are loaded into it by byte offset and its words are
written lane by lane.  All three kinds of access meet in the bytes: byte `4 * a + i` is lane `i` of
word `a` (`LocalMemory.byteAt`).  In that reading local memory is a row of bytes at address zero
(`LocalMemory.flat`), and each of its operations is a job of such a row: the word at index `a` is the
word at byte address `4 * a`, and a load is a load (`performAll_job`).  So any number of operations
give the same answers and leave the same bytes as their jobs (`performAll_jobs`).
-/

namespace Testbench.LocalMemory

open Word (laneCount)

variable {m n : LocalMemory}

/-! ## Bytes of words -/

/-- The word at an index, zero outside the store. -/
def wordAt (m : LocalMemory) (a : Nat) : UInt32 := m.words.getD a 0

/-- The byte at an offset, a lane of the word that it lies in. -/
def byteAt (m : LocalMemory) (offset : Nat) : UInt8 :=
  Word.lane (m.wordAt (offset / laneCount)) (offset % laneCount)

/-- An offset is known by its word and its lane in it. -/
theorem eq_iff_word_and_lane {j k : Nat} :
    j = k ↔ j / laneCount = k / laneCount ∧ j % laneCount = k % laneCount := by
  unfold laneCount
  omega

/-- An offset lies in the word at an index if it comes at most three bytes after its beginning. -/
theorem div_laneCount_eq_iff {j a : Nat} :
    j / laneCount = a ↔ laneCount * a ≤ j ∧ j - laneCount * a < laneCount := by
  unfold laneCount
  omega

theorem div_laneCount_lt_size_iff {j : Nat} : j / laneCount < m.size ↔ j < m.sizeBytes :=
  Nat.div_lt_iff_lt_mul (by decide)

/-- Byte `4 * a + i` is lane `i` of word `a`. -/
theorem byteAt_lane (m : LocalMemory) (a : Nat) {i : Nat} (hi : i < laneCount) :
    m.byteAt (laneCount * a + i) = Word.lane (m.wordAt a) i := by
  have hpos : 0 < laneCount := by decide
  rw [byteAt, Nat.mul_add_div hpos, Nat.div_eq_of_lt hi, Nat.add_zero, Nat.mul_add_mod,
    Nat.mod_eq_of_lt hi]

/-- Changing one word leaves the others alone; outside the store nothing is changed. -/
theorem wordAt_modify (m : LocalMemory) (k : Nat) (f : UInt32 → UInt32) (a : Nat) :
    wordAt ⟨m.words.modify k f⟩ a = if a = k ∧ k < m.size then f (m.wordAt a) else m.wordAt a := by
  simp only [wordAt, size, Array.getD_eq_getD_getElem?, Array.getElem?_modify]
  by_cases hak : a = k
  · subst hak
    by_cases hlt : a < m.words.size
    · simp [hlt]
    · simp [hlt]
  · have hka : ¬ k = a := fun h => hak h.symm
    simp [hak, hka]

theorem byteAt_setByte (m : LocalMemory) (offset : Nat) (byte : UInt8) (j : Nat) :
    (m.setByte offset byte).byteAt j
      = if j = offset ∧ offset < m.sizeBytes then byte else m.byteAt j := by
  have hlane : j % laneCount < 4 := Nat.mod_lt j (by decide)
  rw [byteAt, setByte, wordAt_modify]
  by_cases hword : j / laneCount = offset / laneCount ∧ offset / laneCount < m.size
  · -- the word is the one that changes, and so is the byte if its lane is
    rw [if_pos hword, Word.lane_setLane _ _ _ hlane]
    have hin := div_laneCount_lt_size_iff.1 hword.2
    by_cases hj : j % laneCount = offset % laneCount
    · rw [if_pos hj, if_pos ⟨eq_iff_word_and_lane.2 ⟨hword.1, hj⟩, hin⟩]
    · rw [if_neg hj, if_neg (fun h => hj (eq_iff_word_and_lane.1 h.1).2)]
      rfl
  · rw [if_neg hword, if_neg (fun h => hword
      ⟨(eq_iff_word_and_lane.1 h.1).1, div_laneCount_lt_size_iff.2 h.2⟩)]
    rfl

@[simp] theorem byteAt_zeroed (sizeBytes j : Nat) : (zeroed sizeBytes).byteAt j = 0 := by
  have hword : ∀ a, (zeroed sizeBytes).wordAt a = 0 := by
    intro a
    simp only [wordAt, zeroed, Array.getD_eq_getD_getElem?, Array.getElem?_replicate]
    split <;> rfl
  simp [byteAt, hword, Word.lane]

theorem byteAt_place (contents : List UInt8) (m : LocalMemory) (offset j : Nat)
    (h : offset + contents.length ≤ m.sizeBytes) :
    (m.place offset contents).byteAt j =
      if offset ≤ j then contents.getD (j - offset) (m.byteAt j) else m.byteAt j := by
  induction contents generalizing m offset with
  | nil => simp [place]
  | cons byte rest ih =>
      have hlen : offset + (rest.length + 1) ≤ m.sizeBytes := h
      have hsize : (m.setByte offset byte).sizeBytes = m.sizeBytes := by
        rw [sizeBytes, size_setByte, sizeBytes]
      rw [place, ih _ _ (by rw [hsize]; omega), byteAt_setByte]
      rcases Nat.lt_trichotomy j offset with hj | hj | hj
      · rw [if_neg (by omega), if_neg (by omega), if_neg (by omega)]
      · subst hj
        rw [if_neg (by omega), if_pos ⟨rfl, by omega⟩, if_pos (Nat.le_refl _), Nat.sub_self]
        rfl
      · rw [if_pos (by omega), if_neg (by omega), if_pos (by omega),
          show j - offset = (j - (offset + 1)) + 1 by omega]
        rfl

/-- A write changes the selected lanes of the word at its index, if there is one. -/
theorem wordAt_write (m : LocalMemory) (address data : UInt32) (enable : UInt8) (a : Nat) :
    (m.write address data enable).wordAt a =
      if a = address.toNat ∧ address.toNat < m.size then Word.merge enable (m.wordAt a) data
      else m.wordAt a := by
  unfold write
  by_cases hany : Word.selectsAny enable = true
  · rw [if_pos hany, wordAt_modify]
  · rw [if_neg hany, Word.merge_of_selectsAny_eq_false (by simpa using hany), ite_self]

theorem byteAt_write (m : LocalMemory) (address data : UInt32) (enable : UInt8) (j : Nat) :
    (m.write address data enable).byteAt j =
      if j / laneCount = address.toNat ∧ address.toNat < m.size
          ∧ Word.selects enable (j % laneCount) = true then Word.lane data (j % laneCount)
      else m.byteAt j := by
  have hlane : j % laneCount < 4 := Nat.mod_lt j (by decide)
  rw [byteAt, wordAt_write]
  by_cases hword : j / laneCount = address.toNat ∧ address.toNat < m.size
  · rw [if_pos hword, Word.lane_merge _ _ _ hlane]
    by_cases hsel : Word.selects enable (j % laneCount) = true
    · rw [if_pos hsel, if_pos ⟨hword.1, hword.2, hsel⟩]
    · rw [if_neg hsel, if_neg (fun h => hsel h.2.2)]
      rfl
  · rw [if_neg hword, if_neg (fun h => hword ⟨h.1, h.2.1⟩)]
    rfl

/-! ## The memory seen as flat bytes -/

/-- The contents as a row of bytes from address zero on. -/
def flat (m : LocalMemory) : FlatBytes := ⟨0, (List.range m.sizeBytes).map m.byteAt⟩

@[simp] theorem base_flat (m : LocalMemory) : m.flat.base = 0 := rfl

@[simp] theorem length_bytes_flat (m : LocalMemory) : m.flat.bytes.length = m.sizeBytes := by
  simp [flat]

theorem getElem?_bytes_flat {j : Nat} (hj : j < m.sizeBytes) :
    m.flat.bytes[j]? = some (m.byteAt j) := by
  simp [flat, hj]

/-- A new memory is a row of zeros. -/
theorem flat_zeroed (sizeBytes : Nat) :
    (zeroed sizeBytes).flat = ⟨0, List.replicate (laneCount * (sizeBytes / laneCount)) 0⟩ := by
  refine congrArg (FlatBytes.mk 0) ?_
  apply List.ext_getElem
  · simp [LocalMemory.sizeBytes, laneCount, Nat.mul_comm]
  · intro j hj hj'
    simp

/-- A memory of the same size that differs in the new bytes alone holds the flat bytes with those
put in. -/
theorem flat_eq_put {start : Nat} {new : Nat → Option UInt8} (hsize : n.size = m.size)
    (h : ∀ j < m.sizeBytes, n.byteAt j =
      if start ≤ j then (new (j - start)).getD (m.byteAt j) else m.byteAt j) :
    n.flat = m.flat.put start new := by
  refine congrArg (FlatBytes.mk 0) ?_
  apply List.ext_getElem
  · simp [flat, sizeBytes, hsize]
  · intro j hj hj'
    have hlt : j < m.sizeBytes := by simpa [flat, sizeBytes, hsize] using hj
    simp [flat, h j hlt]

theorem mapped_flat_iff {a : Nat} : m.flat.Mapped (laneCount * a) ↔ a < m.size := by
  simp only [FlatBytes.Mapped, base_flat, length_bytes_flat, sizeBytes, laneCount]
  constructor
  · rintro ⟨-, hbytes⟩
    -- the first byte of the word already lies in it
    have hfirst := hbytes 0 (by omega)
    omega
  · intro ha
    exact ⟨Nat.zero_le _, fun i hi => by omega⟩

/-- The word at an index is the flat word at four times that address. -/
theorem read_eq_word (m : LocalMemory) (address : UInt32) :
    m.read address = m.flat.word (laneCount * address.toNat) := by
  unfold FlatBytes.word
  by_cases hin : address.toNat < m.size
  · rw [if_pos (mapped_flat_iff.2 hin), ← Word.ofLanes_lane (m.read address)]
    have hbyte : ∀ i < 4, Word.lane (m.read address) i
        = m.flat.bytes.getD (laneCount * address.toNat - m.flat.base + i) 0 := by
      intro i hi
      have hlt : laneCount * address.toNat + i < m.sizeBytes := by
        simp only [sizeBytes, laneCount]
        omega
      rw [base_flat, Nat.sub_zero, List.getD_eq_getElem?_getD, getElem?_bytes_flat hlt,
        byteAt_lane m _ hi]
      rfl
    apply Word.eq_of_lanes
    intro i hi
    rw [Word.lane_ofLanes _ hi, Word.lane_ofLanes _ hi, hbyte i hi]
  · rw [if_neg (fun h => hin (mapped_flat_iff.1 h)), read_of_size_le (Nat.le_of_not_lt hin)]

/-- Writing the lanes of a word writes the flat bytes at four times its address. -/
theorem flat_write (m : LocalMemory) (address data : UInt32) (enable : UInt8) :
    (m.write address data enable).flat
      = m.flat.write (laneCount * address.toNat) data enable := by
  unfold FlatBytes.write
  by_cases hin : address.toNat < m.size
  · rw [if_pos (mapped_flat_iff.2 hin), base_flat, Nat.sub_zero]
    apply flat_eq_put (size_write ..)
    intro j _
    rw [byteAt_write]
    by_cases hword : j / laneCount = address.toNat
    · -- the byte lies in the word, and is new if its lane is selected
      obtain ⟨hstart, hnear⟩ := div_laneCount_eq_iff.1 hword
      have hlane : j % laneCount = j - laneCount * address.toNat := by
        rw [← hword, Nat.mod_eq_sub]
      rw [if_pos hstart, hlane]
      by_cases hsel : Word.selects enable (j - laneCount * address.toNat) = true
      · rw [if_pos ⟨hword, hin, hsel⟩, if_pos ⟨hnear, hsel⟩, Option.getD_some]
      · rw [if_neg (fun h => hsel h.2.2), if_neg (fun h => hsel h.2), Option.getD_none]
    · rw [if_neg (fun h => hword h.1)]
      by_cases hstart : laneCount * address.toNat ≤ j
      · rw [if_pos hstart, if_neg (fun h => hword (div_laneCount_eq_iff.2 ⟨hstart, h.1⟩)),
          Option.getD_none]
      · rw [if_neg hstart]
  · rw [if_neg (fun h => hin (mapped_flat_iff.1 h)),
      write_of_size_le data enable (Nat.le_of_not_lt hin)]

/-- Loading words by byte offset loads the flat bytes, or is refused for the same reason. -/
theorem flat_load (m : LocalMemory) (contents : Array UInt8) (offset : Nat) :
    m.flat.load contents offset = (m.load contents offset).map flat := by
  unfold load FlatBytes.load
  rw [length_bytes_flat]
  by_cases hfits : offset + contents.size ≤ m.sizeBytes
  · rw [if_pos hfits, if_neg (by omega)]
    refine congrArg Except.ok (Eq.symm ?_)
    apply flat_eq_put (size_place ..)
    intro j _
    rw [byteAt_place _ _ _ _ (by simpa using hfits)]
    simp [List.getD_eq_getElem?_getD]
  · rw [if_neg hfits, if_pos (by omega)]
    rfl

/-! ## Operations -/

/-- What can be done to a memory from outside. -/
inductive Operation where
  /-- Load contents at a byte offset. -/
  | load (contents : Array UInt8) (offset : UInt64)
  /-- Read the word at an index. -/
  | read (address : UInt32)
  /-- Write the selected lanes of the word at an index. -/
  | write (address data : UInt32) (enable : UInt8)
  deriving DecidableEq, Repr, Inhabited

/-- The job of flat bytes that an operation is. -/
def Operation.job : Operation → FlatBytes.Job
  | .load contents offset => .load contents offset.toNat
  | .read address => .read (laneCount * address.toNat)
  | .write address data enable => .write (laneCount * address.toNat) data enable

/-- The memory after an operation; a load that is refused leaves it as it was. -/
def apply (m : LocalMemory) : Operation → LocalMemory
  | .load contents offset => (m.load contents offset.toNat).toOption.getD m
  | .read _ => m
  | .write address data enable => m.write address data enable

/-- What an operation gives back. -/
def answer (m : LocalMemory) : Operation → FlatBytes.Answer
  | .load contents offset =>
      match m.load contents offset.toNat with
      | .ok _ => .done
      | .error o => .refused o
  | .read address => .word (m.read address)
  | .write _ _ _ => .done

/-- The memory after a number of operations. -/
def applyAll (m : LocalMemory) (ops : List Operation) : LocalMemory := ops.foldl apply m

/-- What a number of operations give back. -/
def answers (m : LocalMemory) : List Operation → List FlatBytes.Answer
  | [] => []
  | op :: rest => m.answer op :: (m.apply op).answers rest

@[simp] theorem size_apply (m : LocalMemory) (op : Operation) : (m.apply op).size = m.size := by
  cases op with
  | load contents offset =>
      simp only [apply, load]
      split
      · exact size_place _ _ _
      · rfl
  | read address => rfl
  | write address data enable => exact size_write ..

@[simp] theorem size_applyAll (m : LocalMemory) (ops : List Operation) :
    (m.applyAll ops).size = m.size := by
  induction ops generalizing m with
  | nil => rfl
  | cons op rest ih => exact (ih (m.apply op)).trans (size_apply m op)

/-- **One operation** is one job of the flat bytes. -/
theorem perform_job (m : LocalMemory) (op : Operation) :
    m.flat.perform op.job = (m.answer op, (m.apply op).flat) := by
  cases op with
  | load contents offset =>
      simp only [Operation.job, FlatBytes.perform, answer, apply, flat_load]
      cases m.load contents offset.toNat <;> rfl
  | read address =>
      simp only [Operation.job, FlatBytes.perform, answer, apply, read_eq_word]
  | write address data enable =>
      simp only [Operation.job, FlatBytes.perform, answer, apply, flat_write]

/-- Operations in any number are their jobs, one after another. -/
theorem performAll_jobs (m : LocalMemory) (ops : List Operation) :
    m.flat.performAll (ops.map Operation.job) = (m.answers ops, (m.applyAll ops).flat) := by
  induction ops generalizing m with
  | nil => rfl
  | cons op rest ih =>
      simp only [List.map_cons, FlatBytes.performAll, perform_job, ih]
      rfl

end Testbench.LocalMemory
