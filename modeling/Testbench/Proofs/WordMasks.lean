import Mathlib.Data.Nat.Bitwise
import Testbench.Proofs.WordBytes

/-!
# Local memory in shifts and masks

Local memory finds its bytes by division and replaces the lanes of a word one by one.  Here the same
is done with numbers of sixty-four bits, shifts and masks, where a sum or a product that would wrap
around, a shift by the whole width or more, and an index outside the store give nothing at all.

A word is changed under a mask as its lanes are replaced (`Word.masked_eq_merge`,
`Word.filled_eq_setLane`), and nothing is lost by the limits: while the capacity and the lengths of
contents have sixty-four bits, every operation gives what the memory gives (`run64?_eq`).  Together
with the reading of the memory as a row of bytes this is `refines_flat_bytes`.
-/

namespace Testbench

namespace Word

/-! ## The bits of a lane -/

theorem testBit_lane (word : UInt32) (i j : Nat) :
    (lane word i).toNat.testBit j = (decide (j < 8) && word.toNat.testBit (8 * i + j)) := by
  have hpow : Nat.pow 256 i = 2 ^ (8 * i) := by
    rw [Nat.pow_mul]
    rfl
  rw [toNat_lane, hpow, show 256 = 2 ^ 8 from rfl, Nat.testBit_mod_two_pow, Nat.testBit_div_two_pow,
    Nat.add_comm j]

theorem testBit_byte_of_le (byte : UInt8) {j : Nat} (hj : 8 ≤ j) :
    byte.toNat.testBit j = false :=
  Nat.testBit_lt_two_pow
    (Nat.lt_of_lt_of_le byte.toNat_lt (Nat.pow_le_pow_right (by decide) hj))

/-- A byte is known by its eight bits. -/
theorem byte_eq_of_testBit {a b : UInt8} (h : ∀ j < 8, a.toNat.testBit j = b.toNat.testBit j) :
    a = b := by
  apply UInt8.toNat_inj.1
  apply Nat.eq_of_testBit_eq
  intro j
  rcases Nat.lt_or_ge j 8 with hj | hj
  · exact h j hj
  · rw [testBit_byte_of_le a hj, testBit_byte_of_le b hj]

theorem lane_and (v w : UInt32) (i : Nat) : lane (v &&& w) i = lane v i &&& lane w i := by
  apply byte_eq_of_testBit
  intro j hj
  simp [testBit_lane, hj]

theorem lane_or (v w : UInt32) (i : Nat) : lane (v ||| w) i = lane v i ||| lane w i := by
  apply byte_eq_of_testBit
  intro j hj
  simp [testBit_lane, hj]

/-- The complement of a number of some width has the other bits of that width. -/
theorem testBit_complement {x width : Nat} (h : x < Nat.pow 2 width) (j : Nat) :
    (Nat.pow 2 width - 1 - x).testBit j = (decide (j < width) && !x.testBit j) := by
  rw [Nat.sub_sub, Nat.add_comm 1 x]
  exact Nat.testBit_two_pow_sub_succ h j

theorem testBit_not_word (w : UInt32) (j : Nat) :
    (~~~w).toNat.testBit j = (decide (j < 32) && !w.toNat.testBit j) := by
  rw [UInt32.toNat_not]
  exact testBit_complement w.toNat_lt j

theorem testBit_not_byte (b : UInt8) (j : Nat) :
    (~~~b).toNat.testBit j = (decide (j < 8) && !b.toNat.testBit j) := by
  rw [UInt8.toNat_not]
  exact testBit_complement b.toNat_lt j

theorem lane_not (w : UInt32) {i : Nat} (hi : i < 4) : lane (~~~w) i = ~~~(lane w i) := by
  apply byte_eq_of_testBit
  intro j hj
  have hword : 8 * i + j < 32 := by omega
  rw [testBit_not_byte, testBit_lane, testBit_not_word, testBit_lane]
  simp [hj, hword]

/-! ## Shifts and products that stay in range -/

/-- A word shifted to the left, unless by its whole width or more. -/
def checkedShift (word : UInt32) (amount : UInt64) : Option UInt32 :=
  if amount < 32 then some (word <<< amount.toUInt32) else none

/-- The byte with one bit set, if it has that bit. -/
def checkedBit (k : UInt64) : Option UInt8 := if k < 8 then some (1 <<< k.toUInt8) else none

/-- The product of two numbers of sixty-four bits, unless it wraps around. -/
def checkedMul (a b : UInt64) : Option UInt64 :=
  if a.toNat * b.toNat < Overflow.bound then some (a * b) else none

theorem checkedMul_eq_some {a b : UInt64} (h : a.toNat * b.toNat < Overflow.bound) :
    ∃ c, checkedMul a b = some c ∧ c.toNat = a.toNat * b.toNat := by
  refine ⟨a * b, if_pos h, ?_⟩
  exact (UInt64.toNat_mul a b).trans (Nat.mod_eq_of_lt h)

/-- A byte shifted by eight times the number of a lane stands in that lane. -/
theorem checkedShift_eq_some (byte : UInt8) {amount : UInt64} {k : Nat} (hk : k < 4)
    (hamount : amount.toNat = 8 * k) :
    ∃ s, checkedShift byte.toUInt32 amount = some s
      ∧ ∀ i < 4, lane s i = if i = k then byte else 0 := by
  have hlt : amount < 32 := by
    rw [UInt64.lt_iff_toNat_lt, hamount]
    show 8 * k < 32
    omega
  refine ⟨byte.toUInt32 <<< amount.toUInt32, if_pos hlt, ?_⟩
  intro i hi
  have hbits : (byte.toUInt32 <<< amount.toUInt32).toNat = byte.toNat <<< (8 * k) % 2 ^ 32 := by
    rw [UInt32.toNat_shiftLeft, UInt64.toNat_toUInt32, hamount, UInt8.toNat_toUInt32,
      show 8 * k % 2 ^ 32 % 32 = 8 * k by omega]
  apply byte_eq_of_testBit
  intro j hj
  rw [testBit_lane, hbits, Nat.testBit_mod_two_pow, Nat.testBit_shiftLeft]
  have hword : 8 * i + j < 32 := by omega
  rcases Nat.lt_trichotomy i k with hik | rfl | hik
  · have hbelow : ¬ 8 * i + j ≥ 8 * k := by omega
    simp [hbelow, Nat.ne_of_lt hik]
  · simp [hj, hword]
  · -- the bit would lie above the byte
    have habove : byte.toNat.testBit (8 * i + j - 8 * k) = false :=
      testBit_byte_of_le byte (by omega)
    simp [habove, Nat.ne_of_gt hik]

/-- A bit of a byte enable says whether its lane is selected. -/
theorem checkedBit_eq_some (enable : UInt8) {k : Nat} (hk : k < 4) :
    ∃ bit, checkedBit (.ofNat k) = some bit ∧ (enable &&& bit = 0 ↔ selects enable k = false) := by
  have hsmall : (UInt64.ofNat k).toNat = k :=
    UInt64.toNat_ofNat_of_lt' (by simp only [UInt64.size]; omega)
  have hlt : UInt64.ofNat k < 8 := by
    rw [UInt64.lt_iff_toNat_lt, hsmall]
    show k < 8
    omega
  refine ⟨1 <<< (UInt64.ofNat k).toUInt8, if_pos hlt, ?_⟩
  have hbit : (1 <<< (UInt64.ofNat k).toUInt8 : UInt8).toNat = 2 ^ k := by
    have hpow : 2 ^ k < 2 ^ 8 := Nat.pow_lt_pow_right (by decide) (by omega)
    rw [UInt8.toNat_shiftLeft, UInt64.toNat_toUInt8, hsmall, show k % 2 ^ 8 % 8 = k by omega,
      UInt8.toNat_one, Nat.one_shiftLeft, Nat.mod_eq_of_lt hpow]
  rw [← UInt8.toNat_inj, UInt8.toNat_and, hbit, Nat.and_two_pow, UInt8.toNat_zero, selects]
  cases enable.toNat.testBit k <;> simp

/-! ## Masks -/

/-- A mask with all bits of a lane added, if the byte enable selects it. -/
def addLane (enable : UInt8) (mask : UInt32) (k : Nat) : Option UInt32 := do
  let bit ← checkedBit (.ofNat k)
  if enable &&& bit = 0 then some mask
  else do
    let amount ← checkedMul (.ofNat k) 8
    let ones ← checkedShift 0xFF amount
    some (mask ||| ones)

/-- The mask of the lanes that a byte enable selects. -/
def laneMask? (enable : UInt8) : Option UInt32 := (List.range laneCount).foldlM (addLane enable) 0

/-- A mask that is all ones in the selected lanes among the first `n`, and zero elsewhere. -/
def Masks (enable : UInt8) (n : Nat) (mask : UInt32) : Prop :=
  ∀ i < 4, lane mask i = if i < n ∧ selects enable i = true then 0xFF else 0

theorem addLane_eq_some {enable : UInt8} {mask : UInt32} {n : Nat} (hn : n < 4)
    (h : Masks enable n mask) :
    ∃ next, addLane enable mask n = some next ∧ Masks enable (n + 1) next := by
  obtain ⟨bit, hbit, hselected⟩ := checkedBit_eq_some enable hn
  unfold addLane
  rw [hbit]
  cases hsel : selects enable n with
  | false =>
      refine ⟨mask, if_pos (hselected.2 hsel), ?_⟩
      intro i hi
      rw [h i hi]
      refine if_congr (and_congr_left fun hi' => ?_) rfl rfl
      -- the new lane is not selected, so it is not `i`
      have hne : i ≠ n := by
        rintro rfl
        rw [hsel] at hi'
        cases hi'
      omega
  | true =>
      have hsmall : (UInt64.ofNat n).toNat = n :=
        UInt64.toNat_ofNat_of_lt' (by simp only [UInt64.size]; omega)
      have height : (8 : UInt64).toNat = 8 := rfl
      obtain ⟨amount, hamount, hvalue⟩ := checkedMul_eq_some (a := .ofNat n) (b := 8) (by
        rw [hsmall, height, Overflow.bound]
        omega)
      rw [hsmall, height, Nat.mul_comm] at hvalue
      obtain ⟨ones, hones, hlanes⟩ := checkedShift_eq_some 0xFF hn hvalue
      have hclear : ¬ enable &&& bit = 0 := by
        rw [hselected, hsel]
        simp
      refine ⟨mask ||| ones, ?_, ?_⟩
      · show (if enable &&& bit = 0 then some mask else _) = _
        rw [if_neg hclear, hamount]
        exact congrArg (Option.bind · _) hones
      · intro i hi
        rw [lane_or, h i hi, hlanes i hi]
        rcases Nat.lt_trichotomy i n with hin | rfl | hin
        · rw [if_neg (Nat.ne_of_lt hin)]
          simp [hin, Nat.lt_succ_of_lt hin]
        · simp [hsel]
        · have hnot : ¬ i < n := by omega
          have hnot' : ¬ i < n + 1 := by omega
          rw [if_neg (Nat.ne_of_gt hin)]
          simp [hnot, hnot']

/-- The mask of a byte enable is formed without any shift out of range. -/
theorem laneMask?_eq_some (enable : UInt8) :
    ∃ mask, laneMask? enable = some mask ∧ Masks enable laneCount mask := by
  have hfirst : ∀ n ≤ 4, ∃ mask, (List.range n).foldlM (addLane enable) 0 = some mask
      ∧ Masks enable n mask := by
    intro n
    induction n with
    | zero =>
        intro _
        refine ⟨0, rfl, ?_⟩
        intro i _
        simp [lane]
    | succ n ih =>
        intro hn
        obtain ⟨mask, hmask, hlanes⟩ := ih (by omega)
        obtain ⟨next, hnext, hlanes'⟩ := addLane_eq_some (by omega) hlanes
        refine ⟨next, ?_, hlanes'⟩
        rw [List.range_succ, List.foldlM_append, hmask]
        show addLane enable mask n >>= _ = _
        rw [hnext]
        rfl
  exact hfirst laneCount (Nat.le_refl _)

theorem and_ones (byte : UInt8) : byte &&& 0xFF = byte := UInt8.and_neg_one

/-- Taking the bits under the mask from the new word replaces the selected lanes. -/
theorem masked_eq_merge {enable : UInt8} {mask : UInt32} (h : Masks enable laneCount mask)
    (old new : UInt32) : (old &&& ~~~mask) ||| (new &&& mask) = merge enable old new := by
  apply eq_of_lanes
  intro i hi
  have hcount : i < laneCount := hi
  rw [lane_merge _ _ _ hi, lane_or, lane_and, lane_and, lane_not _ hi, h i hi]
  cases selects enable i with
  | true => simp [hcount, show ~~~(0xFF : UInt8) = 0 from rfl, and_ones]
  | false => simp

/-- Filling a hole in a word replaces the lane in which both stand. -/
theorem filled_eq_setLane {hole filling : UInt32} {k : Nat} {byte : UInt8}
    (hhole : ∀ i < 4, lane hole i = if i = k then 0xFF else 0)
    (hfilling : ∀ i < 4, lane filling i = if i = k then byte else 0) (word : UInt32) :
    (word &&& ~~~hole) ||| filling = setLane word k byte := by
  apply eq_of_lanes
  intro i hi
  rw [lane_setLane _ _ _ hi, lane_or, lane_and, lane_not _ hi, hhole i hi, hfilling i hi]
  by_cases hik : i = k
  · simp [hik, show ~~~(0xFF : UInt8) = 0 from rfl]
  · simp [hik]

end Word

namespace LocalMemory

open Word (laneCount)

/-! ## The operations in sixty-four bits -/

/-- The capacity in bytes. -/
def capacity64? (m : LocalMemory) : Option UInt64 := Word.checkedMul (.ofNat m.size) 4

/-- Replaces one byte by filling a hole in its word. -/
def setByte64? (m : LocalMemory) (offset : UInt64) (byte : UInt8) : Option LocalMemory := do
  let a := (offset >>> 2).toNat
  let word ← m.words[a]?
  let amount ← Word.checkedMul (offset % 4) 8
  let hole ← Word.checkedShift 0xFF amount
  let filling ← Word.checkedShift byte.toUInt32 amount
  some ⟨m.words.setIfInBounds a ((word &&& ~~~hole) ||| filling)⟩

/-- Replaces bytes, the one with number `k` at the sum of the start and `k`. -/
def place64? (start : UInt64) (m : LocalMemory) (k : Nat) : List UInt8 → Option LocalMemory
  | [] => some m
  | byte :: rest => do
      let offset ← Ddr.checkedAdd start (.ofNat k)
      let next ← m.setByte64? offset byte
      place64? start next (k + 1) rest

/-- Places contents at a byte offset, or refuses them if they do not fit. -/
def load64? (m : LocalMemory) (contents : Array UInt8) (offset : UInt64) :
    Option (Except Overrun LocalMemory) := do
  let capacity ← m.capacity64?
  if Ddr.fits64 capacity offset (.ofNat contents.size) then
    (m.place64? offset 0 contents.toList).map .ok
  else some (.error ⟨contents.size, offset.toNat, capacity.toNat⟩)

/-- Writes the bits under the mask of the selected lanes. -/
def write64? (m : LocalMemory) (address data : UInt32) (enable : UInt8) : Option LocalMemory :=
  if enable &&& 0xF = 0 then some m
  else
    match m.words[address.toNat]? with
    | none => some m
    | some word => do
        let mask ← Word.laneMask? enable
        some ⟨m.words.setIfInBounds address.toNat ((word &&& ~~~mask) ||| (data &&& mask))⟩

/-- One operation with what it gives back. -/
def run64? (m : LocalMemory) : Operation → Option (FlatBytes.Answer × LocalMemory)
  | .load contents offset =>
      (m.load64? contents offset).map fun
        | .ok n => (.done, n)
        | .error o => (.refused o, m)
  | .read address => some (.word (m.read address), m)
  | .write address data enable => (m.write64? address data enable).map fun n => (.done, n)

/-- Operations one after another, with what each of them gives back. -/
def runAll64? (m : LocalMemory) : List Operation → Option (List FlatBytes.Answer × LocalMemory)
  | [] => some ([], m)
  | op :: rest => do
      let (first, next) ← m.run64? op
      let (answers, last) ← next.runAll64? rest
      some (first :: answers, last)

variable {m : LocalMemory}

/-- Replacing a word that is there is changing it. -/
theorem setIfInBounds_eq_modify {k : Nat} {word : UInt32} (h : m.words[k]? = some word)
    (f : UInt32 → UInt32) : m.words.setIfInBounds k (f word) = m.words.modify k f := by
  obtain ⟨hlt, hword⟩ := Array.getElem?_eq_some_iff.1 h
  apply Array.ext
  · simp
  · intro i hi hi'
    have hin : i < m.words.size := by simpa using hi
    rw [Array.getElem_setIfInBounds hin, Array.getElem_modify]
    by_cases hki : k = i
    · subst hki
      simp [hword]
    · simp [hki]

theorem getElem?_words_of_lt {a : Nat} (h : a < m.size) : m.words[a]? = some (m.wordAt a) := by
  have hlt : a < m.words.size := h
  simp [wordAt, hlt]

theorem setByte64?_eq {offset : UInt64} (h : offset.toNat < m.sizeBytes) (byte : UInt8) :
    m.setByte64? offset byte = some (m.setByte offset.toNat byte) := by
  have hword : (offset >>> 2).toNat = offset.toNat / laneCount := by
    rw [UInt64.toNat_shiftRight, show (2 : UInt64).toNat % 64 = 2 from rfl,
      Nat.shiftRight_eq_div_pow]
    rfl
  have hlane : (offset % 4).toNat = offset.toNat % laneCount := UInt64.toNat_mod offset 4
  have hlt : offset.toNat % laneCount < 4 := Nat.mod_lt _ (by decide)
  have height : (8 : UInt64).toNat = 8 := rfl
  obtain ⟨amount, hamount, hvalue⟩ := Word.checkedMul_eq_some (a := offset % 4) (b := 8) (by
    rw [hlane, height, Overflow.bound]
    omega)
  rw [hlane, height, Nat.mul_comm] at hvalue
  obtain ⟨hole, hhole, hholes⟩ := Word.checkedShift_eq_some 0xFF hlt hvalue
  obtain ⟨filling, hfilling, hfillings⟩ := Word.checkedShift_eq_some byte hlt hvalue
  have hthere := getElem?_words_of_lt (div_laneCount_lt_size_iff.2 h)
  have hhole' : Word.checkedShift 0xFF amount = some hole := hhole
  simp only [setByte64?, hword, hthere, hamount, hhole', hfilling, Option.bind_eq_bind,
    Option.bind_some, Word.filled_eq_setLane hholes hfillings]
  rw [setIfInBounds_eq_modify hthere fun old => Word.setLane old (offset.toNat % laneCount) byte]
  rfl

theorem place64?_eq {start : UInt64} (contents : List UInt8) {k : Nat}
    (hsmall : m.sizeBytes < Overflow.bound)
    (h : start.toNat + k + contents.length ≤ m.sizeBytes) :
    m.place64? start k contents = some (m.place (start.toNat + k) contents) := by
  induction contents generalizing m k with
  | nil => rfl
  | cons byte rest ih =>
      have hlen : start.toNat + k + (rest.length + 1) ≤ m.sizeBytes := h
      have hsize : (m.setByte (start.toNat + k) byte).sizeBytes = m.sizeBytes := by
        rw [sizeBytes, size_setByte, sizeBytes]
      have hk : (UInt64.ofNat k).toNat = k := UInt64.toNat_ofNat_of_lt' (by
        simp only [Overflow.bound, UInt64.size] at hsmall ⊢
        omega)
      have hsum : (UInt64.ofNat (start.toNat + k)).toNat = start.toNat + k :=
        UInt64.toNat_ofNat_of_lt' (by
          simp only [Overflow.bound, UInt64.size] at hsmall ⊢
          omega)
      have hadd : Ddr.checkedAdd start (.ofNat k) = some (.ofNat (start.toNat + k)) :=
        Ddr.checkedAdd_eq_some_iff.2 (by rw [hsum, hk])
      rw [place64?, hadd]
      show (m.setByte64? (.ofNat (start.toNat + k)) byte).bind _ = _
      rw [setByte64?_eq (by rw [hsum]; omega), hsum]
      exact ih (by rw [hsize]; exact hsmall) (by rw [hsize]; omega)

theorem capacity64?_eq_some (hsmall : m.sizeBytes < Overflow.bound) :
    ∃ capacity, m.capacity64? = some capacity ∧ capacity.toNat = m.sizeBytes := by
  have hfour : (4 : UInt64).toNat = laneCount := rfl
  have hsize : (UInt64.ofNat m.size).toNat = m.size := UInt64.toNat_ofNat_of_lt' (by
    simp only [sizeBytes, laneCount, Overflow.bound, UInt64.size] at hsmall ⊢
    omega)
  obtain ⟨capacity, hcapacity, hvalue⟩ := Word.checkedMul_eq_some (a := .ofNat m.size) (b := 4) (by
    rw [hsize, hfour]
    exact hsmall)
  exact ⟨capacity, hcapacity, by rw [hvalue, hsize, hfour, sizeBytes]⟩

theorem load64?_eq (hsmall : m.sizeBytes < Overflow.bound) {contents : Array UInt8}
    (hcontents : contents.size < Overflow.bound) (offset : UInt64) :
    m.load64? contents offset = some (m.load contents offset.toNat) := by
  obtain ⟨capacity, hcapacity, hvalue⟩ := capacity64?_eq_some hsmall
  have hlength : (UInt64.ofNat contents.size).toNat = contents.size :=
    UInt64.toNat_ofNat_of_lt' hcontents
  have hfits : Ddr.fits64 capacity offset (.ofNat contents.size) = true
      ↔ offset.toNat + contents.size ≤ m.sizeBytes := by
    rw [Ddr.fits64_iff, hlength, hvalue]
  rw [load64?, hcapacity]
  show (if _ then _ else _) = _
  unfold load
  by_cases hle : offset.toNat + contents.size ≤ m.sizeBytes
  · rw [if_pos (hfits.2 hle), if_pos hle, place64?_eq _ hsmall (by simpa using hle), Nat.add_zero]
    rfl
  · rw [if_neg (fun h => hle (hfits.1 h)), if_neg hle, hvalue]

/-- A byte enable whose four lower bits are zero selects no lane. -/
theorem lowBits_eq_zero_iff {enable : UInt8} :
    enable &&& 0xF = 0 ↔ Word.selectsAny enable = false := by
  have hlow : ∀ j, (enable &&& 0xF).toNat.testBit j
      = (Word.selects enable j && decide (j < laneCount)) := by
    intro j
    rw [UInt8.toNat_and, Nat.testBit_and, show (0xF : UInt8).toNat = 2 ^ laneCount - 1 from rfl,
      Nat.testBit_two_pow_sub_one]
    rfl
  simp only [Word.selectsAny, List.any_eq_false, List.mem_range, Bool.not_eq_true]
  constructor
  · intro h j hj
    have hbit := hlow j
    rw [h] at hbit
    simpa [hj] using hbit.symm
  · intro h
    apply Word.byte_eq_of_testBit
    intro j _
    rw [hlow]
    by_cases hj : j < laneCount
    · simp [h j hj]
    · simp [hj]

theorem write64?_eq (m : LocalMemory) (address data : UInt32) (enable : UInt8) :
    m.write64? address data enable = some (m.write address data enable) := by
  unfold write64? write
  by_cases hlow : enable &&& 0xF = 0
  · rw [if_pos hlow, lowBits_eq_zero_iff.1 hlow]
    rfl
  · have hany : Word.selectsAny enable = true := by
      simpa using fun h => hlow (lowBits_eq_zero_iff.2 h)
    rw [if_neg hlow, if_pos hany]
    cases hword : m.words[address.toNat]? with
    | none =>
        have hout : ¬ address.toNat < m.words.size := by simpa using hword
        simp [Array.modify, Array.modifyM, hout]
    | some word =>
        obtain ⟨mask, hmask, hlanes⟩ := Word.laneMask?_eq_some enable
        simp only [hmask, Option.bind_eq_bind, Option.bind_some, Word.masked_eq_merge hlanes]
        rw [setIfInBounds_eq_modify hword fun old => Word.merge enable old data]

/-- An operation that is refused changes nothing. -/
theorem apply_of_refused {op : Operation} {o : Overrun} (h : m.answer op = .refused o) :
    m.apply op = m := by
  cases op with
  | load contents offset =>
      simp only [answer] at h
      simp only [apply]
      split at h
      · cases h
      · rename_i herror
        rw [herror]
        rfl
  | read address => rfl
  | write address data enable => cases h

/-- Is the length of contents to load a number of sixty-four bits? -/
def Operation.Sized : Operation → Prop
  | .load contents _ => contents.size < Overflow.bound
  | _ => True

instance (op : Operation) : Decidable op.Sized :=
  match op with
  | .load contents _ => inferInstanceAs (Decidable (contents.size < Overflow.bound))
  | .read _ => .isTrue trivial
  | .write _ _ _ => .isTrue trivial

/-- Nothing is out of range in an operation, and it gives what it should. -/
theorem run64?_eq (hsmall : m.sizeBytes < Overflow.bound) {op : Operation} (hop : op.Sized) :
    m.run64? op = some (m.answer op, m.apply op) := by
  cases op with
  | load contents offset =>
      simp only [run64?, load64?_eq hsmall hop, Option.map_some, answer, apply]
      cases m.load contents offset.toNat <;> rfl
  | read address => rfl
  | write address data enable =>
      simp only [run64?, write64?_eq, Option.map_some, answer, apply]

/-- Nothing is out of range in any number of operations. -/
theorem runAll64?_eq (hsmall : m.sizeBytes < Overflow.bound) {ops : List Operation}
    (hops : ∀ op ∈ ops, op.Sized) : m.runAll64? ops = some (m.answers ops, m.applyAll ops) := by
  induction ops generalizing m with
  | nil => rfl
  | cons op rest ih =>
      have hnext : (m.apply op).sizeBytes < Overflow.bound := by
        rw [sizeBytes, size_apply]
        exact hsmall
      have hrest : ∀ op ∈ rest, op.Sized := fun op hmem => hops op (List.mem_cons_of_mem _ hmem)
      simp only [runAll64?, run64?_eq hsmall (hops op List.mem_cons_self), ih hnext hrest,
        Option.bind_eq_bind, Option.bind_some]
      rfl

/-! ## The refinement -/

/-- What each operation does to the bytes of a memory of a given capacity. -/
structure ActsOnBytes (m : LocalMemory) (capacity : Nat) : Prop where
  /-- The bytes are as many as the capacity. -/
  length_bytes : m.flat.bytes.length = capacity
  /-- Lane `i` of word `a` is byte `4 * a + i`. -/
  lane_of_word : ∀ (a : Nat) (word : UInt32), m.words[a]? = some word →
    ∀ i < laneCount, m.flat.bytes[laneCount * a + i]? = some (Word.lane word i)
  /-- Contents that fit replace the bytes in their place and no other. -/
  load_of_le : ∀ (contents : Array UInt8) (offset : Nat), offset + contents.size ≤ capacity →
    ∃ n, m.load contents offset = .ok n ∧ n.flat.bytes.length = capacity ∧
      ∀ j < capacity, n.flat.bytes[j]? =
        if offset ≤ j ∧ j < offset + contents.size then contents[j - offset]?
        else m.flat.bytes[j]?
  /-- Contents that do not fit are refused. -/
  load_of_lt : ∀ (contents : Array UInt8) (offset : Nat), capacity < offset + contents.size →
    m.load contents offset = .error ⟨contents.size, offset, capacity⟩
  /-- A write replaces the bytes of the selected lanes of a word that exists, and no other. -/
  bytes_write : ∀ (address data : UInt32) (enable : UInt8), ∀ j < capacity,
    (m.write address data enable).flat.bytes[j]? =
      if j / laneCount = address.toNat ∧ enable.toNat.testBit (j % laneCount) = true then
        some (Word.lane data (j % laneCount))
      else m.flat.bytes[j]?
  /-- A read gives the little-endian word, or zero if there is none. -/
  read_eq : ∀ address : UInt32, m.read address =
    if laneCount * address.toNat < capacity then
      Word.ofLanes fun i => m.flat.bytes.getD (laneCount * address.toNat + i) 0
    else 0

theorem actsOnBytes (m : LocalMemory) : m.ActsOnBytes m.sizeBytes where
  length_bytes := length_bytes_flat m
  lane_of_word a word hword i hi := by
    obtain ⟨hlt, hvalue⟩ := Array.getElem?_eq_some_iff.1 hword
    have hin : laneCount * a + i < m.sizeBytes := by
      have hlt' : a < m.size := hlt
      simp only [sizeBytes, laneCount] at hi ⊢
      omega
    rw [getElem?_bytes_flat hin, byteAt_lane m a hi]
    simp [wordAt, hword]
  load_of_le contents offset hfits := by
    have hsize : (m.place offset contents.toList).sizeBytes = m.sizeBytes := by
      rw [sizeBytes, size_place, sizeBytes]
    refine ⟨m.place offset contents.toList, load_eq_ok_iff.2 ⟨hfits, rfl⟩, ?_, ?_⟩
    · rw [length_bytes_flat, hsize]
    · intro j hj
      rw [getElem?_bytes_flat (hsize.symm ▸ hj), getElem?_bytes_flat hj,
        byteAt_place _ _ _ _ (by simpa using hfits)]
      by_cases hstart : offset ≤ j
      · by_cases hend : j < offset + contents.size
        · have hlt : j - offset < contents.size := by omega
          simp [hstart, hend, hlt]
        · have hge : ¬ j - offset < contents.size := by omega
          simp [hstart, hend, hge]
      · simp [hstart]
  load_of_lt contents offset hlt := by
    unfold load
    rw [if_neg (Nat.not_le.2 hlt)]
  bytes_write address data enable j hj := by
    have hsize : (m.write address data enable).sizeBytes = m.sizeBytes := by
      rw [sizeBytes, size_write, sizeBytes]
    have hword : j / laneCount < m.size := div_laneCount_lt_size_iff.2 hj
    rw [getElem?_bytes_flat (hsize.symm ▸ hj), getElem?_bytes_flat hj, byteAt_write]
    by_cases hsel : j / laneCount = address.toNat ∧ Word.selects enable (j % laneCount) = true
    · rw [if_pos ⟨hsel.1, hsel.1 ▸ hword, hsel.2⟩]
      exact (if_pos hsel).symm
    · rw [if_neg fun h => hsel ⟨h.1, h.2.2⟩]
      exact (if_neg hsel).symm
  read_eq address := by
    rw [read_eq_word, FlatBytes.word]
    refine if_congr ?_ rfl rfl
    rw [mapped_flat_iff, sizeBytes, laneCount]
    omega

/-- **Local memory is a row of bytes.**  A memory of any size, after any operations, has answered
like the row of zeros of its capacity, the size rounded down to whole words, and holds the same
bytes; its words are those bytes, and every further operation does to them what it says, an
operation that is refused leaving all of them alone.  And in sixty-four bits, with shifts and masks,
no sum, product, shift or index is out of range. -/
theorem refines_flat_bytes (sizeBytes : UInt64) (ops : List Operation)
    (hops : ∀ op ∈ ops, op.Sized) :
    let m := (zeroed sizeBytes.toNat).applyAll ops
    let capacity := laneCount * (sizeBytes.toNat / laneCount)
    FlatBytes.performAll ⟨0, List.replicate capacity 0⟩ (ops.map Operation.job)
        = ((zeroed sizeBytes.toNat).answers ops, m.flat)
      ∧ m.ActsOnBytes capacity
      ∧ (∀ op o, m.answer op = .refused o → m.apply op = m)
      ∧ (zeroed sizeBytes.toNat).runAll64? ops = some ((zeroed sizeBytes.toNat).answers ops, m) := by
  intro m capacity
  have hcapacity : (zeroed sizeBytes.toNat).sizeBytes = capacity := by
    simp only [capacity, LocalMemory.sizeBytes, size_zeroed, laneCount, Nat.mul_comm]
  refine ⟨?_, ?_, ?_, ?_⟩
  · rw [← flat_zeroed]
    exact performAll_jobs _ ops
  · have hm : m.sizeBytes = capacity := by
      rw [← hcapacity, LocalMemory.sizeBytes, size_applyAll, LocalMemory.sizeBytes]
    exact hm ▸ actsOnBytes m
  · intro op o hrefused
    exact apply_of_refused hrefused
  · apply runAll64?_eq _ hops
    rw [hcapacity]
    have hlt := sizeBytes.toNat_lt
    simp only [capacity, laneCount, Overflow.bound]
    omega

/-- Contents that begin inside one word and end in the next, others over them, half a word written
over both, and accesses beyond the end. -/
def patches : List Operation :=
  [.load #[1, 2, 3] 3,
    .load #[9, 8] 4,
    .write 0 0x44332211 0xF6,
    .read 0,
    .read 1,
    .write 2 0xFFFFFFFF 0xF,
    .read 2,
    .load #[5, 5] 7,
    .load #[5] 0xFFFF_FFFF_FFFF_FFFF]

theorem patches_answers :
    (∀ op ∈ patches, op.Sized) ∧
      (zeroed (10 : UInt64).toNat).runAll64? patches
        = some ([.done, .done, .done, .word 0x01332200, .word 0x00000809, .done, .word 0,
            .refused ⟨2, 7, 8⟩, .refused ⟨1, 0xFFFF_FFFF_FFFF_FFFF, 8⟩],
          ⟨#[0x01332200, 0x00000809]⟩) := by
  have hsized : ∀ op ∈ patches, op.Sized := by decide
  obtain ⟨-, -, -, hrun⟩ := refines_flat_bytes 10 patches hsized
  refine ⟨hsized, hrun.trans ?_⟩
  decide +kernel

end LocalMemory

end Testbench
