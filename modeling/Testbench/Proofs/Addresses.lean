import Testbench.Ddr.Basic

/-!
# Addresses in sixty-four bits

The memory behind the bus finds its offsets by sums and differences of natural numbers.  Here the
same is done with numbers of sixty-four bits, where a sum or a difference that would wrap around is
no number at all.

For a memory whose base and size have sixty-four bits (`Ddr.Addressed`) nothing is lost by that: the
offset of a word is the same (`Addressed.map_offset64?`), and the same contents are taken over
(`Addressed.load_eq_ok_iff`), also at the very end of the address space.
-/

namespace Testbench.Ddr

/-! ## Sums that may not wrap around -/

/-- The sum of two numbers of sixty-four bits, unless it wraps around. -/
def checkedAdd (a b : UInt64) : Option UInt64 := if a + b < a then none else some (a + b)

/-- The difference of two numbers of sixty-four bits, unless it wraps around. -/
def checkedSub (a b : UInt64) : Option UInt64 := if a < b then none else some (a - b)

/-- Do as many bytes fit a store at an offset, computed in sixty-four bits? -/
def fits64 (size offset length : UInt64) : Bool :=
  (checkedAdd offset length).any fun stop => decide (stop ≤ size)

/-- The offset of the word at an address, computed in sixty-four bits. -/
def offset64? (base size address : UInt64) : Option UInt64 :=
  (checkedSub address base).filter fun offset => fits64 size offset 4

/-- The sum is refused exactly if the true sum does not fit, and else it is the true one. -/
theorem checkedAdd_eq_some_iff {a b c : UInt64} :
    checkedAdd a b = some c ↔ c.toNat = a.toNat + b.toNat := by
  have ha := a.toNat_lt
  have hb := b.toNat_lt
  have hc := c.toNat_lt
  unfold checkedAdd
  split
  · rename_i h
    rw [UInt64.lt_iff_toNat_lt, UInt64.toNat_add] at h
    simp only [reduceCtorEq, false_iff]
    omega
  · rename_i h
    rw [UInt64.lt_iff_toNat_lt, UInt64.toNat_add] at h
    rw [Option.some.injEq, ← UInt64.toNat_inj, UInt64.toNat_add]
    omega

/-- A sum that fits is formed. -/
theorem exists_checkedAdd {a b : UInt64} (h : a.toNat + b.toNat < Overflow.bound) :
    ∃ c, checkedAdd a b = some c ∧ c.toNat = a.toNat + b.toNat := by
  have hsum : (UInt64.ofNat (a.toNat + b.toNat)).toNat = a.toNat + b.toNat :=
    UInt64.toNat_ofNat_of_lt' h
  exact ⟨_, checkedAdd_eq_some_iff.2 hsum, hsum⟩

/-- The difference is refused exactly if it would be negative, and else it is the true one. -/
theorem checkedSub_eq_some_iff {a b c : UInt64} :
    checkedSub a b = some c ↔ a.toNat = b.toNat + c.toNat := by
  have ha := a.toNat_lt
  have hc := c.toNat_lt
  unfold checkedSub
  split
  · rename_i h
    rw [UInt64.lt_iff_toNat_lt] at h
    simp only [reduceCtorEq, false_iff]
    omega
  · rename_i h
    have hle : b ≤ a := UInt64.not_lt.1 h
    rw [Option.some.injEq, ← UInt64.toNat_inj, UInt64.toNat_sub_of_le _ _ hle]
    rw [UInt64.le_iff_toNat_le] at hle
    omega

/-- Whether bytes fit is seen in sixty-four bits. -/
theorem fits64_iff {size offset length : UInt64} :
    fits64 size offset length = true ↔ offset.toNat + length.toNat ≤ size.toNat := by
  have hlt := size.toNat_lt
  simp only [fits64, Option.any_eq_true, checkedAdd_eq_some_iff, decide_eq_true_eq,
    UInt64.le_iff_toNat_le]
  constructor
  · rintro ⟨stop, hstop, hle⟩
    omega
  · intro hle
    obtain ⟨stop, -, hstop⟩ := exists_checkedAdd (a := offset) (b := length)
      (Nat.lt_of_le_of_lt hle hlt)
    exact ⟨stop, hstop, hstop ▸ hle⟩

/-! ## A memory with such addresses -/

/-- A memory whose base and size are given in sixty-four bits. -/
structure Addressed (base size : UInt64) (d : Ddr) : Prop where
  base_eq : d.base = base.toNat
  size_eq : d.store.size = size.toNat

namespace Addressed

variable {base size : UInt64} {d : Ddr}

/-- The offset of a word is found in sixty-four bits. -/
theorem offset64?_eq_some_iff (h : Addressed base size d) {address offset : UInt64} :
    offset64? base size address = some offset ↔ d.offset? address.toNat = some offset.toNat := by
  have hfour : (4 : UInt64).toNat = Word.laneCount := rfl
  rw [offset64?, Option.filter_eq_some_iff, checkedSub_eq_some_iff, fits64_iff, offset?_eq_some_iff,
    h.base_eq, h.size_eq, hfour]

/-- No offset of a word needs more than sixty-four bits. -/
theorem map_offset64? (h : Addressed base size d) (address : UInt64) :
    (offset64? base size address).map UInt64.toNat = d.offset? address.toNat := by
  cases hoffset : d.offset? address.toNat with
  | none =>
      cases hfound : offset64? base size address with
      | none => rfl
      | some offset =>
          rw [h.offset64?_eq_some_iff, hoffset] at hfound
          cases hfound
  | some offset =>
      have hfits := (offset?_eq_some_iff.1 hoffset).2
      have hlt := size.toNat_lt
      rw [h.size_eq] at hfits
      have hsmall : (UInt64.ofNat offset).toNat = offset :=
        UInt64.toNat_ofNat_of_lt' (by simp only [UInt64.size]; omega)
      rw [h.offset64?_eq_some_iff.2 (hoffset.trans (congrArg some hsmall.symm)), Option.map_some,
        hsmall]

/-- Contents are taken over exactly if they fit by a sum in sixty-four bits. -/
theorem load_eq_ok_iff (h : Addressed base size d) {contents : Array UInt8} {offset length : UInt64}
    (hlength : contents.size = length.toNat) :
    (∃ after, d.load contents offset.toNat = .ok after) ↔ fits64 size offset length = true := by
  rw [fits64_iff, ← h.size_eq, ← hlength]
  unfold Ddr.load ByteStore.load
  split
  · rename_i hfits
    exact ⟨fun _ => hfits, fun _ => ⟨_, rfl⟩⟩
  · rename_i hfits
    constructor
    · rintro ⟨after, hafter⟩
      cases hafter
    · intro hle
      exact absurd hle hfits

end Addressed

end Testbench.Ddr
