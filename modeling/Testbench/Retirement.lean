/-!
# Retirement

Each cycle the device shows a fixed row of retirement ports.  A port holds an instruction word and
says whether that instruction retired in this cycle; the word of a port that is not valid means
nothing.  The questions asked of a row never depend on which port an instruction retired on.
-/

namespace Testbench

namespace Retirement

/-- One retirement port: an instruction word and whether it retired in this cycle. -/
structure Port where
  /-- The retired instruction word; without meaning when the port is not valid. -/
  instruction : UInt32 := 0
  /-- High when an instruction retired on this port. -/
  valid : Bool := false
  deriving DecidableEq, Repr, Inhabited

/-- A port that retired `instruction`. -/
def Port.retired (instruction : UInt32) : Port := ⟨instruction, true⟩

end Retirement

/-- The row of retirement ports of one cycle. -/
abbrev Retirement := List Retirement.Port

namespace Retirement

/-- Did any instruction retire? -/
def retiresAny (row : Retirement) : Bool := row.any (·.valid)

/-- The number of instructions that retired. -/
def retiredCount (row : Retirement) : Nat := row.countP (·.valid)

/-- Did this instruction word retire on some port? -/
def retiresWord (row : Retirement) (word : UInt32) : Bool :=
  row.any fun port => port.valid && port.instruction == word

theorem retiresAny_iff {row : Retirement} :
    row.retiresAny = true ↔ ∃ port ∈ row, port.valid = true :=
  List.any_eq_true

theorem retiresWord_iff {row : Retirement} {word : UInt32} :
    row.retiresWord word = true ↔ Port.retired word ∈ row := by
  simp only [retiresWord, List.any_eq_true, Bool.and_eq_true, beq_iff_eq]
  constructor
  · rintro ⟨⟨i, v⟩, hmem, hv, hi⟩
    simp only at hv hi
    subst hv hi
    exact hmem
  · intro hmem
    exact ⟨_, hmem, rfl, rfl⟩

/-- A row that retires some word has a valid port. -/
theorem retiresAny_of_retiresWord {row : Retirement} {word : UInt32}
    (h : row.retiresWord word = true) : row.retiresAny = true :=
  retiresAny_iff.2 ⟨_, retiresWord_iff.1 h, rfl⟩

end Retirement

end Testbench
