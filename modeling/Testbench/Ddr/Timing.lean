import Testbench.Overflow

/-!
# Access timing

How many steps an access takes is either fixed or depends on which row of the memory is open.  With
an open-row timing the address space is cut into rows of the least power of two that holds the
configured row size (`le_rowSpan`, `rowSpan_le`).  An access to the open row costs the column
latency alone, the first access adds the activation, and a change of row adds the precharge to that.

The costs are natural numbers.  `overflows` says when one of them, or the row size itself, does not
fit sixty-four bits.
-/

namespace Testbench.Ddr

/-- The latency rule of a memory. -/
inductive Timing where
  /-- Every access takes the same number of steps. -/
  | fixed (latency : Nat)
  /-- Column access, row activation and precharge latencies, and the size of a row in bytes. -/
  | openRow (cas ras pre rowBytes : Nat)
  deriving DecidableEq, Repr, Inhabited

namespace Timing

/-- The bytes that a row spans: the least power of two that is at least the configured size. -/
def rowSpan (rowBytes : Nat) : Nat :=
  if rowBytes ≤ 1 then 1 else Nat.pow 2 ((rowBytes - 1).log2 + 1)

/-- The greatest row size whose span fits sixty-four bits: `2 ^ 63`. -/
def greatestRow : Nat := 0x8000_0000_0000_0000

/-- Does the row size fit sixty-four bits when it is rounded up? -/
def rowFits : Timing → Bool
  | .fixed _ => true
  | .openRow _ _ _ rowBytes => rowBytes ≤ greatestRow

theorem rowSpan_pos (rowBytes : Nat) : 0 < rowSpan rowBytes := by
  unfold rowSpan
  split
  · decide
  · exact Nat.two_pow_pos _

theorem le_rowSpan (rowBytes : Nat) : rowBytes ≤ rowSpan rowBytes := by
  unfold rowSpan
  split
  · assumption
  · have hlt : rowBytes - 1 < Nat.pow 2 ((rowBytes - 1).log2 + 1) := Nat.lt_log2_self
    omega

/-- A row spans no more than any power of two that holds the configured size. -/
theorem rowSpan_le {rowBytes k : Nat} (h : rowBytes ≤ Nat.pow 2 k) :
    rowSpan rowBytes ≤ Nat.pow 2 k := by
  unfold rowSpan
  split
  · exact Nat.one_le_two_pow
  · have hlt : rowBytes - 1 < Nat.pow 2 k := by omega
    have hlog : (rowBytes - 1).log2 < k := (Nat.log2_lt (by omega)).2 hlt
    exact Nat.pow_le_pow_right (by decide) hlog

end Timing

/-- A timing rule together with the row that is open. -/
structure AccessTimer where
  /-- The latency rule. -/
  timing : Timing
  /-- The row that the last access opened. -/
  openedRow : Option Nat := none
  /-- The addresses that the timer was asked about, the last one first. -/
  asked : List Nat := []
  deriving DecidableEq, Repr, Inhabited

namespace AccessTimer

/-- A timer that was not asked yet. -/
def new (timing : Timing) : AccessTimer := { timing }

/-- The row of an address, if the timing has rows. -/
def rowOf (t : AccessTimer) (address : Nat) : Option Nat :=
  match t.timing with
  | .fixed _ => none
  | .openRow _ _ _ rowBytes => some (address / Timing.rowSpan rowBytes)

/-- The steps that an access to the address takes now. -/
def latency (t : AccessTimer) (address : Nat) : Nat :=
  match t.timing with
  | .fixed steps => steps
  | .openRow cas ras pre _ =>
      if t.openedRow.isNone then ras + cas
      else if t.openedRow = t.rowOf address then cas
      else pre + ras + cas

/-- The timer after an access to the address: its row is the open one. -/
def access (t : AccessTimer) (address : Nat) : AccessTimer :=
  { t with openedRow := t.rowOf address, asked := address :: t.asked }

/-- Does the latency of an access to the address leave the sixty-four-bit range? -/
def overflows (t : AccessTimer) (address : Nat) : Bool := Overflow.bound ≤ t.latency address

/-- A timer with no row open, unless the row size does not fit. -/
def ofTiming (timing : Timing) : Except Overflow AccessTimer :=
  if timing.rowFits then .ok (.new timing) else .error .sum

/-- The latencies of a sequence of accesses, up to the first that overflows. -/
def latencies (t : AccessTimer) : List Nat → List (Except Overflow Nat)
  | [] => []
  | address :: rest =>
      if t.overflows address then [.error .sum]
      else .ok (t.latency address) :: (t.access address).latencies rest

theorem ofTiming_eq_ok_iff {timing : Timing} {t : AccessTimer} :
    ofTiming timing = .ok t ↔ timing.rowFits = true ∧ t = .new timing := by
  unfold ofTiming
  split <;> rename_i h <;> simp [h, eq_comm]

theorem timing_access (t : AccessTimer) (address : Nat) :
    (t.access address).timing = t.timing := rfl

theorem asked_access (t : AccessTimer) (address : Nat) :
    (t.access address).asked = address :: t.asked := rfl

end AccessTimer

end Testbench.Ddr
