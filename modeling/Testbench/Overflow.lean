/-!
# Numbers that leave their range

Cycle counts, latencies and sizes are natural numbers here, but the bench promises them in
sixty-four bits.  Two things can leave that range: a sum that comes from configured timing, and the
size of a store.  They are checked where they are formed and everything else is counted without a
bound.  Whether there is as much memory as a store takes is not asked.
-/

namespace Testbench

/-- A number left its range. -/
inductive Overflow where
  /-- A sum left the sixty-four-bit range. -/
  | sum
  /-- A store is larger than any store can be. -/
  | capacity
  deriving DecidableEq, Repr, Inhabited

namespace Overflow

/-- The text of an overflow. -/
def message : Overflow → String
  | .sum => "attempt to add with overflow"
  | .capacity => "capacity overflow"

/-- The least number that does not fit sixty-four bits: `2 ^ 64`. -/
def bound : Nat := 0x1_0000_0000_0000_0000

/-- The greatest number of bytes that a store can have: `2 ^ 63 - 1`. -/
def greatestStore : Nat := 0x7FFF_FFFF_FFFF_FFFF

/-- Sets bytes aside for a store, unless they are too many. -/
def reserve (bytes : Nat) : Except Overflow Unit :=
  if bytes ≤ greatestStore then .ok () else .error .capacity

theorem reserve_of_le {bytes : Nat} (h : bytes ≤ greatestStore) : reserve bytes = .ok () :=
  if_pos h

theorem reserve_of_lt {bytes : Nat} (h : greatestStore < bytes) :
    reserve bytes = .error .capacity :=
  if_neg (Nat.not_le.2 h)

end Overflow

end Testbench
