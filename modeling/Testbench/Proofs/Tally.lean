import Mathlib.Algebra.BigOperators.Intervals
import Mathlib.Order.Interval.Finset.Nat

/-!
# Sums since the last clearing

A counter is cleared at some positions of a history and grows at others.  Read off the whole history
it is a sum: over the positions that count, of those not before the last clearing (`tally`).  Kept
from position to position it is a number that starts anew at a clearing (`tally_succ_of_clears`) and
takes in one value at a time otherwise (`tally_succ`).
-/

namespace Testbench

variable (inside clears : Nat → Prop)

/-- Of the first `n` positions, position `j` goes into the sum: it counts and is not before the last
clearing. -/
def Tallied (n j : Nat) : Prop := inside j ∧ ∀ k ∈ Finset.Icc 1 n, clears k → k ≤ j

instance [DecidablePred inside] [DecidablePred clears] (n j : Nat) :
    Decidable (Tallied inside clears n j) :=
  inferInstanceAs (Decidable (_ ∧ _))

/-- What the values sum up to over the positions that count since the last clearing. -/
def tally [DecidablePred inside] [DecidablePred clears] (value : Nat → Nat) (n : Nat) : Nat :=
  ∑ j ∈ Finset.Icc 1 n with Tallied inside clears n j, value j

variable {inside clears} {value : Nat → Nat} {n : Nat}

/-- The position after all others goes into the sum if it counts. -/
theorem tallied_last_iff : Tallied inside clears (n + 1) (n + 1) ↔ inside (n + 1) :=
  and_iff_left fun _ hk _ => (Finset.mem_Icc.1 hk).2

variable [DecidablePred inside] [DecidablePred clears]

/-- **After a clearing only its own position counts.** -/
theorem tally_succ_of_clears (h : clears (n + 1)) :
    tally inside clears value (n + 1) = if inside (n + 1) then value (n + 1) else 0 := by
  have hearlier : ∀ j ∈ Finset.Icc 1 n,
      (if Tallied inside clears (n + 1) j then value j else 0) = 0 := by
    intro j hj
    refine if_neg fun hcounted => ?_
    have hle := hcounted.2 (n + 1) (Finset.mem_Icc.2 ⟨Nat.le_add_left _ _, Nat.le_refl _⟩) h
    have hlt := (Finset.mem_Icc.1 hj).2
    omega
  rw [tally, Finset.sum_filter, Finset.sum_Icc_succ_top (Nat.le_add_left _ _),
    Finset.sum_eq_zero hearlier, Nat.zero_add, if_congr tallied_last_iff rfl rfl]

/-- **Any other position adds its value if it counts** and leaves the earlier ones as they are. -/
theorem tally_succ (h : ¬ clears (n + 1)) : tally inside clears value (n + 1)
    = tally inside clears value n + if inside (n + 1) then value (n + 1) else 0 := by
  have hearlier : ∀ j, Tallied inside clears (n + 1) j ↔ Tallied inside clears n j := by
    refine fun j => and_congr_right fun _ => ⟨fun hlast k hk => ?_, fun hlast k hk hclears => ?_⟩
    · rw [Finset.mem_Icc] at hk
      exact hlast k (Finset.mem_Icc.2 ⟨hk.1, by omega⟩)
    · rw [Finset.mem_Icc] at hk
      have hne : k ≠ n + 1 := fun heq => h (heq ▸ hclears)
      exact hlast k (Finset.mem_Icc.2 ⟨hk.1, by omega⟩) hclears
  rw [tally, Finset.sum_filter, Finset.sum_Icc_succ_top (Nat.le_add_left _ _),
    if_congr tallied_last_iff rfl rfl, tally, Finset.sum_filter]
  simp only [hearlier]

/-- The sum looks at no other positions than those up to the last. -/
theorem tally_congr {inside' clears' : Nat → Prop} [DecidablePred inside'] [DecidablePred clears']
    {value' : Nat → Nat} (hinside : ∀ j, 1 ≤ j → j ≤ n → (inside j ↔ inside' j))
    (hclears : ∀ j, 1 ≤ j → j ≤ n → (clears j ↔ clears' j))
    (hvalue : ∀ j, 1 ≤ j → j ≤ n → value j = value' j) :
    tally inside clears value n = tally inside' clears' value' n := by
  have hsame : ∀ j ∈ Finset.Icc 1 n,
      (Tallied inside clears n j ↔ Tallied inside' clears' n j) := by
    intro j hj
    rw [Finset.mem_Icc] at hj
    refine and_congr (hinside j hj.1 hj.2) (forall₂_congr fun k hk => ?_)
    rw [Finset.mem_Icc] at hk
    exact imp_congr_left (hclears k hk.1 hk.2)
  rw [tally, tally, Finset.filter_congr hsame]
  refine Finset.sum_congr rfl fun j hj => ?_
  have hle := Finset.mem_Icc.1 (Finset.mem_filter.1 hj).1
  exact hvalue j hle.1 hle.2

end Testbench
