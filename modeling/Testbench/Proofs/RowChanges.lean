import Mathlib.Order.Bounds.Basic
import Testbench.Proofs.Addresses
import Testbench.Proofs.BusProtocol

/-!
# What a change of row costs

A memory with rows keeps one of them open, so what an access costs is decided by its row and by the
row of the access before it, and by nothing else: two sequences of addresses that run through the
same rows have the same latencies (`latencies_eq_costs`).  Every access pays for its column, the
first one and every change of row for an activation, and every change for a precharge as well, which
gives the total in closed form (`total_costs`).

The number of a row is a quotient by the least power of two that holds the configured size
(`isLeast_rowSpan`).  A memory that works in sixty-four bits finds it without dividing: it rounds
the size up by counting leading zeros (`leastPower64?_eq_some_iff`), counts the zeros behind the one
that is left, and shifts each address by as many places.  None of its sums and shifts is out of
range, and its latencies are the same (`RowTimer64.Keeps.latencies?`).
-/

namespace Testbench.Ddr

/-! ## The span of a row -/

namespace Timing

theorem exists_rowSpan_eq (rowBytes : Nat) : ∃ k, rowSpan rowBytes = Nat.pow 2 k := by
  unfold rowSpan
  split
  · exact ⟨0, rfl⟩
  · exact ⟨_, rfl⟩

/-- A row spans the least power of two that holds the configured size, and at least one byte. -/
theorem isLeast_rowSpan (rowBytes : Nat) :
    IsLeast {p | (∃ k, p = Nat.pow 2 k) ∧ max rowBytes 1 ≤ p} (rowSpan rowBytes) := by
  have hpos := rowSpan_pos rowBytes
  refine ⟨⟨exists_rowSpan_eq rowBytes, Nat.max_le.2 ⟨le_rowSpan rowBytes, hpos⟩⟩, ?_⟩
  rintro p ⟨⟨k, rfl⟩, hle⟩
  exact rowSpan_le (Nat.le_trans (Nat.le_max_left _ _) hle)

theorem rowSpan_max_one (rowBytes : Nat) : rowSpan (max rowBytes 1) = rowSpan rowBytes := by
  cases rowBytes with
  | zero => rfl
  | succ n => rw [Nat.max_eq_left (Nat.succ_le_succ (Nat.zero_le n))]

end Timing

/-! ## Costs by rows -/

/-- The latencies of a memory with rows. -/
structure RowLatencies where
  /-- The latency of a column access. -/
  cas : Nat
  /-- The latency of opening a row. -/
  ras : Nat
  /-- The latency of closing the row that is open. -/
  pre : Nat
  deriving DecidableEq, Repr

namespace RowLatencies

/-- The timing with these latencies and a row size. -/
def timing (l : RowLatencies) (rowBytes : Nat) : Timing := .openRow l.cas l.ras l.pre rowBytes

/-- What an access to a row costs when a row is open, or none. -/
def cost (l : RowLatencies) (opened : Option Nat) (row : Nat) : Nat :=
  match opened with
  | none => l.ras + l.cas
  | some before => if row = before then l.cas else l.pre + l.ras + l.cas

/-- What accesses to rows cost one after another. -/
def costs (l : RowLatencies) : Option Nat → List Nat → List Nat
  | _, [] => []
  | opened, row :: rows => l.cost opened row :: l.costs (some row) rows

end RowLatencies

/-- How many neighbours in a sequence of rows differ. -/
def changes (rows : List Nat) : Nat :=
  (rows.zip rows.tail).countP fun (before, row) => before != row

/-- The sum of latencies. -/
def total : List Nat → Nat
  | [] => 0
  | cost :: costs => cost + total costs

theorem changes_cons (before row : Nat) (rows : List Nat) :
    changes (before :: row :: rows) = changes (row :: rows) + if row = before then 0 else 1 := by
  by_cases h : row = before
  · simp [changes, h]
  · simp [changes, h, Ne.symm h]

namespace RowLatencies

variable {l : RowLatencies}

@[simp] theorem length_costs (opened : Option Nat) (rows : List Nat) :
    (l.costs opened rows).length = rows.length := by
  induction rows generalizing opened with
  | nil => rfl
  | cons row rows ih => simp [costs, ih]

/-- Each access but the first finds the row open that the one before it went to. -/
theorem getElem?_costs_succ (opened : Option Nat) {rows : List Nat} {k before row : Nat}
    (hbefore : rows[k]? = some before) (hrow : rows[k + 1]? = some row) :
    (l.costs opened rows)[k + 1]? = some (l.cost (some before) row) := by
  induction rows generalizing opened k with
  | nil => simp at hbefore
  | cons first rows ih =>
      rw [costs, List.getElem?_cons_succ]
      rw [List.getElem?_cons_succ] at hrow
      cases k with
      | succ k => exact ih _ hbefore hrow
      | zero =>
          obtain rfl : first = before := by simpa using hbefore
          cases rows with
          | nil => simp at hrow
          | cons second rows =>
              obtain rfl : second = row := by simpa using hrow
              rfl

/-- Behind an open row every access pays for its column, and every change of row for a precharge and
an activation. -/
theorem total_costs_some (before : Nat) (rows : List Nat) :
    total (l.costs (some before) rows)
      = rows.length * l.cas + changes (before :: rows) * (l.pre + l.ras) := by
  induction rows generalizing before with
  | nil => simp [costs, total, changes]
  | cons row rows ih =>
      rw [costs, total, ih, changes_cons, List.length_cons, Nat.add_mul, Nat.add_mul, cost]
      split <;> omega

/-- The first access pays for an activation besides. -/
theorem total_costs {rows : List Nat} (h : rows ≠ []) :
    total (l.costs none rows)
      = rows.length * l.cas + l.ras + changes rows * (l.pre + l.ras) := by
  cases rows with
  | nil => exact absurd rfl h
  | cons row rows =>
      rw [costs, total, total_costs_some, List.length_cons, Nat.add_mul, cost]
      omega

end RowLatencies

namespace AccessTimer

variable {t : AccessTimer} {l : RowLatencies} {rowBytes : Nat}

/-- The latency of an access is the cost of its row. -/
theorem latency_eq_cost (h : t.timing = l.timing rowBytes) (address : Nat) :
    t.latency address = l.cost t.openedRow (address / Timing.rowSpan rowBytes) := by
  simp only [latency, rowOf, h, RowLatencies.timing]
  cases t.openedRow with
  | none => rfl
  | some before => simp [RowLatencies.cost, eq_comm]

theorem openedRow_access (h : t.timing = l.timing rowBytes) (address : Nat) :
    (t.access address).openedRow = some (address / Timing.rowSpan rowBytes) := by
  simp only [access, rowOf, h, RowLatencies.timing]

/-- **Latencies are the costs of rows.**  By induction on the addresses, with whatever row is open
in front of them. -/
theorem latencies_eq_costs (h : t.timing = l.timing rowBytes)
    (hfits : t.timing.worst < Overflow.bound) (addresses : List Nat) :
    t.latencies addresses
      = (l.costs t.openedRow (addresses.map (· / Timing.rowSpan rowBytes))).map .ok := by
  induction addresses generalizing t with
  | nil => rfl
  | cons address rest ih =>
      have hnone : ¬ t.overflows address = true := by simp [overflows_eq_false hfits]
      have hrest := ih (t := t.access address) h hfits
      rw [openedRow_access h] at hrest
      rw [latencies, if_neg hnone, hrest, latency_eq_cost h]
      rfl

/-- A timer that is new finds no row open. -/
theorem latencies_of_new (hfits : l.pre + l.ras + l.cas < Overflow.bound)
    (addresses : List UInt64) :
    (AccessTimer.new (l.timing rowBytes)).latencies (addresses.map (·.toNat))
      = (l.costs none (addresses.map (·.toNat / Timing.rowSpan rowBytes))).map .ok := by
  have hworst : (l.timing rowBytes).worst < Overflow.bound := hfits
  rw [latencies_eq_costs (t := .new (l.timing rowBytes)) rfl hworst, List.map_map]
  rfl

end AccessTimer

/-! ## Rows by shifts -/

/-- The least power of two that is at least a number, unless it has more than sixty-four bits: one
more than the ones that are left when as many are shifted out as the number less one has leading
zeros. -/
def leastPower64? (n : UInt64) : Option UInt64 :=
  if n ≤ 1 then some 1
  else checkedAdd (.ofBitVec (BitVec.allOnes 64 >>> (n - 1).toBitVec.clz)) 1

/-- The number of zeros behind the last one of a number. -/
def trailingZeros64 (n : UInt64) : UInt64 := .ofBitVec n.toBitVec.ctz

/-- A number shifted to the right, unless by all of its sixty-four places. -/
def shiftRight64? (n places : UInt64) : Option UInt64 :=
  if places < 64 then some (n >>> places) else none

/-- Ones that are shifted out at one end are missing at the other. -/
theorem ones_shift (zeros places : Nat) :
    (Nat.pow 2 (zeros + places) - 1) / Nat.pow 2 zeros + 1 = Nat.pow 2 places := by
  have hsplit : Nat.pow 2 (zeros + places) = Nat.pow 2 zeros * Nat.pow 2 places :=
    Nat.pow_add _ _ _
  have hpos : 0 < Nat.pow 2 zeros * Nat.pow 2 places :=
    Nat.mul_pos (Nat.two_pow_pos _) (Nat.two_pow_pos _)
  have hplaces : 0 < Nat.pow 2 places := Nat.two_pow_pos _
  have hshift := Nat.mul_sub_div 0 (Nat.pow 2 zeros) (Nat.pow 2 places) hpos
  rw [Nat.zero_div, Nat.zero_add] at hshift
  rw [hsplit, hshift]
  exact Nat.sub_add_cancel hplaces

/-- The ones that are left reach up to the highest one of the number. -/
theorem toNat_ones_shift {n : UInt64} (h : n ≠ 0) :
    (UInt64.ofBitVec (BitVec.allOnes 64 >>> n.toBitVec.clz)).toNat + 1
      = Nat.pow 2 (n.toNat.log2 + 1) := by
  have hne : n.toBitVec ≠ 0#64 := by
    intro hzero
    exact h (UInt64.toBitVec_inj.1 hzero)
  have hpos : n.toNat ≠ 0 := by
    intro hzero
    exact h (UInt64.toNat_inj.1 hzero)
  have hzeros : n.toBitVec.clz.toNat < 64 := by
    simpa [BitVec.lt_def] using BitVec.clz_lt_iff_ne_zero.2 hne
  have hlow := BitVec.two_pow_sub_clz_le_toNat_of_ne_zero (by decide) hne
  have hhigh := BitVec.toNat_lt_two_pow_sub_clz (x := n.toBitVec)
  rw [UInt64.toNat_ofBitVec, BitVec.ushiftRight_eq', BitVec.toNat_ushiftRight,
    BitVec.toNat_allOnes, Nat.shiftRight_eq_div_pow]
  generalize n.toBitVec.clz.toNat = zeros at hzeros hlow hhigh ⊢
  obtain ⟨places, hplaces⟩ : ∃ places, 64 = zeros + (places + 1) := ⟨63 - zeros, by omega⟩
  have hlog : n.toNat.log2 = places := by
    rw [show 64 - 1 - zeros = places by omega] at hlow
    rw [show 64 - zeros = places + 1 by omega] at hhigh
    exact (Nat.log2_eq_iff hpos).2 ⟨hlow, hhigh⟩
  rw [hlog, hplaces]
  exact ones_shift zeros (places + 1)

/-- The power is refused exactly if it does not fit, and else it is the span of a row. -/
theorem leastPower64?_eq_some_iff {n p : UInt64} :
    leastPower64? n = some p ↔ p.toNat = Timing.rowSpan n.toNat := by
  unfold leastPower64? Timing.rowSpan
  by_cases hsmall : n ≤ 1
  · have hle : n.toNat ≤ 1 := UInt64.le_iff_toNat_le.1 hsmall
    rw [if_pos hsmall, if_pos hle, Option.some.injEq, ← UInt64.toNat_inj, eq_comm]
    rfl
  · have hlt : 1 < n := UInt64.not_le.1 hsmall
    have hbig : ¬ n.toNat ≤ 1 := Nat.not_le.2 (UInt64.lt_iff_toNat_lt.1 hlt)
    have hless : (n - 1).toNat = n.toNat - 1 := UInt64.toNat_sub_of_le _ _ (UInt64.le_of_lt hlt)
    have hne : n - 1 ≠ 0 := by
      intro hzero
      rw [hzero, UInt64.toNat_zero] at hless
      omega
    have hones := toNat_ones_shift hne
    rw [hless] at hones
    rw [if_neg hsmall, if_neg hbig, checkedAdd_eq_some_iff, ← hones]
    rfl

/-- A power of two ends in as many zeros as its exponent says. -/
theorem toNat_trailingZeros64 {n : UInt64} {k : Nat} (h : n.toNat = Nat.pow 2 k) :
    (trailingZeros64 n).toNat = k := by
  have hne : n.toBitVec ≠ 0#64 := by
    intro hzero
    have hpos : 0 < Nat.pow 2 k := Nat.two_pow_pos k
    rw [← h, ← UInt64.toNat_toBitVec, hzero] at hpos
    exact absurd hpos (Nat.lt_irrefl 0)
  have hbit := BitVec.getLsbD_true_ctz_of_ne_zero hne
  have htest : (Nat.pow 2 k).testBit n.toBitVec.ctz.toNat = true := by
    rw [← h]
    exact hbit
  rw [show (Nat.pow 2 k).testBit n.toBitVec.ctz.toNat = decide (k = n.toBitVec.ctz.toNat) from
    Nat.testBit_two_pow] at htest
  exact (of_decide_eq_true htest).symm

/-- A shift by fewer than all places divides. -/
theorem shiftRight64?_eq_some {n places : UInt64} (h : places.toNat < 64) :
    ∃ row, shiftRight64? n places = some row ∧ row.toNat = n.toNat / Nat.pow 2 places.toNat := by
  refine ⟨n >>> places, if_pos (UInt64.lt_iff_toNat_lt.2 h), ?_⟩
  rw [UInt64.toNat_shiftRight, Nat.mod_eq_of_lt h, Nat.shiftRight_eq_div_pow]
  rfl

/-! ## A timer in sixty-four bits -/

/-- An open-row timer that works in sixty-four bits. -/
structure RowTimer64 where
  /-- The latency of a column access. -/
  cas : UInt64
  /-- The latency of opening a row. -/
  ras : UInt64
  /-- The latency of closing the row that is open. -/
  pre : UInt64
  /-- The places of an address behind the number of its row. -/
  places : UInt64
  /-- The row that the last access opened. -/
  openedRow : Option UInt64 := none
  deriving DecidableEq, Repr

namespace RowTimer64

/-- A timer with no row open, if the row size can be rounded up. -/
def ofLatencies? (cas ras pre rowBytes : UInt64) : Option RowTimer64 := do
  let span ← leastPower64? (max rowBytes 1)
  some { cas, ras, pre, places := trailingZeros64 span }

/-- What an access to a row costs, unless a sum is out of range. -/
def cost? (m : RowTimer64) (row : UInt64) : Option UInt64 :=
  match m.openedRow with
  | none => checkedAdd m.ras m.cas
  | some before =>
      if before = row then some m.cas
      else (checkedAdd m.pre m.ras).bind fun opening => checkedAdd opening m.cas

/-- The latency of an access and the timer after it, unless a sum or the shift is out of range. -/
def access? (m : RowTimer64) (address : UInt64) : Option (UInt64 × RowTimer64) := do
  let row ← shiftRight64? address m.places
  let cost ← m.cost? row
  some (cost, { m with openedRow := some row })

/-- The latencies of a sequence of accesses, unless something is out of range in one of them. -/
def latencies? (m : RowTimer64) : List UInt64 → Option (List UInt64)
  | [] => some []
  | address :: rest => do
      let (cost, next) ← m.access? address
      some (cost :: (← next.latencies? rest))

/-- The latencies as natural numbers. -/
def plain (m : RowTimer64) : RowLatencies := ⟨m.cas.toNat, m.ras.toNat, m.pre.toNat⟩

/-- A timer keeps in sixty-four bits what another keeps in natural numbers. -/
structure Keeps (m : RowTimer64) (t : AccessTimer) (rowBytes : Nat) : Prop where
  timing_eq : t.timing = m.plain.timing rowBytes
  places_lt : m.places.toNat < 64
  span_eq : Timing.rowSpan rowBytes = Nat.pow 2 m.places.toNat
  openedRow_eq : t.openedRow = m.openedRow.map (·.toNat)

variable {m : RowTimer64} {t : AccessTimer} {rowBytes : Nat}

/-- Latencies that fit together are added without a carry. -/
theorem exists_cost? (h : m.plain.pre + m.plain.ras + m.plain.cas < Overflow.bound)
    (row : UInt64) :
    ∃ cost, m.cost? row = some cost
      ∧ cost.toNat = m.plain.cost (m.openedRow.map (·.toNat)) row.toNat := by
  simp only [plain] at h
  unfold cost?
  cases m.openedRow with
  | none => exact exists_checkedAdd (by omega)
  | some before =>
      simp only [Option.map_some, RowLatencies.cost, plain]
      by_cases hsame : before = row
      · rw [if_pos hsame, hsame, if_pos rfl]
        exact ⟨m.cas, rfl, rfl⟩
      · have hother : ¬ row.toNat = before.toNat := by
          intro heq
          exact hsame (UInt64.toNat_inj.1 heq.symm)
        obtain ⟨opening, hfirst, hopening⟩ : ∃ c, checkedAdd m.pre m.ras = some c ∧ _ :=
          exists_checkedAdd (by omega)
        rw [if_neg hsame, if_neg hother, hfirst, ← hopening]
        exact exists_checkedAdd (by omega)

/-- An access costs the same and leaves the same row open. -/
theorem Keeps.access? (h : m.Keeps t rowBytes) (hfits : t.timing.worst < Overflow.bound)
    (address : UInt64) :
    ∃ cost next, m.access? address = some (cost, next) ∧ cost.toNat = t.latency address.toNat
      ∧ next.Keeps (t.access address.toNat) rowBytes := by
  obtain ⟨row, hshift, hrow⟩ := shiftRight64?_eq_some (n := address) h.places_lt
  rw [← h.span_eq] at hrow
  rw [h.timing_eq] at hfits
  obtain ⟨cost, hsum, hcost⟩ := exists_cost? hfits row
  have hopened := AccessTimer.openedRow_access h.timing_eq address.toNat
  rw [← hrow] at hopened
  refine ⟨cost, { m with openedRow := some row }, ?_, ?_, h.timing_eq, h.places_lt, h.span_eq,
    hopened⟩
  · simp [RowTimer64.access?, hshift, hsum]
  · rw [hcost, AccessTimer.latency_eq_cost h.timing_eq, h.openedRow_eq, hrow]

/-- So does any number of accesses. -/
theorem Keeps.latencies? (h : m.Keeps t rowBytes) (hfits : t.timing.worst < Overflow.bound)
    (addresses : List UInt64) :
    ∃ costs : List UInt64, m.latencies? addresses = some costs
      ∧ t.latencies (addresses.map (·.toNat)) = (costs.map (·.toNat)).map .ok := by
  induction addresses generalizing m t with
  | nil => exact ⟨[], rfl, rfl⟩
  | cons address rest ih =>
      obtain ⟨cost, next, haccess, hcost, hnext⟩ := h.access? hfits address
      obtain ⟨costs, hcosts, hlatencies⟩ := ih hnext hfits
      have hnone : ¬ t.overflows address.toNat = true := by
        simp [AccessTimer.overflows_eq_false hfits]
      refine ⟨cost :: costs, ?_, ?_⟩
      · simp [RowTimer64.latencies?, haccess, hcosts]
      · rw [List.map_cons, AccessTimer.latencies, if_neg hnone, hlatencies, ← hcost]
        rfl

/-- Where the row size can be rounded up, a timer in sixty-four bits can be built. -/
theorem exists_keeps (cas ras pre : UInt64) {rowBytes : UInt64}
    (hrow : rowBytes.toNat ≤ Timing.greatestRow) :
    ∃ m, ofLatencies? cas ras pre rowBytes = some m
      ∧ m.Keeps (.new (.openRow cas.toNat ras.toNat pre.toNat rowBytes.toNat)) rowBytes.toNat := by
  have hmax : Timing.rowSpan (max rowBytes 1).toNat = Timing.rowSpan rowBytes.toNat := by
    rw [UInt64.toNat_max]
    exact Timing.rowSpan_max_one _
  have hle : Timing.rowSpan rowBytes.toNat ≤ Nat.pow 2 63 := Timing.rowSpan_le hrow
  have hspan : (UInt64.ofNat (Timing.rowSpan rowBytes.toNat)).toNat
      = Timing.rowSpan rowBytes.toNat :=
    UInt64.toNat_ofNat_of_lt' (Nat.lt_of_le_of_lt hle (by decide))
  obtain ⟨k, hk⟩ := Timing.exists_rowSpan_eq rowBytes.toNat
  have hlt : k < 64 := by
    rw [hk] at hle
    exact Nat.lt_succ_of_le ((Nat.pow_le_pow_iff_right (by decide)).1 hle)
  have hplaces := toNat_trailingZeros64 (hspan.trans hk)
  refine ⟨⟨cas, ras, pre, trailingZeros64 (.ofNat (Timing.rowSpan rowBytes.toNat)), none⟩, ?_, rfl,
    ?_, ?_, rfl⟩
  · rw [ofLatencies?, leastPower64?_eq_some_iff.2 (hspan.trans hmax.symm)]
    rfl
  · rw [hplaces]
    exact hlt
  · rw [hplaces]
    exact hk

end RowTimer64

/-! ## The latencies of a sequence -/

/-- What a sequence of accesses costs, access by access and in all, by the rows it runs through. -/
structure RowLatencies.Charges (l : RowLatencies) (rows costs : List Nat) : Prop where
  /-- Every access has a cost. -/
  length_eq : costs.length = rows.length
  /-- The first access opens its row. -/
  first : rows ≠ [] → costs[0]? = some (l.ras + l.cas)
  /-- Every other access goes to the row that is open, or closes it and opens its own. -/
  next : ∀ k before row, rows[k]? = some before → rows[k + 1]? = some row →
    costs[k + 1]? = some (if row = before then l.cas else l.pre + l.ras + l.cas)
  /-- In all, each access pays for its column, and each change of row for a precharge and an
  activation, as the first access does for an activation. -/
  total_eq : rows ≠ [] →
    total costs = rows.length * l.cas + l.ras + changes rows * (l.pre + l.ras)

theorem RowLatencies.charges_costs (l : RowLatencies) (rows : List Nat) :
    l.Charges rows (l.costs none rows) where
  length_eq := length_costs none rows
  first h := by
    cases rows with
    | nil => exact absurd rfl h
    | cons row rows => rfl
  next _ _ _ hbefore hrow := getElem?_costs_succ none hbefore hrow
  total_eq h := total_costs h

namespace AccessTimer

/-- **Latencies are decided by the changes of row alone.**  For a row size that is at most half of
the address space, and latencies that fit sixty-four bits together, a timer can be built.  A row
spans the least power of two that holds the row size and at least one byte.  The first access costs
an activation and a column; every other one costs a column alone if it goes to the row of the access
before it, and a precharge and an activation besides if not.  So the total is a closed form in the
number of accesses and of changes, and addresses in the same rows have the same latencies.  In
sixty-four bits, where rows are found by shifts, nothing is out of range and the latencies are the
same. -/
theorem latencies_by_row_changes (cas ras pre rowBytes : UInt64)
    (hrow : rowBytes.toNat ≤ 0x8000_0000_0000_0000)
    (hsum : pre.toNat + ras.toNat + cas.toNat < Overflow.bound) :
    ∃ span timer machine,
      IsLeast {p | (∃ k, p = Nat.pow 2 k) ∧ max rowBytes.toNat 1 ≤ p} span
        ∧ ofTiming (.openRow cas.toNat ras.toNat pre.toNat rowBytes.toNat) = .ok timer
        ∧ RowTimer64.ofLatencies? cas ras pre rowBytes = some machine
        ∧ ∀ addresses : List UInt64,
          (∃ costs : List UInt64, machine.latencies? addresses = some costs
            ∧ timer.latencies (addresses.map (·.toNat)) = (costs.map (·.toNat)).map .ok
            ∧ (RowLatencies.mk cas.toNat ras.toNat pre.toNat).Charges
                (addresses.map (·.toNat / span)) (costs.map (·.toNat)))
          ∧ ∀ others : List UInt64,
            others.map (·.toNat / span) = addresses.map (·.toNat / span) →
              timer.latencies (others.map (·.toNat))
                = timer.latencies (addresses.map (·.toNat)) := by
  obtain ⟨machine, hmachine, hkeeps⟩ := RowTimer64.exists_keeps cas ras pre hrow
  have hcosts : ∀ addresses : List UInt64,
      (AccessTimer.new (.openRow cas.toNat ras.toNat pre.toNat rowBytes.toNat)).latencies
          (addresses.map (·.toNat))
        = ((RowLatencies.mk cas.toNat ras.toNat pre.toNat).costs none
            (addresses.map (·.toNat / Timing.rowSpan rowBytes.toNat))).map .ok :=
    latencies_of_new (l := ⟨cas.toNat, ras.toNat, pre.toNat⟩) hsum
  refine ⟨_, .new _, machine, Timing.isLeast_rowSpan _, if_pos (decide_eq_true hrow), hmachine,
    ?_⟩
  intro addresses
  constructor
  · obtain ⟨costs, hrun, hlatencies⟩ := hkeeps.latencies? hsum addresses
    refine ⟨costs, hrun, hlatencies, ?_⟩
    rw [hcosts] at hlatencies
    rw [← (List.map_inj_right fun _ _ => Except.ok.inj).1 hlatencies]
    exact RowLatencies.charges_costs _ _
  · intro others hsame
    rw [hcosts, hcosts, hsame]

/-- Rows of a thousand bytes span 1024, also at the end of the address space. -/
def roundedRows : List UInt64 :=
  [0, 1023, 1024, 0xFFFF_FFFF_FFFF_FFFF, 0xFFFF_FFFF_FFFF_FC00, 5]

/-- Other addresses in the same rows. -/
def sameRows : List UInt64 :=
  [1, 0, 2047, 0xFFFF_FFFF_FFFF_FC00, 0xFFFF_FFFF_FFFF_FFFE, 1023]

theorem rounded_rows_sample :
    (1000 : UInt64).toNat ≤ 0x8000_0000_0000_0000
      ∧ (4 : UInt64).toNat + (2 : UInt64).toNat + (1 : UInt64).toNat < Overflow.bound
      ∧ (AccessTimer.new (.openRow 1 2 4 1000)).latencies (sameRows.map (·.toNat))
        = [.ok 3, .ok 1, .ok 7, .ok 7, .ok 1, .ok 7] := by
  have hrow : (1000 : UInt64).toNat ≤ 0x8000_0000_0000_0000 := by decide
  have hsum : (4 : UInt64).toNat + (2 : UInt64).toNat + (1 : UInt64).toNat < Overflow.bound := by
    decide
  obtain ⟨span, timer, machine, hspan, htimer, hmachine, hall⟩ :=
    latencies_by_row_changes 1 2 4 1000 hrow hsum
  obtain rfl := hspan.unique (Timing.isLeast_rowSpan 1000)
  obtain rfl : machine = ⟨1, 2, 4, 10, none⟩ :=
    Option.some.inj (hmachine.symm.trans (by decide +kernel))
  obtain rfl : timer = .new (.openRow 1 2 4 1000) := (Except.ok.inj htimer).symm
  obtain ⟨⟨costs, hcosts, hlatencies, -⟩, hsame⟩ := hall roundedRows
  refine ⟨hrow, hsum, ?_⟩
  rw [hsame sameRows (by decide +kernel), hlatencies, Option.some.inj (hcosts.symm.trans
    (show _ = some [3, 1, 7, 7, 1, 7] by decide +kernel))]
  rfl

end AccessTimer

end Testbench.Ddr
