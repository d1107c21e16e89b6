import Mathlib.Data.List.Induction
import Testbench.Proofs.Attribution

/-!
# What a collector has counted

A collector is told of one cycle after another, each with its retirements and its events, and is
reset now and then.  It keeps a mode and a table of counts.  Both can be read off the history of
calls: a region is open if the last sentinel fired since the last reset opened one
(`collecting_after_iff`), and a count is the sum of its event over the cycles that left a region
open, of those not before the last start or reset (`countAfter_eq`).

Which sentinel a cycle fires depends on nothing but which of the three region sentinels are on a
valid port (`fired_eq`).
-/

namespace Testbench.Region

open Trace

/-! ## Histories -/

/-- What a collector is asked to do. -/
inductive Call where
  /-- To take in a cycle: its retirements, and its events. -/
  | update (row : Retirement) (events : List UInt32)
  /-- To forget. -/
  | reset
  deriving DecidableEq, Repr

namespace Call

/-- The collector after a call. -/
def apply : Call → Region → Region
  | .update row events, r => r.update row events
  | .reset, r => r.reset

/-- The region sentinel that the call answers with. -/
def fired? : Call → Option Sentinel
  | .update row _ => fired row
  | .reset => none

/-- What the call has to say about event `i`; nothing if its events are too few. -/
def event (i : Nat) : Call → Nat
  | .update _ events => (events.getD i 0).toNat
  | .reset => 0

/-- The call brings every count back to zero. -/
def clears : Call → Bool
  | .update row _ => fired row == some .statsStart
  | .reset => true

end Call

/-- The collector after a history of calls. -/
def after (history : List Call) (r : Region) : Region := history.foldl (fun r c => c.apply r) r

/-- The last region sentinel fired since the last reset. -/
def lastFired (history : List Call) : Option Sentinel :=
  (history.reverse.takeWhile (· ≠ .reset)).findSome? (·.fired?)

/-- What event `i` sums up to over the calls of a history, counted from one, that leave a region
open, from the last one on that clears the counts. -/
def counted (history : List Call) (i : Nat) : Nat :=
  tally (fun j => Opens (lastFired (history.take j)))
    (fun k => (history[k - 1]?).any (·.clears) = true)
    (fun j => (history[j - 1]?).elim 0 (·.event i)) history.length

/-- Count `i` of a collector that was new before the history. -/
def countAfter (names : List String) (history : List Call) (i : Nat) : Nat :=
  (after history (closed names)).counters.counts.getD i 0

@[simp] theorem after_nil (r : Region) : after [] r = r := rfl

@[simp] theorem after_append_singleton (history : List Call) (c : Call) (r : Region) :
    after (history ++ [c]) r = c.apply (after history r) := by
  rw [after, List.foldl_append]
  rfl

@[simp] theorem names_after (history : List Call) (r : Region) :
    (after history r).counters.names = r.counters.names := by
  induction history using List.reverseRecOn with
  | nil => rfl
  | append_singleton history c ih =>
      rw [after_append_singleton, ← ih]
      cases c with
      | update row events => exact names_update _ row events
      | reset => exact Counters.names_clear _

theorem size_after (history : List Call) (names : List String) :
    (after history (closed names)).counters.size = names.length := by
  rw [← Counters.length_names, names_after, closed, Counters.names_zeroed]

@[simp] theorem lastFired_nil : lastFired [] = none := rfl

@[simp] theorem lastFired_append_reset (history : List Call) :
    lastFired (history ++ [.reset]) = none := by
  simp [lastFired]

@[simp] theorem lastFired_append_update (history : List Call) (row : Retirement)
    (events : List UInt32) :
    lastFired (history ++ [.update row events]) = (fired row).or (lastFired history) := by
  rw [lastFired, List.reverse_append, List.reverse_singleton, List.singleton_append,
    List.takeWhile_cons_of_pos (by simp), List.findSome?_cons, Call.fired?]
  cases fired row <;> rfl

/-! ## The sentinel of a cycle -/

/-- A cycle fires the start if it is on a valid port, otherwise the resume, otherwise the end. -/
theorem fired_eq (row : Retirement) : fired row
    = if Retirement.Port.retired Sentinel.statsStart.encoding ∈ row then some .statsStart
      else if Retirement.Port.retired Sentinel.statsResume.encoding ∈ row then some .statsResume
      else if Retirement.Port.retired Sentinel.statsEnd.encoding ∈ row then some .statsEnd
      else none := by
  simp only [← Retirement.retires_iff, fired, triggers, List.find?_cons, List.find?_nil]
  cases row.retires .statsStart <;> cases row.retires .statsResume <;>
    cases row.retires .statsEnd <;> rfl

/-! ## The mode -/

/-- **A region is open if the last sentinel fired since the last reset opened one.** -/
theorem collecting_after_iff (history : List Call) (names : List String) :
    (after history (closed names)).collecting = true ↔ Opens (lastFired history) := by
  induction history using List.reverseRecOn with
  | nil => simp [closed, collecting, Opens]
  | append_singleton history c ih =>
      rw [after_append_singleton]
      cases c with
      | reset => simp [Call.apply, reset, collecting, Opens]
      | update row events =>
          rw [lastFired_append_update, Call.apply, collecting_update_iff, ih]
          cases fired row with
          | none => simp [Opens]
          | some s => simp [Opens]

/-! ## The counts -/

/-- A call that clears the counts leaves its own event, if it leaves a region open; any other adds
its event if it does. -/
theorem counted_append (history : List Call) (c : Call) (i : Nat) :
    counted (history ++ [c]) i = (if c.clears = true then 0 else counted history i)
      + if Opens (lastFired (history ++ [c])) then c.event i else 0 := by
  have hnew : (history ++ [c])[history.length + 1 - 1]? = some c := by simp
  have htake : (history ++ [c]).take (history.length + 1) = history ++ [c] :=
    List.take_of_length_le (by simp)
  have hold : ∀ j, 1 ≤ j → j ≤ history.length → (history ++ [c])[j - 1]? = history[j - 1]? :=
    fun j hpos hle => List.getElem?_append_left (by omega)
  by_cases hclears : c.clears = true
  · rw [counted, List.length_append, List.length_singleton,
      tally_succ_of_clears (by rw [hnew]; exact hclears), hnew, htake, if_pos hclears, Nat.zero_add]
    rfl
  · rw [counted, List.length_append, List.length_singleton,
      tally_succ (by rw [hnew]; exact hclears), hnew, htake, if_neg hclears]
    refine congrArg₂ _ (tally_congr ?_ ?_ ?_) rfl
    · intro j _ hle
      rw [List.take_append_of_le_length hle]
    · intro j hpos hle
      rw [hold j hpos hle]
    · intro j hpos hle
      rw [hold j hpos hle]

/-- One call does the same to a count. -/
theorem getD_counts_apply {r : Region} {i : Nat} (hi : i < r.counters.size) (c : Call) :
    (c.apply r).counters.counts.getD i 0
      = (if c.clears = true then 0 else r.counters.counts.getD i 0)
        + if (c.apply r).collecting = true then c.event i else 0 := by
  cases c with
  | reset => exact Counters.getD_counts_zeroed _ i
  | update row events =>
      have hclears : Call.clears (.update row events) = true ↔ fired row = some .statsStart := by
        simp [Call.clears]
      rw [Call.apply, counters_update, if_congr hclears rfl rfl]
      by_cases hopen : (r.update row events).collecting = true
      · rw [if_pos hopen, if_pos hopen]
        split
        · rw [Counters.getD_counts_accumulate_of_lt (by rwa [Counters.size_clear]), Counters.clear,
            Counters.getD_counts_zeroed]
          rfl
        · exact Counters.getD_counts_accumulate_of_lt hi events
      · have hstart : fired row ≠ some .statsStart := fun h =>
          hopen (collecting_update_iff.2 (Or.inl (Or.inl h)))
        rw [if_neg hopen, if_neg hopen, if_neg hstart, Nat.add_zero]

/-- **A count is the sum of its event over the calls that count.**  By induction on the history from
its end, where `counted_append` and `getD_counts_apply` take the same step. -/
theorem countAfter_eq (history : List Call) (names : List String) {i : Nat}
    (hi : i < names.length) : countAfter names history i = counted history i := by
  induction history using List.reverseRecOn with
  | nil => exact Counters.getD_counts_zeroed _ i
  | append_singleton history c ih =>
      have hopen := collecting_after_iff (history ++ [c]) names
      rw [after_append_singleton] at hopen
      rw [countAfter, after_append_singleton, getD_counts_apply (by rwa [size_after]),
        ← countAfter, ih, counted_append, if_congr hopen rfl rfl]

theorem counts_after (history : List Call) (names : List String) :
    (after history (closed names)).counters.counts
      = (List.range names.length).map (counted history) := by
  have hsize : (after history (closed names)).counters.counts.length = names.length := by
    rw [Counters.length_counts, size_after]
  refine List.ext_getElem (by rw [hsize, List.length_map, List.length_range]) fun i hi hi' => ?_
  rw [List.getElem_map, List.getElem_range, ← countAfter_eq history names (hsize ▸ hi)]
  exact List.getElem_eq_getD 0

/-- **A collector can be read off its history.**  A cycle answers with the strongest of the region
sentinels on its valid ports, whatever else is on them, in whatever order and however often.  After
any history of calls to a new collector a region is open exactly if the last sentinel answered since
the last reset opens one, and each count is the sum of its event over the cycles that left a region
open, from the last start or reset on.  So a cycle that ends a region leaves the counts alone, one
that starts a region leaves its own events, one that resumes a region adds its own, and a count
falls only at a start or a reset. -/
theorem counts_sum_open_cycles (names : List String) (history : List Call) :
    (∀ row : Retirement, fired row
      = if Retirement.Port.retired Sentinel.statsStart.encoding ∈ row then some .statsStart
        else if Retirement.Port.retired Sentinel.statsResume.encoding ∈ row then some .statsResume
        else if Retirement.Port.retired Sentinel.statsEnd.encoding ∈ row then some .statsEnd
        else none)
      ∧ (∀ row row' : Retirement,
          (∀ s ∈ triggers, Retirement.Port.retired s.encoding ∈ row
            ↔ Retirement.Port.retired s.encoding ∈ row') → fired row = fired row')
      ∧ ((after history (closed names)).collecting = true ↔ Opens (lastFired history))
      ∧ (after history (closed names)).counters.names = names
      ∧ (after history (closed names)).counters.counts
        = (List.range names.length).map (counted history)
      ∧ ∀ (row : Retirement) (events : List UInt32) (i : Nat), i < names.length →
          (fired row = some .statsEnd →
            countAfter names (history ++ [.update row events]) i = countAfter names history i)
          ∧ (fired row = some .statsStart →
            countAfter names (history ++ [.update row events]) i = (events.getD i 0).toNat)
          ∧ (fired row = some .statsResume →
            countAfter names (history ++ [.update row events]) i
              = countAfter names history i + (events.getD i 0).toNat)
          ∧ (fired row ≠ some .statsStart →
            countAfter names history i ≤ countAfter names (history ++ [.update row events]) i) := by
  refine ⟨fired_eq, ?_, collecting_after_iff history names, ?_, counts_after history names, ?_⟩
  · intro row row' hsame
    rw [fired_eq, fired_eq]
    simp only [hsame .statsStart (by decide), hsame .statsResume (by decide),
      hsame .statsEnd (by decide)]
  · rw [names_after, closed, Counters.names_zeroed]
  · intro row events i hi
    rw [countAfter_eq _ _ hi, countAfter_eq _ _ hi, counted_append, lastFired_append_update]
    refine ⟨fun hend => ?_, fun hstart => ?_, fun hresume => ?_, fun hother => ?_⟩
    · simp [hend, Call.clears, Opens]
    · simp [hstart, Call.clears, Opens, Call.event]
    · simp [hresume, Call.clears, Opens, Call.event]
    · rw [if_neg (by simpa [Call.clears] using hother)]
      exact Nat.le_add_right _ _

/-- A cycle in a resumed region is forgotten at the start after it; then three cycles count, one of
them with an event too few and one with an event too many, and the cycle that ends the region does
not. -/
theorem three_cycles_counted :
    let history : List Call :=
      [.update [.retired 0x00e00013] [7, 7],
        .update [.retired 0x00e00013, .retired 0x00c00013] [1, 2],
        .update [] [10], .update [.retired 0x00d00013, .retired 0x00e00013] [100, 200, 300]]
    (after history (closed ["load", "store"])).counters.counts = [111, 202]
      ∧ countAfter ["load", "store"] (history ++ [.update [.retired 0x00d00013] [5, 5]]) 1
        = countAfter ["load", "store"] history 1 := by
  intro history
  obtain ⟨-, -, -, -, hcounts, hcycle⟩ := counts_sum_open_cycles ["load", "store"] history
  obtain ⟨hend, -⟩ := hcycle [.retired 0x00d00013] [5, 5] 1 (by decide)
  exact ⟨hcounts.trans (by decide), hend (by decide)⟩

end Testbench.Region
