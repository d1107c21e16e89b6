import Testbench.Counters
import Testbench.Journal
import Testbench.Sentinel

/-!
# Benchmark regions

Events count only inside a benchmark region.  Three sentinels open and close regions: a start clears
the counters and opens one, a resume opens one over the present counters, an end closes it.  When
several of them retire in one cycle the start wins over the resume and the resume over the end.  The
transition comes before the cycle's events are counted, so a cycle that opens a region counts its
own events and a cycle that closes one does not.
-/

namespace Testbench

/-- Inside or outside a benchmark region. -/
inductive Collection where
  /-- Outside: events are ignored. -/
  | idle
  /-- Inside: events are counted. -/
  | collecting
  deriving DecidableEq, Repr, Inhabited

/-- The name printed for a collection state. -/
def Collection.label : Collection → String
  | .idle => "Idle"
  | .collecting => "Collecting"

/-- Counters that run only inside benchmark regions. -/
structure Region where
  /-- The counters of the present region. -/
  counters : Counters
  /-- Whether a region is open. -/
  mode : Collection := .idle
  deriving DecidableEq, Repr, Inhabited

namespace Region

/-- No region open, every counter at zero. -/
def closed (names : List String) : Region := ⟨Counters.zeroed names, .idle⟩

/-- Is a region open? -/
def collecting (r : Region) : Bool := r.mode == .collecting

/-- The sentinels that open or close regions, the stronger first. -/
def triggers : List Sentinel := [.statsStart, .statsResume, .statsEnd]

/-- The strongest region sentinel that retired. -/
def fired (row : Retirement) : Option Sentinel := triggers.find? row.retires

/-- What a region sentinel does; the others do nothing. -/
def transition (r : Region) : Sentinel → Region
  | .statsStart => ⟨r.counters.clear, .collecting⟩
  | .statsResume => ⟨r.counters, .collecting⟩
  | .statsEnd => ⟨r.counters, .idle⟩
  | .errorTerminate | .successTerminate => r

/-- Counts a cycle's events if a region is open. -/
def count (r : Region) (events : List UInt32) : Region :=
  if r.collecting then { r with counters := r.counters.accumulate events } else r

/-- One cycle: the transition that its retirements ask for, then its events. -/
def update (r : Region) (row : Retirement) (events : List UInt32) : Region :=
  match fired row with
  | some s => (r.transition s).count events
  | none => r.count events

/-- Leaves any region and clears the counters. -/
def reset (r : Region) : Region := ⟨r.counters.clear, .idle⟩

/-- The events that a cycle raises. -/
def updateEvents (r : Region) (row : Retirement) : List Event :=
  match fired row with
  | some s =>
      [{ severity := .debug, message := "stats region transition",
         fields := [("sentinel", s.describe), ("from", r.mode.label),
           ("to", (r.transition s).mode.label)] }]
  | none => []

/-! ## What one cycle does -/

theorem fired_eq_none_iff {row : Retirement} :
    fired row = none ↔ ∀ s ∈ triggers, row.retires s = false := by
  simp [fired]

theorem mem_triggers_of_fired {row : Retirement} {s : Sentinel} (h : fired row = some s) :
    s ∈ triggers := List.mem_of_find?_eq_some h

theorem retires_of_fired {row : Retirement} {s : Sentinel} (h : fired row = some s) :
    row.retires s = true := List.find?_some h

@[simp] theorem mode_count (r : Region) (events : List UInt32) :
    (r.count events).mode = r.mode := by
  unfold count
  split <;> rfl

@[simp] theorem names_count (r : Region) (events : List UInt32) :
    (r.count events).counters.names = r.counters.names := by
  unfold count
  split <;> simp

@[simp] theorem names_transition (r : Region) (s : Sentinel) :
    (r.transition s).counters.names = r.counters.names := by
  cases s <;> simp [transition]

@[simp] theorem names_update (r : Region) (row : Retirement) (events : List UInt32) :
    (r.update row events).counters.names = r.counters.names := by
  unfold update
  split <;> simp

end Region

end Testbench
