import Mathlib.Data.List.Induction
import Testbench.Ending

/-!
# What the watch for the end remembers

The watch for the end of a program is asked to judge cycles and, now and then, to forget.  Between
the calls it keeps one bit.  Over any history of calls that bit is a plain fact about the cycles
judged since the last reset: one of them retired the success sentinel and no error sentinel beside
it (`programComplete_after_iff`).

An error in the same cycle is not only the verdict on that cycle, it also hides the success from the
memory, for good (`success_beside_error_is_lost`).  In a history without such a cycle the bit says
that the success sentinel has retired (`remembers_success_without_error`).
-/

namespace Testbench.EndDetector

/-! ## Histories -/

/-- What a watch for the end is asked to do. -/
inductive Call where
  /-- To judge a cycle: its retirements, and whether the store queue is empty after it. -/
  | judge (row : Retirement) (storeQueueEmpty : Bool)
  /-- To forget. -/
  | reset
  deriving DecidableEq, Repr

namespace Call

/-- The detector after a call. -/
def apply : Call → EndDetector → EndDetector
  | .judge row _, d => d.observe row
  | .reset, d => d.reset

/-- The retirements that a call is about. -/
def row? : Call → Option Retirement
  | .judge row _ => some row
  | .reset => none

end Call

/-- The detector after a history of calls. -/
def after (history : List Call) (d : EndDetector) : EndDetector :=
  history.foldl (fun d c => c.apply d) d

/-- The retirements of the cycles judged since the last reset, the latest first. -/
def sinceReset (history : List Call) : List Retirement :=
  (history.reverse.takeWhile (·.row?.isSome)).filterMap (·.row?)

@[simp] theorem after_nil (d : EndDetector) : after [] d = d := rfl

@[simp] theorem after_append_singleton (history : List Call) (c : Call) (d : EndDetector) :
    after (history ++ [c]) d = c.apply (after history d) := by
  rw [after, List.foldl_append]
  rfl

@[simp] theorem sinceReset_nil : sinceReset [] = [] := rfl

@[simp] theorem sinceReset_append_judge (history : List Call) (row : Retirement)
    (storeQueueEmpty : Bool) :
    sinceReset (history ++ [.judge row storeQueueEmpty]) = row :: sinceReset history := by
  simp [sinceReset, Call.row?]

@[simp] theorem sinceReset_append_reset (history : List Call) :
    sinceReset (history ++ [.reset]) = [] := by
  simp [sinceReset, Call.row?]

/-! ## What is remembered -/

/-- A cycle adds a success to the memory exactly if it retires one and no error. -/
theorem programComplete_observe (d : EndDetector) (row : Retirement) :
    (d.observe row).programComplete = true ↔
      (row.retires .successTerminate = true ∧ row.retires .errorTerminate = false)
        ∨ d.programComplete = true := by
  unfold observe
  by_cases herror : row.retires .errorTerminate = true
  · rw [if_pos herror]
    simp [herror]
  · rw [if_neg herror]
    have hclear : row.retires .errorTerminate = false := by simpa using herror
    simp [hclear, or_comm]

/-- **The memory is a fact about the cycles since the last reset.**  By induction on the history
from its end, where a reset empties both sides and a cycle adds to both. -/
theorem programComplete_after_iff (history : List Call) :
    (after history {}).programComplete = true ↔
      ∃ row ∈ sinceReset history,
        row.retires .successTerminate = true ∧ row.retires .errorTerminate = false := by
  induction history using List.reverseRecOn with
  | nil => simp
  | append_singleton history c ih =>
      cases c with
      | reset =>
          rw [after_append_singleton, sinceReset_append_reset]
          simp [Call.apply, reset]
      | judge row storeQueueEmpty =>
          rw [after_append_singleton, sinceReset_append_judge]
          simp only [List.mem_cons, exists_eq_or_imp]
          rw [← ih]
          exact programComplete_observe _ row

/-- Without an error in the cycle, the verdict is a success exactly if one is remembered by then and
the store queue is empty. -/
theorem verdict_eq_success_iff {d : EndDetector} {row : Retirement} {storeQueueEmpty : Bool}
    (h : row.retires .errorTerminate = false) :
    d.verdict row storeQueueEmpty = some .success ↔
      (d.observe row).programComplete = true ∧ storeQueueEmpty = true := by
  unfold verdict
  rw [if_neg (by rw [h]; exact Bool.false_ne_true)]
  by_cases hdone : ((d.observe row).programComplete && storeQueueEmpty) = true
  · rw [if_pos hdone]
    simpa using hdone
  · rw [if_neg hdone]
    simpa using hdone

/-- **A success is remembered from any cycle without an error.**  After every history of calls the
detector says that the program is complete exactly if, in some cycle since the last reset, a valid
port carried the success sentinel and none the error sentinel.  So if no cycle since then carried
both, it says so exactly if the success sentinel has retired.  The verdict on a further cycle is an
error exactly if a valid port carries the error sentinel; otherwise it is a success exactly if the
program is complete with this cycle and the store queue is empty. -/
theorem remembers_success_without_error (history : List Call) :
    ((after history {}).programComplete = true ↔
        ∃ row ∈ sinceReset history, Retirement.Port.retired Sentinel.successTerminate.encoding ∈ row
          ∧ Retirement.Port.retired Sentinel.errorTerminate.encoding ∉ row)
      ∧ ((∀ row ∈ sinceReset history,
            Retirement.Port.retired Sentinel.successTerminate.encoding ∈ row →
              Retirement.Port.retired Sentinel.errorTerminate.encoding ∉ row) →
          ((after history {}).programComplete = true ↔
            ∃ row ∈ sinceReset history,
              Retirement.Port.retired Sentinel.successTerminate.encoding ∈ row))
      ∧ ∀ (row : Retirement) (storeQueueEmpty : Bool),
          ((after history {}).verdict row storeQueueEmpty = some .error ↔
              Retirement.Port.retired Sentinel.errorTerminate.encoding ∈ row)
            ∧ (Retirement.Port.retired Sentinel.errorTerminate.encoding ∉ row →
                ((after history {}).verdict row storeQueueEmpty = some .success ↔
                  (after (history ++ [.judge row storeQueueEmpty]) {}).programComplete = true
                    ∧ storeQueueEmpty = true)) := by
  have herror : ∀ row : Retirement, row.retires .errorTerminate = false ↔
      Retirement.Port.retired Sentinel.errorTerminate.encoding ∉ row := by
    intro row
    rw [← Retirement.retires_iff, Bool.not_eq_true]
  have hcomplete : (after history {}).programComplete = true ↔
      ∃ row ∈ sinceReset history, Retirement.Port.retired Sentinel.successTerminate.encoding ∈ row
        ∧ Retirement.Port.retired Sentinel.errorTerminate.encoding ∉ row := by
    rw [programComplete_after_iff]
    simp only [herror, Retirement.retires_iff]
  refine ⟨hcomplete, ?_, ?_⟩
  · intro hapart
    rw [hcomplete]
    constructor
    · rintro ⟨row, hmem, hsuccess, -⟩
      exact ⟨row, hmem, hsuccess⟩
    · rintro ⟨row, hmem, hsuccess⟩
      exact ⟨row, hmem, hsuccess, hapart row hmem hsuccess⟩
  · intro row storeQueueEmpty
    refine ⟨verdict_eq_error_iff.trans Retirement.retires_iff, ?_⟩
    intro hclear
    rw [after_append_singleton]
    exact verdict_eq_success_iff ((herror row).2 hclear)

/-- A success that waits for the store queue, forgotten by a reset and seen again beside another
instruction: the program is complete, and the next cycle with an empty queue ends it. -/
theorem remembered_until_queue_empties :
    (after [.judge [.retired 0x00a00013] false, .reset,
        .judge [.retired 0x00000013, .retired 0x00a00013] false] {}).verdict [] true
      = some .success := by
  obtain ⟨hcomplete, -, hverdict⟩ := remembers_success_without_error
    [.judge [.retired 0x00a00013] false, .reset,
      .judge [.retired 0x00000013, .retired 0x00a00013] false]
  obtain ⟨-, hsuccess⟩ := hverdict [] true
  refine (hsuccess (by decide)).2 ⟨?_, rfl⟩
  decide

/-- The memory does not tell whether the success sentinel has retired: beside an error it is lost,
and the next cycle with an empty store queue does not end the program. -/
theorem success_beside_error_is_lost :
    ¬ ∀ history : List Call, ((after history {}).programComplete = true ↔
        ∃ row ∈ sinceReset history,
          Retirement.Port.retired Sentinel.successTerminate.encoding ∈ row) := by
  intro h
  have hlost := (h [.judge [.retired 0x00f00013, .retired 0x00a00013] true]).2 (by decide)
  revert hlost
  decide

end Testbench.EndDetector
