import Testbench.Retirement
import Testbench.Text.Number

/-!
# Sentinels

A program talks to the bench by retiring instruction words that no compiler emits: an addition of an
immediate to the register that is always zero.  Five of these words are reserved.  The encoding is
injective and `decode` is its exact inverse (`decode_eq_some_iff`).
-/

namespace Testbench

/-- What a reserved instruction word asks for. -/
inductive Sentinel where
  /-- The program failed; stop at once. -/
  | errorTerminate
  /-- The program finished; stop once the store queue is empty. -/
  | successTerminate
  /-- Clear the counters and begin a benchmark region. -/
  | statsStart
  /-- Go on counting into the present counters. -/
  | statsResume
  /-- Stop counting. -/
  | statsEnd
  deriving DecidableEq, Repr, Inhabited

namespace Sentinel

/-- The reserved instruction word. -/
def encoding : Sentinel → UInt32
  | .successTerminate => 0x00A00013
  | .statsStart => 0x00C00013
  | .statsEnd => 0x00D00013
  | .statsResume => 0x00E00013
  | .errorTerminate => 0x00F00013

/-- Every sentinel, by increasing encoding. -/
def all : List Sentinel :=
  [.successTerminate, .statsStart, .statsEnd, .statsResume, .errorTerminate]

/-- The sentinel that a word encodes, if any. -/
def decode (word : UInt32) : Option Sentinel := all.find? fun s => s.encoding == word

/-- The name printed for a sentinel. -/
def label : Sentinel → String
  | .errorTerminate => "ERROR_TERMINATE"
  | .successTerminate => "SUCCESS_TERMINATE"
  | .statsStart => "STATS_START"
  | .statsResume => "STATS_RESUME"
  | .statsEnd => "STATS_END"

/-- The name with the encoding in eight hexadecimal digits. -/
def describe (s : Sentinel) : String := s.label ++ " (" ++ Text.hexPadded 8 s.encoding.toNat ++ ")"

theorem mem_all (s : Sentinel) : s ∈ all := by cases s <;> decide

theorem decode_encoding (s : Sentinel) : decode s.encoding = some s := by cases s <;> decide

theorem encoding_injective {s t : Sentinel} (h : s.encoding = t.encoding) : s = t := by
  have hs := decode_encoding s
  rw [h, decode_encoding t] at hs
  exact (Option.some.inj hs).symm

theorem decode_eq_some_iff {word : UInt32} {s : Sentinel} :
    decode word = some s ↔ s.encoding = word := by
  constructor
  · intro h
    simpa using List.find?_some h
  · rintro rfl
    exact decode_encoding s

end Sentinel

/-- Did the sentinel retire on some port? -/
def Retirement.retires (row : Retirement) (s : Sentinel) : Bool := row.retiresWord s.encoding

theorem Retirement.retires_iff {row : Retirement} {s : Sentinel} :
    row.retires s = true ↔ Retirement.Port.retired s.encoding ∈ row :=
  Retirement.retiresWord_iff

end Testbench
