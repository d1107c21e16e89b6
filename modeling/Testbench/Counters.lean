import Testbench.Text.Number

/-!
# Event counters

A table of named counters in the order of the device's event signals.  Accumulating an event vector
adds entry by entry; where one side is longer than the other the excess is ignored, so the names and
their number never change (`names_accumulate`, `names_clear`).
-/

namespace Testbench

/-- Named counters in table order. -/
structure Counters where
  /-- The names with their counts. -/
  entries : List (String × Nat)
  deriving DecidableEq, Repr, Inhabited

namespace Counters

/-- A table with every counter at zero. -/
def zeroed (names : List String) : Counters := ⟨names.map (·, 0)⟩

/-- The names in table order. -/
def names (t : Counters) : List String := t.entries.map (·.1)

/-- The counts in table order. -/
def counts (t : Counters) : List Nat := t.entries.map (·.2)

/-- The number of counters. -/
def size (t : Counters) : Nat := t.entries.length

/-- The table with every counter at zero. -/
def clear (t : Counters) : Counters := zeroed t.names

/-- Adds an event vector to the entries it reaches. -/
def addEvents : List (String × Nat) → List UInt32 → List (String × Nat)
  | (name, count) :: entries, event :: events =>
      (name, count + event.toNat) :: addEvents entries events
  | entries, [] => entries
  | [], _ :: _ => []

/-- The table after one cycle's events were added. -/
def accumulate (t : Counters) (events : List UInt32) : Counters := ⟨addEvents t.entries events⟩

/-- The count of the first counter of that name. -/
def get? (t : Counters) (name : String) : Option Nat := t.entries.lookup name

/-! ## The names never change -/

@[simp] theorem names_zeroed (names : List String) : (zeroed names).names = names := by
  simp [zeroed, Counters.names, Function.comp_def]

@[simp] theorem counts_zeroed (names : List String) :
    (zeroed names).counts = List.replicate names.length 0 := by
  simp [zeroed, counts, Function.comp_def, List.map_const']

@[simp] theorem names_clear (t : Counters) : t.clear.names = t.names := names_zeroed _

theorem map_fst_addEvents (entries : List (String × Nat)) (events : List UInt32) :
    (addEvents entries events).map (·.1) = entries.map (·.1) := by
  fun_induction addEvents entries events <;> simp_all

@[simp] theorem names_accumulate (t : Counters) (events : List UInt32) :
    (t.accumulate events).names = t.names := map_fst_addEvents _ _

@[simp] theorem size_accumulate (t : Counters) (events : List UInt32) :
    (t.accumulate events).size = t.size := by
  have h := congrArg List.length (map_fst_addEvents t.entries events)
  simpa [size, accumulate] using h

/-! ## The printed table -/

/-- A horizontal line of the printed tables. -/
def rule (c : Char) : String := Text.repeated 58 c

/-- The width of the name column: the longest name in bytes, and at least 24. -/
def nameWidth (t : Counters) : Nat := (t.names.map String.utf8ByteSize).foldl max 24

/-- One line of the table.  The name is filled up by counting characters. -/
def line (width : Nat) (entry : String × Nat) : String :=
  "  " ++ Text.padRight width ' ' entry.1 ++ " " ++ toString entry.2 ++ "\n"

/-- The table as text, a line per counter between horizontal lines. -/
def table (t : Counters) : String :=
  "\n" ++ rule '=' ++ "\nEVENT COUNTERS\n" ++ rule '-' ++ "\n"
    ++ String.join (t.entries.map (line t.nameWidth)) ++ rule '=' ++ "\n"

end Counters

end Testbench
