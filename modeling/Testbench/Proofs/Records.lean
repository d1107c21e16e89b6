import Testbench.Inputs

/-!
# What records have that were read

A record is read by starting from the one with every default and changing it field by field, in
whatever order the document has the fields and whichever of them it leaves out.  So what the default
record has, and every field keeps, every record has that is read (`Schema.Keeps.readText`).

In this way the numbers of a configuration have sixty-four bits, those that are written down and
those that are not (`Config.inRange_of_ofText`).
-/

namespace Testbench

/-! ## What succeeds -/

section
variable {ε ε' α β : Type}

theorem exists_of_bind_eq_ok {x : Except ε α} {f : α → Except ε β} {b : β}
    (h : (x >>= f) = .ok b) : ∃ a, x = .ok a ∧ f a = .ok b := by
  cases x with
  | error e => cases h
  | ok a => exact ⟨a, rfl, h⟩

theorem bind_eq_ok {x : Except ε α} {f : α → Except ε β} {a : α} {b : β} (hx : x = .ok a)
    (hf : f a = .ok b) : (x >>= f) = .ok b := by
  rw [hx]
  exact hf

theorem exists_of_map_eq_ok {x : Except ε α} {f : α → β} {b : β} (h : x.map f = .ok b) :
    ∃ a, x = .ok a ∧ f a = b := by
  cases x with
  | error e => cases h
  | ok a => exact ⟨a, rfl, Except.ok.inj h⟩

theorem of_mapError_eq_ok {x : Except ε α} {f : ε → ε'} {a : α} (h : x.mapError f = .ok a) :
    x = .ok a := by
  cases x with
  | error e => cases h
  | ok b => exact congrArg Except.ok (Except.ok.inj h)

theorem mapError_eq_ok_iff {x : Except ε α} {f : ε → ε'} {a : α} :
    x.mapError f = .ok a ↔ x = .ok a := by
  constructor
  · exact of_mapError_eq_ok
  · rintro rfl
    rfl

/-- An error comes from the first step or from what follows it. -/
theorem bind_eq_error_iff {x : Except ε α} {f : α → Except ε β} {e : ε} :
    (x >>= f) = .error e ↔ x = .error e ∨ ∃ a, x = .ok a ∧ f a = .error e := by
  cases x with
  | error e' =>
      show Except.error e' = .error e ↔ _
      simp
  | ok a =>
      show f a = .error e ↔ _
      simp

theorem mapError_eq_error_iff {x : Except ε α} {f : ε → ε'} {e' : ε'} :
    x.mapError f = .error e' ↔ ∃ e, x = .error e ∧ f e = e' := by
  cases x with
  | error e =>
      constructor
      · intro h
        exact ⟨e, rfl, Except.error.inj h⟩
      · rintro ⟨d, hd, rfl⟩
        cases hd
        rfl
  | ok a =>
      constructor
      · intro h
        cases h
      · rintro ⟨_, h, -⟩
        cases h

theorem of_toOption_eq_some {x : Except ε α} {a : α} (h : x.toOption = some a) : x = .ok a := by
  cases x with
  | error e => cases h
  | ok b => exact congrArg Except.ok (Option.some.inj h)

end

namespace Json

variable {α σ : Type}

/-! ## Single values -/

theorem refuse_ne_ok (expected : String) (node : Node) (value : α) :
    refuse expected node ≠ .ok value := by
  unfold refuse
  split <;> simp

/-- A natural number that is read lies in its range. -/
theorem natural_lt {range : NatRange} {node : Node} {value : Nat}
    (h : natural range node = .ok value) : value < range.bound := by
  unfold natural at h
  split at h
  · split at h
    · cases h
      omega
    · cases h
  · exact absurd h (refuse_ne_ok _ _ _)

/-- A value that is there has been read. -/
theorem read_of_optional {read : Node → Except Refusal α} {node : Node} {value : α}
    (h : optional read node = .ok (some value)) : read node = .ok value := by
  unfold optional at h
  split at h
  · cases h
  · obtain ⟨v, hread, hv⟩ := exists_of_map_eq_ok h
    rw [hread, Option.some.inj hv]

theorem Field.withDefault_eq_ok {name : String} {read : Node → Except Refusal α} {set : α → σ → σ}
    {node : Node} {change : σ → σ} (h : (Field.withDefault name read set).read node = .ok change) :
    ∃ value, read node = .ok value ∧ change = set value := by
  obtain ⟨value, hread, hset⟩ := exists_of_map_eq_ok h
  exact ⟨value, hread, hset.symm⟩

/-! ## Records -/

namespace Schema

variable {s : Schema σ} {P : σ → Prop}

/-- The default record has a property, and every field keeps it. -/
structure Keeps (s : Schema σ) (P : σ → Prop) : Prop where
  blank : P s.blank
  field : ∀ f ∈ s.fields, ∀ node change, f.read node = .ok change → ∀ r, P r → P (change r)

theorem Keeps.readMembers (h : s.Keeps P) (stop : Option Stop)
    (members : List (Except Stop String × Node)) {seen : List String} {record r : σ}
    (hrecord : P record) (hr : s.readMembers stop seen record members = .ok r) : P r := by
  induction members generalizing seen record with
  | nil =>
      obtain ⟨-, -, hr⟩ := exists_of_bind_eq_ok hr
      split at hr
      · cases hr
      · cases hr
        exact hrecord
  | cons member more ih =>
      obtain ⟨key, value⟩ := member
      cases key with
      | error e => cases hr
      | ok name =>
          simp only [Schema.readMembers] at hr
          split at hr
          · split at hr
            · exact ih hrecord hr
            · cases hr
          · rename_i field hfind
            split at hr
            · cases hr
            · obtain ⟨change, hread, hr⟩ := exists_of_bind_eq_ok hr
              have hmem := List.mem_of_find?_eq_some hfind
              exact ih (h.field field hmem value change hread record hrecord) hr

theorem Keeps.readItems (h : s.Keeps P) (stop : Option Stop) (fields : List (Field σ))
    (hfields : ∀ f ∈ fields, f ∈ s.fields) (items : List Node) {record r : σ} (hrecord : P record)
    (hr : s.readItems stop record fields items = .ok r) : P r := by
  induction fields generalizing items record with
  | nil =>
      cases items with
      | nil =>
          obtain ⟨-, -, hr⟩ := exists_of_bind_eq_ok hr
          cases hr
          exact hrecord
      | cons item items => cases hr
  | cons field fields ih =>
      have hrest : ∀ f ∈ fields, f ∈ s.fields := fun f hf => hfields f (List.mem_cons_of_mem _ hf)
      cases items with
      | nil =>
          obtain ⟨-, -, hr⟩ := exists_of_bind_eq_ok hr
          split at hr
          · cases hr
          · exact ih hrest [] hrecord hr
      | cons item items =>
          obtain ⟨change, hread, hr⟩ := exists_of_bind_eq_ok hr
          have hmem := hfields field List.mem_cons_self
          exact ih hrest items (h.field field hmem item change hread record hrecord) hr

/-- **What every field keeps, every record has that is read.** -/
theorem Keeps.read (h : s.Keeps P) {node : Node} {r : σ} (hr : s.read node = .ok r) : P r := by
  unfold Schema.read at hr
  split at hr
  · exact h.readMembers _ _ h.blank hr
  · exact h.readItems _ _ (fun _ hf => hf) _ h.blank hr
  · exact absurd hr (refuse_ne_ok _ _ _)

theorem Keeps.readText (h : s.Keeps P) {text : List Char} {r : σ} (hr : s.readText text = .ok r) :
    P r := by
  obtain ⟨record, hread, hr⟩ := exists_of_bind_eq_ok hr
  obtain ⟨-, -, hr⟩ := exists_of_bind_eq_ok hr
  cases hr
  exact h.read hread

end Schema

end Json

/-! ## The numbers of a configuration -/

namespace Config

open Json

/-- Cycle counts have sixty-four bits. -/
structure General.InRange (c : General) : Prop where
  resetCycles : c.resetCycles < Overflow.bound
  stallLimit : c.stallLimit < Overflow.bound
  maxCycles : ∀ cap, c.maxCycles = some cap → cap < Overflow.bound

/-- Sizes and offsets have sixty-four bits. -/
structure Memory.InRange (c : Memory) : Prop where
  sizeBytes : c.sizeBytes < Overflow.bound
  loadOffset : c.loadOffset < Overflow.bound

/-- Addresses, sizes and latencies have sixty-four bits. -/
structure Ddr.InRange (c : Config.Ddr) : Prop where
  base : c.base < Overflow.bound
  fileOffset : c.fileOffset < Overflow.bound
  numBytes : ∀ n, c.numBytes = some n → n < Overflow.bound
  sizeBytes : c.sizeBytes < Overflow.bound
  latency : c.latency < Overflow.bound
  cas : c.cas < Overflow.bound
  ras : c.ras < Overflow.bound
  pre : c.pre < Overflow.bound
  rowBytes : c.rowBytes < Overflow.bound

/-- All numbers have sixty-four bits. -/
structure InRange (c : Config) : Prop where
  general : c.general.InRange
  memory : c.memory.InRange
  ddr : c.ddr.InRange

theorem General.schema_keeps : General.schema.Keeps General.InRange where
  blank := ⟨by decide, by decide, fun _ h => (by cases h)⟩
  field := by
    intro f hf node change hread c hc
    simp only [General.schema, List.mem_cons, List.not_mem_nil, or_false] at hf
    rcases hf with rfl | rfl | rfl <;> obtain ⟨v, hv, rfl⟩ := Field.withDefault_eq_ok hread
    · exact { hc with resetCycles := natural_lt hv }
    · exact { hc with stallLimit := natural_lt hv }
    · refine { hc with maxCycles := ?_ }
      rintro cap rfl
      exact natural_lt (read_of_optional hv)

theorem Memory.schema_keeps : Memory.schema.Keeps Memory.InRange where
  blank := ⟨by decide, by decide⟩
  field := by
    intro f hf node change hread c hc
    simp only [Memory.schema, List.mem_cons, List.not_mem_nil, or_false] at hf
    rcases hf with rfl | rfl <;> obtain ⟨v, hv, rfl⟩ := Field.withDefault_eq_ok hread
    · exact { hc with sizeBytes := natural_lt hv }
    · exact { hc with loadOffset := natural_lt hv }

theorem Ddr.schema_keeps : Ddr.schema.Keeps Ddr.InRange where
  blank := ⟨by decide, by decide, fun _ h => (by cases h), by decide, by decide, by decide,
    by decide, by decide, by decide⟩
  field := by
    intro f hf node change hread c hc
    simp only [Ddr.schema, List.mem_cons, List.not_mem_nil, or_false] at hf
    rcases hf with rfl | rfl | rfl | rfl | rfl | rfl | rfl | rfl | rfl | rfl | rfl | rfl <;>
      obtain ⟨v, hv, rfl⟩ := Field.withDefault_eq_ok hread
    · exact { hc with }
    · exact { hc with }
    · exact { hc with base := natural_lt hv }
    · exact { hc with fileOffset := natural_lt hv }
    · refine { hc with numBytes := ?_ }
      rintro n rfl
      exact natural_lt (read_of_optional hv)
    · exact { hc with sizeBytes := natural_lt hv }
    · exact { hc with }
    · exact { hc with latency := natural_lt hv }
    · exact { hc with cas := natural_lt hv }
    · exact { hc with ras := natural_lt hv }
    · exact { hc with pre := natural_lt hv }
    · exact { hc with rowBytes := natural_lt hv }

theorem schema_keeps : schema.Keeps InRange where
  blank := ⟨General.schema_keeps.blank, Memory.schema_keeps.blank, Ddr.schema_keeps.blank⟩
  field := by
    intro f hf node change hread c hc
    simp only [schema, List.mem_cons, List.not_mem_nil, or_false] at hf
    rcases hf with rfl | rfl | rfl | rfl | rfl <;>
      obtain ⟨v, hv, rfl⟩ := Field.withDefault_eq_ok hread
    · exact { hc with general := General.schema_keeps.read hv }
    · exact { hc with memory := Memory.schema_keeps.read hv }
    · exact { hc with ddr := Ddr.schema_keeps.read hv }
    · exact { hc with }
    · exact { hc with }

/-- **The numbers of a configuration that is accepted have sixty-four bits**, whatever its document
says and leaves out. -/
theorem inRange_of_ofText {text : List Char} {config : Config}
    (h : Config.ofText text = .ok config) : config.InRange := by
  obtain ⟨read, hread, h⟩ := exists_of_bind_eq_ok h
  obtain ⟨-, -, h⟩ := exists_of_bind_eq_ok h
  cases h
  exact schema_keeps.readText (of_mapError_eq_ok hread)

end Config

end Testbench
