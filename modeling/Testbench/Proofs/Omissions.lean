import Mathlib
import Testbench.Proofs.Settings

/-!
# What a configuration leaves out

A configuration document may leave out whole sections and single settings, and what it leaves out
has its default in both cases, though the defaults are written down twice: once for each setting of
a section that is there, and once for each section that is not.  That the two agree
(`blank_eq_default`) is what makes a configuration the only one with the settings that its document
names and the defaults everywhere else (`isAsWritten_iff`).

So it is all the same whether a default is written down or left out (`read_of_omits`): the document
is accepted if it was accepted, and the configuration is the same.
-/

namespace Testbench

open Json

namespace Config

/-! ## The settings of the sections -/

def General.settings : List (Setting General) :=
  [⟨"reset_cycles", Nat, Node.IsNatural .count, (·.resetCycles)⟩,
    ⟨"stall_limit", Nat, Node.IsNatural .count, (·.stallLimit)⟩,
    ⟨"max_cycles", Option Nat, Node.IsOptional (Node.IsNatural .count), (·.maxCycles)⟩]

def Memory.settings : List (Setting Memory) :=
  [⟨"size_bytes", Nat, Node.IsNatural .size, (·.sizeBytes)⟩,
    ⟨"load_offset", Nat, Node.IsNatural .count, (·.loadOffset)⟩]

def Ddr.settings : List (Setting Config.Ddr) :=
  [⟨"enabled", Bool, Node.IsBoolean, (·.enabled)⟩,
    ⟨"init_file", Option String, Node.IsOptional Node.IsText, (·.initFile)⟩,
    ⟨"base", Nat, Node.IsNatural .count, (·.base)⟩,
    ⟨"file_offset", Nat, Node.IsNatural .count, (·.fileOffset)⟩,
    ⟨"num_bytes", Option Nat, Node.IsOptional (Node.IsNatural .size), (·.numBytes)⟩,
    ⟨"size_bytes", Nat, Node.IsNatural .size, (·.sizeBytes)⟩,
    ⟨"controller", Controller, Node.IsChoice Controller.choices, (·.controller)⟩,
    ⟨"latency", Nat, Node.IsNatural .count, (·.latency)⟩,
    ⟨"t_cas", Nat, Node.IsNatural .count, (·.cas)⟩,
    ⟨"t_ras", Nat, Node.IsNatural .count, (·.ras)⟩,
    ⟨"t_pre", Nat, Node.IsNatural .count, (·.pre)⟩,
    ⟨"row_bytes", Nat, Node.IsNatural .count, (·.rowBytes)⟩]

def Uart.settings : List (Setting Config.Uart) :=
  [⟨"log_file", Option String, Node.IsOptional Node.IsText, (·.logFile)⟩,
    ⟨"echo", Bool, Node.IsBoolean, (·.echo)⟩]

theorem General.described : General.schema.DescribedBy General.settings where
  names_nodup := by decide
  gives := by
    simp only [General.schema, General.settings, List.forall₂_cons]
    exact ⟨gives_withDefault _ (reads_natural _) (fun _ _ => rfl) fun _ => rfl,
      gives_withDefault _ (reads_natural _) (fun _ _ => rfl) fun _ => rfl,
      gives_withDefault _ (reads_optional_natural _) (fun _ _ => rfl) fun _ => rfl, .nil⟩
  leaves := by simp [General.schema, General.settings]
  ext := by
    intro a b h
    cases a
    cases b
    simpa [General.settings] using h

theorem Memory.described : Memory.schema.DescribedBy Memory.settings where
  names_nodup := by decide
  gives := by
    simp only [Memory.schema, Memory.settings, List.forall₂_cons]
    exact ⟨gives_withDefault _ (reads_natural _) (fun _ _ => rfl) fun _ => rfl,
      gives_withDefault _ (reads_natural _) (fun _ _ => rfl) fun _ => rfl, .nil⟩
  leaves := by simp [Memory.schema, Memory.settings]
  ext := by
    intro a b h
    cases a
    cases b
    simpa [Memory.settings] using h

theorem Ddr.described : Ddr.schema.DescribedBy Ddr.settings where
  names_nodup := by decide
  gives := by
    simp only [Ddr.schema, Ddr.settings, List.forall₂_cons]
    exact ⟨gives_withDefault _ reads_boolean (fun _ _ => rfl) fun _ => rfl,
      gives_withDefault _ (reads_optional_string _) (fun _ _ => rfl) fun _ => rfl,
      gives_withDefault _ (reads_natural _) (fun _ _ => rfl) fun _ => rfl,
      gives_withDefault _ (reads_natural _) (fun _ _ => rfl) fun _ => rfl,
      gives_withDefault _ (reads_optional_natural _) (fun _ _ => rfl) fun _ => rfl,
      gives_withDefault _ (reads_natural _) (fun _ _ => rfl) fun _ => rfl,
      gives_withDefault _ (reads_choice _) (fun _ _ => rfl) fun _ => rfl,
      gives_withDefault _ (reads_natural _) (fun _ _ => rfl) fun _ => rfl,
      gives_withDefault _ (reads_natural _) (fun _ _ => rfl) fun _ => rfl,
      gives_withDefault _ (reads_natural _) (fun _ _ => rfl) fun _ => rfl,
      gives_withDefault _ (reads_natural _) (fun _ _ => rfl) fun _ => rfl,
      gives_withDefault _ (reads_natural _) (fun _ _ => rfl) fun _ => rfl, .nil⟩
  leaves := by simp [Ddr.schema, Ddr.settings]
  ext := by
    intro a b h
    cases a
    cases b
    simpa [Ddr.settings] using h

theorem Uart.described : Uart.schema.DescribedBy Uart.settings where
  names_nodup := by decide
  gives := by
    simp only [Uart.schema, Uart.settings, List.forall₂_cons]
    exact ⟨gives_withDefault _ (reads_optional_string _) (fun _ _ => rfl) fun _ => rfl,
      gives_withDefault _ reads_boolean (fun _ _ => rfl) fun _ => rfl, .nil⟩
  leaves := by simp [Uart.schema, Uart.settings]
  ext := by
    intro a b h
    cases a
    cases b
    simpa [Uart.settings] using h

/-! ## The sections of a configuration -/

/-- A section of a configuration. -/
structure Section where
  /-- The name of the section. -/
  name : String
  /-- The type of the section. -/
  Record : Type
  /-- How the section is written. -/
  schema : Schema Record
  /-- The settings of the section. -/
  settings : List (Setting Record)
  /-- The section in a configuration. -/
  record : Config → Record
  /-- The settings are those of the schema. -/
  described : schema.DescribedBy settings

/-- The sections. -/
def sections : List Section :=
  [⟨"general", General, General.schema, General.settings, (·.general), General.described⟩,
    ⟨"memory", Memory, Memory.schema, Memory.settings, (·.memory), Memory.described⟩,
    ⟨"ddr", Config.Ddr, Ddr.schema, Ddr.settings, (·.ddr), Ddr.described⟩,
    ⟨"uart", Config.Uart, Uart.schema, Uart.settings, (·.uart), Uart.described⟩]

/-- A section as a setting of the whole configuration. -/
def Section.setting (p : Section) : Setting Config :=
  ⟨p.name, p.Record, fun node value => p.schema.read node = .ok value, p.record⟩

/-- The names of the event counters, the one setting that is in no section. -/
def eventNames : Setting Config :=
  ⟨"events", Option (List String), Node.IsOptional (Node.IsList Node.IsText), (·.events)⟩

/-- The sections and the names of the event counters. -/
def settings : List (Setting Config) := sections.map Section.setting ++ [eventNames]

theorem described : schema.DescribedBy settings where
  names_nodup := by decide
  gives := by
    have hnames : Reads (optional (list (string "a string")))
        (Node.IsOptional (Node.IsList Node.IsText)) :=
      (reads_string _).list.optional (by simp [Node.IsList])
    simp only [schema, settings, sections, Section.setting, List.map_cons, List.map_nil,
      List.cons_append, List.nil_append, List.forall₂_cons]
    exact ⟨gives_withDefault _ (fun _ _ => .rfl) (fun _ _ => rfl) fun _ => rfl,
      gives_withDefault _ (fun _ _ => .rfl) (fun _ _ => rfl) fun _ => rfl,
      gives_withDefault _ (fun _ _ => .rfl) (fun _ _ => rfl) fun _ => rfl,
      gives_withDefault _ (fun _ _ => .rfl) (fun _ _ => rfl) fun _ => rfl,
      gives_withDefault _ hnames (fun _ _ => rfl) fun _ => rfl, .nil⟩
  leaves := by simp [schema, settings, sections, Section.setting, eventNames]
  ext := by
    intro a b h
    cases a
    cases b
    simpa [settings, sections, Section.setting, eventNames] using h

/-- **The two defaults agree.**  What a section gives its settings when it is there and leaves them
out is what the default configuration has for them when the section is not there. -/
theorem blank_eq_default : ∀ p ∈ sections, p.schema.blank = p.record {} := by
  simp [sections, General.schema, Memory.schema, Ddr.schema, Uart.schema]

/-- So an empty section is the default one. -/
theorem read_emptySection {p : Section} (hp : p ∈ sections) :
    p.schema.read (.object [] none false) = .ok (p.record {}) := by
  rw [← blank_eq_default p hp]
  simp only [sections, List.mem_cons, List.not_mem_nil, or_false] at hp
  rcases hp with rfl | rfl | rfl | rfl <;> rfl

theorem setting_mem_settings {p : Section} (hp : p ∈ sections) : p.setting ∈ settings :=
  List.mem_append_left _ (List.mem_map_of_mem hp)

/-! ## As it is written -/

/-- What a document has for a setting of a section: the value under its name in the value under the
name of the section. -/
def Section.entry? (p : Section) (t : Setting p.Record) (root : Node) : Option Node :=
  (Config.schema.entry? p.name root).bind (p.schema.entry? t.name)

/-- A configuration is as a document has it: every setting that the document names has the value
that is named, and every other one has its value in the default configuration. -/
structure IsAsWritten (root : Node) (c : Config) : Prop where
  inSections : ∀ p ∈ sections, ∀ t ∈ p.settings,
    t.Holds (p.entry? t root) (p.record {}) (p.record c)
  eventNames : eventNames.Holds (schema.entry? eventNames.name root) {} c

theorem isAsWritten_of_read {root : Node} {c : Config} (h : schema.read root = .ok c) :
    IsAsWritten root c where
  inSections := by
    intro p hp t ht
    have hsection := described.holds (setting_mem_settings hp) h
    unfold Section.entry?
    unfold Setting.Holds at hsection
    cases hentry : Config.schema.entry? p.name root with
    | none =>
        rw [show Config.schema.entry? p.setting.name root = none from hentry] at hsection
        exact congrArg t.value hsection
    | some node =>
        rw [show Config.schema.entry? p.setting.name root = some node from hentry] at hsection
        rw [Option.bind_some, ← blank_eq_default p hp]
        exact p.described.holds ht hsection
  eventNames := described.holds (List.mem_append_right _ (List.mem_singleton_self _)) h

/-- There is only one such configuration. -/
theorem IsAsWritten.unique {root : Node} {c d : Config} (hc : IsAsWritten root c)
    (hd : IsAsWritten root d) : c = d := by
  apply described.ext
  intro t ht
  rcases List.mem_append.1 ht with hsection | hnames
  · obtain ⟨p, hp, rfl⟩ := List.mem_map.1 hsection
    apply p.described.ext
    intro u hu
    exact p.described.value_eq_of_holds hu (hc.inSections p hp u hu) (hd.inSections p hp u hu)
  · obtain rfl := List.mem_singleton.1 hnames
    exact described.value_eq_of_holds ht hc.eventNames hd.eventNames

/-! ## Defaults left out -/

/-- One document leaves out a default that another one has: an empty section, a section or another
setting outside the sections that says its default, or a setting inside a section that does. -/
inductive Omits : Node → Node → Prop where
  /-- A section that names nothing. -/
  | emptySection {p : Section} {full rest : Node} (hp : p ∈ sections)
      (h : Drops schema.fieldNames p.name (.object [] none false) full rest) : Omits full rest
  /-- A whole section, or the names of the counters. -/
  | setting {t : Setting Config} {value full rest : Node} (ht : t ∈ settings)
      (hvalue : t.Says value (t.value {}))
      (h : Drops schema.fieldNames t.name value full rest) : Omits full rest
  /-- A setting of a section that stays. -/
  | inSection {p : Section} {t : Setting p.Record} {value part part' full rest : Node}
      (hp : p ∈ sections) (ht : t ∈ p.settings) (hvalue : t.Says value (t.value (p.record {})))
      (h : Drops p.schema.fieldNames t.name value part part')
      (hsection : Replaces schema.fieldNames p.name part part' full rest) : Omits full rest

/-- The field of a section reads it by the schema of the section. -/
theorem read_eq_of_section {p : Section} (hp : p ∈ sections) {value value' : Node}
    (h : p.schema.read value = p.schema.read value') :
    ∀ f ∈ schema.fields, f.name = p.name → f.read value = f.read value' := by
  simp only [sections, List.mem_cons, List.not_mem_nil, or_false] at hp
  rcases hp with rfl | rfl | rfl | rfl <;> simp [schema, Field.withDefault, h]

/-- **Whether a default is written down makes no difference** to how the document is read. -/
theorem read_of_omits {full rest : Node} (h : Omits full rest) :
    schema.read full = schema.read rest := by
  cases h with
  | emptySection hp hdrops =>
      exact described.read_of_drops (setting_mem_settings hp) (read_emptySection hp) hdrops
  | setting ht hvalue hdrops => exact described.read_of_drops ht hvalue hdrops
  | @inSection p t value part part' _ _ hp ht hvalue hdrops hsection =>
      rw [← blank_eq_default p hp] at hvalue
      have hread := p.described.read_of_drops ht hvalue hdrops
      exact Schema.read_of_replaces (read_eq_of_section hp hread) hsection

/-- Nor does it make one to write down some defaults and to leave out others. -/
theorem read_of_eqvGen_omits {x y : Node} (h : Relation.EqvGen Omits x y) :
    schema.read x = schema.read y := by
  induction h with
  | rel full rest h => exact read_of_omits h
  | refl node => rfl
  | symm x y _ ih => exact ih.symm
  | trans x y z _ _ hxy hyz => exact hxy.trans hyz

/-! ## Accepted texts -/

theorem read_of_ofText {text : List Char} {c : Config} (h : Config.ofText text = .ok c) :
    schema.read (parse text).root = .ok c := by
  obtain ⟨read, hread, h⟩ := exists_of_bind_eq_ok h
  obtain ⟨-, -, h⟩ := exists_of_bind_eq_ok h
  cases h
  obtain ⟨record, hrecord, h⟩ := exists_of_bind_eq_ok (of_mapError_eq_ok hread)
  obtain ⟨-, -, h⟩ := exists_of_bind_eq_ok h
  cases h
  exact hrecord

/-- Only the reading of the tree counts, and that nothing is behind it. -/
theorem ofText_congr {text other : List Char} (hstop : (parse other).stop = (parse text).stop)
    (hread : schema.read (parse other).root = schema.read (parse text).root) :
    Config.ofText other = Config.ofText text := by
  simp only [Config.ofText, Schema.readText, hstop, hread]

/-- **What is left out has its default, wherever it is left out.**  The configuration that a text is
accepted as is the one configuration in which every setting that the document names has the value
that is named and every other setting its value in the default configuration, be it that its section
is not there or that the section does not name it.  And two texts whose documents differ only in
defaults that the one writes down and the other leaves out, any number of them and each way round,
are both accepted as the same configuration, or are both refused for the same reason. -/
theorem left_out_is_default (text : List Char) :
    (∀ config, Config.ofText text = .ok config →
        ∀ c : Config, IsAsWritten (parse text).root c ↔ c = config)
      ∧ ∀ other : List Char, (parse other).stop = (parse text).stop →
          Relation.EqvGen Omits (parse text).root (parse other).root →
            Config.ofText other = Config.ofText text := by
  constructor
  · intro config hconfig c
    have hwritten := isAsWritten_of_read (read_of_ofText hconfig)
    constructor
    · intro hc
      exact hc.unique hwritten
    · rintro rfl
      exact hwritten
  · intro other hstop homits
    exact ofText_congr hstop (read_of_eqvGen_omits homits).symm

end Config

/-! ## Two documents for one configuration -/

namespace Sample

/-- A document that names two settings. -/
def sparseText : String :=
  "\x7b\"general\": \x7b\"stall_limit\": 10\x7d, \"ddr\": \x7b\"t_cas\": 3\x7d\x7d"

/-- The same with an empty section, and with defaults in the others. -/
def fullText : String :=
  "\x7b\"memory\": \x7b\x7d, \"general\": \x7b\"stall_limit\": 10, \"max_cycles\": null\x7d, "
    ++ "\"ddr\": \x7b\"t_ras\": 14, \"t_cas\": 3\x7d\x7d"

def sparseConfig : Config := { general := { stallLimit := 10 }, ddr := { cas := 3 } }

/-- A complete object. -/
def object (members : List (String × Node)) : Node :=
  .object (members.map fun m => (.ok m.1, m.2)) none false

/-- A number. -/
def number (value : Nat) : Node := .literal (.ok (.integer value))

def sparseTree : Node :=
  object [("general", object [("stall_limit", number 10)]), ("ddr", object [("t_cas", number 3)])]

def fullTree : Node :=
  object [("memory", object []),
    ("general", object [("stall_limit", number 10), ("max_cycles", .literal (.ok .null))]),
    ("ddr", object [("t_ras", number 14), ("t_cas", number 3)])]

/-- First the empty section is left out, then one setting of each of the others. -/
theorem eqvGen_omits : Relation.EqvGen Config.Omits fullTree sparseTree := by
  have hmemory : Config.Omits fullTree _ :=
    .emptySection (p := Config.sections[1]) (List.getElem_mem _)
      (.member [] _ (by simp [Config.sections]))
  have hcycles : Config.Omits (object [("general", object [("stall_limit", number 10),
        ("max_cycles", .literal (.ok .null))]),
      ("ddr", object [("t_ras", number 14), ("t_cas", number 3)])]) _ :=
    .inSection (p := Config.sections[0]) (t := Config.General.settings[2]) (List.getElem_mem _)
      (List.getElem_mem _) rfl
      (.member [(.ok "stall_limit", number 10)] _ (by simp [Config.General.settings]))
      (.member [] _)
  have hras : Config.Omits (object [("general", object [("stall_limit", number 10)]),
      ("ddr", object [("t_ras", number 14), ("t_cas", number 3)])]) sparseTree :=
    .inSection (p := Config.sections[2]) (t := Config.Ddr.settings[9]) (List.getElem_mem _)
      (List.getElem_mem _) ⟨rfl, show 14 < NatRange.count.bound by decide⟩
      (.member [] _ (by simp [Config.Ddr.settings]))
      (.member [(.ok "general", object [("stall_limit", number 10)])] _)
  exact .trans _ _ _ (.rel _ _ hmemory) (.trans _ _ _ (.rel _ _ hcycles) (.rel _ _ hras))

end Sample

namespace Config

/-- The text without the defaults and the text with them are read as the same configuration, the one
that is as the first has it. -/
theorem sparse_sample :
    Config.ofText Sample.sparseText.toList = .ok Sample.sparseConfig
      ∧ IsAsWritten (parse Sample.sparseText.toList).root Sample.sparseConfig
      ∧ Config.ofText Sample.fullText.toList = .ok Sample.sparseConfig := by
  have hread : Config.ofText Sample.sparseText.toList = .ok Sample.sparseConfig :=
    of_toOption_eq_some (by decide +kernel)
  have hsparse : parse Sample.sparseText.toList = ⟨Sample.sparseTree, none⟩ := by cbv
  have hfull : parse Sample.fullText.toList = ⟨Sample.fullTree, none⟩ := by cbv
  obtain ⟨hwritten, hsame⟩ := left_out_is_default Sample.sparseText.toList
  refine ⟨hread, (hwritten _ hread _).2 rfl, ?_⟩
  rw [hsame Sample.fullText.toList, hread]
  · rw [hsparse, hfull]
  · rw [hsparse, hfull]
    exact Sample.eqvGen_omits.symm

end Config

end Testbench
