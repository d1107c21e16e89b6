import Mathlib.Data.List.Find
import Mathlib.Data.List.Forall2
import Mathlib.Data.List.Nodup
import Testbench.Proofs.Records

/-!
# What a document says about the settings of a record

A record is read field by field, but what it holds in the end can be said setting by setting and
without an order: where the document has a value for a setting, the record has that value, and where
it has none, the record has what a blank record has (`DescribedBy.holds`).  For that the fields must
keep out of each other's way, and each of them must accept exactly the nodes that say something
about its setting (`Schema.DescribedBy`).

It follows that a value which says what the blank record says anyway can be left out, from an object
wherever it is and from an array at its end: the reading is the same, and so is the first defect if
there is one (`DescribedBy.read_of_drops`).
-/

namespace Testbench.Json

variable {α σ : Type}

/-! ## What a node says -/

namespace Node

/-- The node is a natural number in a range. -/
def IsNatural (range : NatRange) (node : Node) (value : Nat) : Prop :=
  node = .literal (.ok (.integer value)) ∧ value < range.bound

/-- The node is a truth value. -/
def IsBoolean (node : Node) (value : Bool) : Prop := node = .literal (.ok (.bool value))

/-- The node is a text. -/
def IsText (node : Node) (value : String) : Prop := node = .text (.ok value)

/-- The node is null where there is no value, and else says which value there is. -/
def IsOptional (Says : Node → α → Prop) (node : Node) : Option α → Prop
  | none => node = .literal (.ok .null)
  | some value => Says node value

/-- The node is an array that says the values one by one. -/
def IsList (Says : Node → α → Prop) (node : Node) (values : List α) : Prop :=
  ∃ items, node = .array items none ∧ List.Forall₂ Says items values

/-- The node names a choice, as a text or as the only key of an object with the value null. -/
def IsChoice (choices : List (String × α)) (node : Node) (value : α) : Prop :=
  ∃ name, choices.lookup name = some value
    ∧ (node = .text (.ok name) ∨ node = .object [(.ok name, .literal (.ok .null))] none false)

end Node

/-- A reader accepts exactly the nodes that say a value, and gives that value. -/
def Reads (read : Node → Except Refusal α) (Says : Node → α → Prop) : Prop :=
  ∀ node value, read node = .ok value ↔ Says node value

theorem Reads.unique {read : Node → Except Refusal α} {Says : Node → α → Prop}
    (h : Reads read Says) {node : Node} {v w : α} (hv : Says node v) (hw : Says node w) : v = w :=
  Except.ok.inj (((h node v).2 hv).symm.trans ((h node w).2 hw))

theorem reads_natural (range : NatRange) : Reads (natural range) (Node.IsNatural range) := by
  intro node value
  unfold natural Node.IsNatural
  split
  · rename_i found
    split
    · rename_i hrange
      simp only [Except.ok.injEq, Node.literal.injEq, Literal.integer.injEq]
      omega
    · rename_i hrange
      simp only [reduceCtorEq, Node.literal.injEq, Except.ok.injEq, Literal.integer.injEq,
        false_iff]
      omega
  · rename_i hother
    simp only [refuse_ne_ok, false_iff]
    rintro ⟨rfl, -⟩
    exact hother _ rfl

theorem reads_boolean : Reads boolean Node.IsBoolean := by
  intro node value
  unfold boolean Node.IsBoolean
  split
  · simp
  · rename_i hother
    simp only [refuse_ne_ok, false_iff]
    rintro rfl
    exact hother _ rfl

theorem reads_string (expected : String) : Reads (string expected) Node.IsText := by
  intro node value
  unfold string Node.IsText
  split
  · simp
  · rename_i hother
    simp only [refuse_ne_ok, false_iff]
    rintro rfl
    exact hother _ rfl

/-- Null is read as no value, so it must not say one. -/
theorem Reads.optional {read : Node → Except Refusal α} {Says : Node → α → Prop}
    (h : Reads read Says) (hnull : ∀ value, ¬ Says (.literal (.ok .null)) value) :
    Reads (optional read) (Node.IsOptional Says) := by
  intro node value
  unfold Json.optional
  split
  · cases value with
    | none => simp [Node.IsOptional]
    | some value => simp [Node.IsOptional, hnull value]
  · rename_i hother
    cases value with
    | none =>
        simp only [Node.IsOptional]
        constructor
        · intro hmap
          obtain ⟨_, -, hv⟩ := exists_of_map_eq_ok hmap
          cases hv
        · intro heq
          exact absurd heq hother
    | some value =>
        rw [Node.IsOptional, ← h node value]
        cases read node <;> simp [Except.map]

theorem reads_optional_natural (range : NatRange) :
    Reads (optional (natural range)) (Node.IsOptional (Node.IsNatural range)) :=
  (reads_natural range).optional (by simp [Node.IsNatural])

theorem reads_optional_string (expected : String) :
    Reads (optional (string expected)) (Node.IsOptional Node.IsText) :=
  (reads_string expected).optional (by simp [Node.IsText])

theorem mapM_eq_ok_iff {read : Node → Except Refusal α} {items : List Node} {values : List α} :
    items.mapM read = .ok values
      ↔ List.Forall₂ (fun item value => read item = .ok value) items values := by
  induction items generalizing values with
  | nil =>
      rw [List.mapM_nil, List.forall₂_nil_left_iff]
      exact ⟨fun h => (Except.ok.inj h).symm, fun h => congrArg Except.ok h.symm⟩
  | cons item items ih =>
      rw [List.mapM_cons, List.forall₂_cons_left_iff]
      constructor
      · intro h
        obtain ⟨first, hfirst, h⟩ := exists_of_bind_eq_ok h
        obtain ⟨rest, hrest, h⟩ := exists_of_bind_eq_ok h
        exact ⟨first, rest, hfirst, ih.1 hrest, (Except.ok.inj h).symm⟩
      · rintro ⟨first, rest, hfirst, hrest, rfl⟩
        exact bind_eq_ok hfirst (bind_eq_ok (ih.2 hrest) rfl)

theorem Reads.list {read : Node → Except Refusal α} {Says : Node → α → Prop}
    (h : Reads read Says) : Reads (list read) (Node.IsList Says) := by
  intro node values
  have hitems : ∀ items : List Node, items.mapM read = .ok values
      ↔ List.Forall₂ Says items values := by
    intro items
    rw [mapM_eq_ok_iff]
    simp only [h _ _]
  unfold Json.list Node.IsList
  split
  · rename_i items stop
    constructor
    · intro hread
      obtain ⟨found, hfound, hread⟩ := exists_of_bind_eq_ok hread
      obtain ⟨_, hend, hread⟩ := exists_of_bind_eq_ok hread
      cases hread
      cases stop with
      | none => exact ⟨items, rfl, (hitems items).1 hfound⟩
      | some stop => cases hend
    · rintro ⟨_, heq, hsaid⟩
      cases heq
      exact bind_eq_ok ((hitems items).2 hsaid) rfl
  · rename_i hother
    simp only [refuse_ne_ok, false_iff]
    rintro ⟨items, rfl, -⟩
    exact hother _ _ rfl

theorem choose_eq_ok_iff {choices : List (String × α)} {name : String} {value : α} :
    choose choices name = .ok value ↔ choices.lookup name = some value := by
  unfold choose
  split
  · rename_i found hfound
    simp [hfound]
  · rename_i hnone
    simp [hnone]

theorem reads_unit : Reads unit fun node _ => node = .literal (.ok .null) := by
  intro node _
  unfold unit
  split
  · simp
  · rename_i hother
    simp only [refuse_ne_ok, false_iff]
    exact hother

theorem reads_choice (choices : List (String × α)) :
    Reads (choice choices) (Node.IsChoice choices) := by
  intro node value
  unfold Node.IsChoice
  constructor
  · intro h
    cases node with
    | missing stop => cases h
    | literal reading => cases h
    | array items stop => cases h
    | text reading =>
        cases reading with
        | error stop => cases h
        | ok name => exact ⟨name, choose_eq_ok_iff.1 h, .inl rfl⟩
    | object members stop keyDue =>
        cases members with
        | nil => cases h
        | cons member more =>
            obtain ⟨key, body⟩ := member
            cases key with
            | error stop => cases h
            | ok name =>
                obtain ⟨found, hfound, h⟩ := exists_of_bind_eq_ok h
                obtain ⟨_, hbody, h⟩ := exists_of_bind_eq_ok h
                obtain rfl := (reads_unit body _).1 hbody
                -- nothing may follow the one member
                cases more with
                | cons second more => cases h
                | nil =>
                    cases keyDue with
                    | true => cases h
                    | false =>
                        cases stop with
                        | some stop => cases h
                        | none =>
                            cases h
                            exact ⟨name, choose_eq_ok_iff.1 hfound, .inr rfl⟩
  · rintro ⟨name, hname, rfl | rfl⟩
    · exact choose_eq_ok_iff.2 hname
    · exact bind_eq_ok (choose_eq_ok_iff.2 hname) rfl

/-! ## Settings and fields -/

/-- A setting of a record: where a document has it, what says its value, and where the record has
it. -/
structure Setting (σ : Type) where
  /-- The name of the setting. -/
  name : String
  /-- The type of its values. -/
  Value : Type
  /-- The nodes that say a value. -/
  Says : Node → Value → Prop
  /-- The value in a record. -/
  value : σ → Value

/-- A record has the value that a document has for the setting, or else the value of the record that
stands for what is omitted. -/
def Setting.Holds (t : Setting σ) (given : Option Node) (omitted record : σ) : Prop :=
  match given with
  | some node => t.Says node (t.value record)
  | none => t.value record = t.value omitted

/-- A field puts the value of a setting into a record.  It may be left out. -/
def Field.Gives (f : Field σ) (t : Setting σ) : Prop :=
  ∃ (read : Node → Except Refusal t.Value) (set : t.Value → σ → σ),
    f = .withDefault t.name read set ∧ Reads read t.Says
      ∧ (∀ value r, t.value (set value r) = value) ∧ ∀ r, set (t.value r) r = r

theorem gives_withDefault (name : String) {read : Node → Except Refusal α} {set : α → σ → σ}
    {Says : Node → α → Prop} {value : σ → α} (hreads : Reads read Says)
    (hvalue : ∀ v r, value (set v r) = v) (hset : ∀ r, set (value r) r = r) :
    (Field.withDefault name read set).Gives ⟨name, α, Says, value⟩ :=
  ⟨read, set, rfl, hreads, hvalue, hset⟩

/-- A field does not change a value of a record. -/
def Field.Leaves (f : Field σ) (value : σ → α) : Prop :=
  ∀ node change, f.read node = .ok change → ∀ r, value (change r) = value r

@[simp] theorem name_withDefault (name : String) (read : Node → Except Refusal α)
    (set : α → σ → σ) : (Field.withDefault name read set).name = name := rfl

@[simp] theorem leaves_withDefault {β : Type} (name : String) (read : Node → Except Refusal α)
    {set : α → σ → σ} {value : σ → β} (h : ∀ v r, value (set v r) = value r) :
    (Field.withDefault name read set).Leaves value := by
  intro node change hread r
  obtain ⟨v, -, rfl⟩ := Field.withDefault_eq_ok hread
  exact h v r

namespace Field.Gives

variable {f : Field σ} {t : Setting σ}

theorem name_eq (h : f.Gives t) : f.name = t.name := by
  obtain ⟨read, set, rfl, -⟩ := h
  rfl

theorem required_eq (h : f.Gives t) : f.required = false := by
  obtain ⟨read, set, rfl, -⟩ := h
  rfl

/-- What is read into a record is what the node says. -/
theorem said (h : f.Gives t) {node : Node} {change : σ → σ} (hread : f.read node = .ok change)
    (r : σ) : t.Says node (t.value (change r)) := by
  obtain ⟨read, set, rfl, hreads, hvalue, -⟩ := h
  obtain ⟨v, hv, rfl⟩ := Field.withDefault_eq_ok hread
  rw [hvalue]
  exact (hreads node v).1 hv

/-- A node that says what the record has changes nothing. -/
theorem exists_unchanged (h : f.Gives t) {node : Node} {r : σ} (hsaid : t.Says node (t.value r)) :
    ∃ change, f.read node = .ok change ∧ change r = r := by
  obtain ⟨read, set, rfl, hreads, -, hset⟩ := h
  have hread := (hreads node (t.value r)).2 hsaid
  exact ⟨set (t.value r), congrArg (Except.map set) hread, hset r⟩

/-- A node says one value at most. -/
theorem unique (h : f.Gives t) {node : Node} {v w : t.Value} (hv : t.Says node v)
    (hw : t.Says node w) : v = w := by
  obtain ⟨read, set, -, hreads, -⟩ := h
  exact hreads.unique hv hw

end Field.Gives

/-! ## Records -/

/-- The value of the first member with a name. -/
def member? (name : String) : List (Except Stop String × Node) → Option Node
  | [] => none
  | (.ok key, value) :: more => if key = name then some value else member? name more
  | (.error _, _) :: more => member? name more

/-- The item in the place of a field, if the fields have one of that name. -/
def item? (name : String) (names : List String) (items : List Node) : Option Node :=
  if name ∈ names then items[names.idxOf name]? else none

theorem item?_nil (name : String) (names : List String) : item? name names [] = none := by
  simp [item?]

theorem item?_cons_self (name : String) (names : List String) (item : Node) (items : List Node) :
    item? name (name :: names) (item :: items) = some item := by
  simp [item?]

theorem item?_cons_of_ne {name first : String} (h : first ≠ name) (names : List String)
    (item : Node) (items : List Node) :
    item? name (first :: names) (item :: items) = item? name names items := by
  simp [item?, List.idxOf_cons_ne _ h, Ne.symm h]

theorem item?_of_not_mem {name : String} {names : List String} (h : name ∉ names)
    (items : List Node) : item? name names items = none := if_neg h

/-- A record without the value of one of its fields: without the only member of its name in an
object, or without the last item in an array. -/
inductive Drops (names : List String) (name : String) (value : Node) : Node → Node → Prop where
  | member (before after : List (Except Stop String × Node)) {stop : Option Stop} {keyDue : Bool}
      (hothers : ∀ m ∈ before ++ after, m.1 ≠ .ok name) :
      Drops names name value (.object (before ++ (.ok name, value) :: after) stop keyDue)
        (.object (before ++ after) stop keyDue)
  | item (items : List Node) {stop : Option Stop} (hplace : names[items.length]? = some name) :
      Drops names name value (.array (items ++ [value]) stop) (.array items stop)

/-- A record with another value of one of its fields. -/
inductive Replaces (names : List String) (name : String) (value value' : Node) :
    Node → Node → Prop where
  | member (before after : List (Except Stop String × Node)) {stop : Option Stop} {keyDue : Bool} :
      Replaces names name value value' (.object (before ++ (.ok name, value) :: after) stop keyDue)
        (.object (before ++ (.ok name, value') :: after) stop keyDue)
  | item (before after : List Node) {stop : Option Stop}
      (hplace : names[before.length]? = some name) :
      Replaces names name value value' (.array (before ++ value :: after) stop)
        (.array (before ++ value' :: after) stop)

namespace Schema

/-- What a document has for a field: the member with its name, or the item in its place. -/
def entry? (s : Schema σ) (name : String) : Node → Option Node
  | .object members _ _ => member? name members
  | .array items _ => item? name s.fieldNames items
  | _ => none

/-- The settings of a record are given by the fields of a schema one by one, no field changes the
setting of another, and there is nothing else to a record. -/
structure DescribedBy (s : Schema σ) (settings : List (Setting σ)) : Prop where
  /-- No two fields have the same name. -/
  names_nodup : s.fieldNames.Nodup
  /-- Every field gives the setting in its place. -/
  gives : List.Forall₂ Field.Gives s.fields settings
  /-- It leaves all others alone. -/
  leaves : ∀ f ∈ s.fields, ∀ t ∈ settings, f.name ≠ t.name → f.Leaves t.value
  /-- Records with the same settings are the same. -/
  ext : ∀ a b, (∀ t ∈ settings, t.value a = t.value b) → a = b

namespace DescribedBy

variable {s : Schema σ} {settings : List (Setting σ)} {t : Setting σ}

theorem exists_gives (h : s.DescribedBy settings) (ht : t ∈ settings) :
    ∃ f ∈ s.fields, f.Gives t := by
  obtain ⟨i, hi, rfl⟩ := List.getElem_of_mem ht
  have hlength := h.gives.length_eq
  exact ⟨s.fields[i], List.getElem_mem _, (List.forall₂_iff_get.1 h.gives).2 i (by omega) hi⟩

theorem gives_of_name_eq (h : s.DescribedBy settings) (ht : t ∈ settings) {f : Field σ}
    (hf : f ∈ s.fields) (hname : f.name = t.name) : f.Gives t := by
  obtain ⟨g, hg, hgives⟩ := h.exists_gives ht
  have hsame : f = g :=
    List.inj_on_of_nodup_map h.names_nodup hf hg (hname.trans hgives.name_eq.symm)
  exact hsame ▸ hgives

theorem mem_fieldNames (h : s.DescribedBy settings) (ht : t ∈ settings) :
    t.name ∈ s.fieldNames := by
  obtain ⟨f, hf, hgives⟩ := h.exists_gives ht
  exact hgives.name_eq ▸ List.mem_map_of_mem hf

end DescribedBy

/-! ## Reading members -/

variable {s : Schema σ} {settings : List (Setting σ)} {t : Setting σ} {stop : Option Stop}
  {seen : List String} {record r : σ} {members before after : List (Except Stop String × Node)}

theorem eq_of_readMembers_nil (h : s.readMembers stop seen record [] = .ok r) : r = record := by
  obtain ⟨-, -, h⟩ := exists_of_bind_eq_ok h
  split at h
  · cases h
  · exact (Except.ok.inj h).symm

/-- A member that is read is skipped if no field has its name, and else it is the first of its name
and changes the record. -/
theorem readMembers_cons_cases {key : Except Stop String} {value : Node}
    (h : s.readMembers stop seen record ((key, value) :: members) = .ok r) :
    ∃ name, key = .ok name ∧
      ((name ∉ s.fieldNames ∧ s.readMembers stop seen record members = .ok r)
        ∨ ∃ f ∈ s.fields, f.name = name ∧ name ∉ seen ∧ ∃ change, f.read value = .ok change
          ∧ s.readMembers stop (name :: seen) (change record) members = .ok r) := by
  cases key with
  | error e => cases h
  | ok name =>
      refine ⟨name, rfl, ?_⟩
      simp only [readMembers] at h
      split at h
      · rename_i hnone
        left
        split at h
        · refine ⟨?_, h⟩
          intro hmem
          obtain ⟨f, hf, rfl⟩ := List.mem_map.1 hmem
          simpa using List.find?_eq_none.1 hnone f hf
        · cases h
      · rename_i f hfind
        right
        have hname : f.name = name := by simpa using List.find?_some hfind
        refine ⟨f, List.mem_of_find?_eq_some hfind, hname, ?_⟩
        split at h
        · cases h
        · rename_i hseen
          obtain ⟨change, hread, h⟩ := exists_of_bind_eq_ok h
          exact ⟨by simpa using hseen, change, hread, h⟩

namespace DescribedBy

/-- Once a setting has been read it stays. -/
theorem value_readMembers (h : s.DescribedBy settings) (ht : t ∈ settings) (hseen : t.name ∈ seen)
    (hr : s.readMembers stop seen record members = .ok r) : t.value r = t.value record := by
  induction members generalizing seen record with
  | nil => rw [eq_of_readMembers_nil hr]
  | cons member members ih =>
      obtain ⟨key, value⟩ := member
      obtain ⟨name, -, hskip | ⟨f, hf, hname, hnew, change, hread, hrest⟩⟩ :=
        readMembers_cons_cases hr
      · exact ih hseen hskip.2
      · have hother : f.name ≠ t.name := by
          intro heq
          exact hnew (hname.symm.trans heq ▸ hseen)
        rw [ih (List.mem_cons_of_mem _ hseen) hrest,
          h.leaves f hf t ht hother value change hread record]

/-- A setting that has not been read yet is as the members say, or as the record has it. -/
theorem holds_readMembers (h : s.DescribedBy settings) (ht : t ∈ settings)
    (hr : s.readMembers stop seen record members = .ok r) (hseen : t.name ∉ seen) :
    t.Holds (member? t.name members) record r := by
  induction members generalizing seen record with
  | nil => rw [eq_of_readMembers_nil hr, member?, Setting.Holds]
  | cons member members ih =>
      obtain ⟨key, value⟩ := member
      obtain ⟨name, rfl, ⟨hunknown, hrest⟩ | ⟨f, hf, hname, hnew, change, hread, hrest⟩⟩ :=
        readMembers_cons_cases hr
      · have hother : name ≠ t.name := by
          rintro rfl
          exact hunknown (h.mem_fieldNames ht)
        rw [member?, if_neg hother]
        exact ih hrest hseen
      · by_cases hsame : name = t.name
        · have hgives := h.gives_of_name_eq ht hf (hname.trans hsame)
          have hstays := h.value_readMembers ht (hsame ▸ List.mem_cons_self) hrest
          rw [member?, if_pos hsame, Setting.Holds, hstays]
          exact hgives.said hread record
        · have hleft := h.leaves f hf t ht (hname ▸ hsame) value change hread record
          have hholds := ih hrest (by simp [hseen, Ne.symm hsame])
          rw [member?, if_neg hsame]
          unfold Setting.Holds at hholds ⊢
          rw [← hleft]
          exact hholds

end DescribedBy

/-! ## Reading items -/

namespace DescribedBy

/-- A setting is as the item in the place of its field says, or as the record has it. -/
theorem holds_readItems (h : s.DescribedBy settings) (ht : t ∈ settings)
    {fields : List (Field σ)} (hfields : ∀ f ∈ fields, f ∈ s.fields)
    (hnames : (fields.map (·.name)).Nodup) {items : List Node}
    (hr : s.readItems stop record fields items = .ok r) :
    t.Holds (item? t.name (fields.map (·.name)) items) record r := by
  induction fields generalizing items record with
  | nil =>
      cases items with
      | nil =>
          obtain ⟨-, -, hr⟩ := exists_of_bind_eq_ok hr
          cases hr
          rfl
      | cons item items => cases hr
  | cons f fields ih =>
      have hrest : ∀ f ∈ fields, f ∈ s.fields := fun f hf => hfields f (List.mem_cons_of_mem _ hf)
      obtain ⟨hnew, hnames⟩ := List.nodup_cons.1 hnames
      cases items with
      | nil =>
          obtain ⟨-, -, hr⟩ := exists_of_bind_eq_ok hr
          split at hr
          · cases hr
          · have hholds := ih hrest hnames hr
            rw [item?_nil] at hholds ⊢
            exact hholds
      | cons item items =>
          obtain ⟨change, hread, hr⟩ := exists_of_bind_eq_ok hr
          have hholds := ih hrest hnames hr
          have hf := hfields f List.mem_cons_self
          rw [List.map_cons]
          by_cases hsame : f.name = t.name
          · have hread_once : t.name ∉ fields.map (·.name) := hsame ▸ hnew
            rw [item?_of_not_mem hread_once, Setting.Holds] at hholds
            rw [hsame, item?_cons_self, Setting.Holds, hholds]
            exact (h.gives_of_name_eq ht hf hsame).said hread record
          · have hleft := h.leaves f hf t ht hsame item change hread record
            rw [item?_cons_of_ne hsame]
            unfold Setting.Holds at hholds ⊢
            rw [← hleft]
            exact hholds

/-- **A record that is read holds what its document says**, setting by setting, and what the blank
record has where the document says nothing. -/
theorem holds (h : s.DescribedBy settings) (ht : t ∈ settings) {node : Node}
    (hr : s.read node = .ok r) : t.Holds (s.entry? t.name node) s.blank r := by
  unfold Schema.read at hr
  split at hr
  · exact h.holds_readMembers ht hr (List.not_mem_nil)
  · exact h.holds_readItems ht (fun _ hf => hf) h.names_nodup hr
  · exact absurd hr (refuse_ne_ok _ _ _)

/-- What a document says decides the value of a setting. -/
theorem value_eq_of_holds (h : s.DescribedBy settings) (ht : t ∈ settings) {given : Option Node}
    {omitted a b : σ} (ha : t.Holds given omitted a) (hb : t.Holds given omitted b) :
    t.value a = t.value b := by
  obtain ⟨f, -, hgives⟩ := h.exists_gives ht
  unfold Setting.Holds at ha hb
  cases given with
  | none => exact ha.trans hb.symm
  | some node => exact hgives.unique ha hb

end DescribedBy

/-! ## Leaving values out -/

/-- Whether a field that may be left out has been read does not matter where its name does not come
up any more. -/
theorem readMembers_congr_seen {name : String} {seen' : List String}
    (hname : ∀ f ∈ s.fields, f.name = name → f.required = false)
    (hseen : ∀ other, other ≠ name → (other ∈ seen ↔ other ∈ seen'))
    (hmembers : ∀ m ∈ members, m.1 ≠ .ok name) :
    s.readMembers stop seen record members = s.readMembers stop seen' record members := by
  induction members generalizing seen seen' record with
  | nil =>
      have hlacking : s.lacking seen = s.lacking seen' := by
        apply List.find?_congr
        intro f hf
        by_cases hsame : f.name = name
        · simp [hname f hf hsame]
        · simp [hseen f.name hsame]
      simp only [readMembers, hlacking]
  | cons member members ih =>
      obtain ⟨key, value⟩ := member
      have hrest : ∀ m ∈ members, m.1 ≠ .ok name := fun m hm =>
        hmembers m (List.mem_cons_of_mem _ hm)
      cases key with
      | error e => rfl
      | ok other =>
          have hother : other ≠ name := by
            rintro rfl
            exact hmembers _ List.mem_cons_self rfl
          have hcontains : seen.contains other = seen'.contains other := by
            simp [hseen other hother]
          have hnext : ∀ n, n ≠ name → (n ∈ other :: seen ↔ n ∈ other :: seen') := by
            intro n hn
            simp [hseen n hn]
          simp only [readMembers, hcontains, ih hseen hrest, ih hnext hrest]

/-- A member may be written in another way that its field reads in the same way. -/
theorem readMembers_congr_value {name : String} {value value' : Node}
    (hvalue : ∀ f ∈ s.fields, f.name = name → f.read value = f.read value') :
    s.readMembers stop seen record (before ++ (.ok name, value) :: after)
      = s.readMembers stop seen record (before ++ (.ok name, value') :: after) := by
  induction before generalizing seen record with
  | nil =>
      simp only [List.nil_append, readMembers]
      cases hfind : s.fields.find? (·.name == name) with
      | none => rfl
      | some f =>
          have hname : f.name = name := by simpa using List.find?_some hfind
          simp only [hvalue f (List.mem_of_find?_eq_some hfind) hname]
  | cons member before ih =>
      obtain ⟨key, other⟩ := member
      cases key with
      | error e => rfl
      | ok key => simp only [List.cons_append, readMembers, ih]

/-- So may an item. -/
theorem readItems_congr_value {name : String} {value value' : Node} {fields : List (Field σ)}
    {before after : List Node} (hplace : (fields.map (·.name))[before.length]? = some name)
    (hvalue : ∀ f ∈ fields, f.name = name → f.read value = f.read value') :
    s.readItems stop record fields (before ++ value :: after)
      = s.readItems stop record fields (before ++ value' :: after) := by
  induction before generalizing fields record with
  | nil =>
      cases fields with
      | nil => simp at hplace
      | cons f fields =>
          have hname : f.name = name := by simpa using hplace
          simp only [List.nil_append, readItems, hvalue f List.mem_cons_self hname]
  | cons item before ih =>
      cases fields with
      | nil => simp at hplace
      | cons f fields =>
          have hrest : ∀ f ∈ fields, f.name = name → f.read value = f.read value' := fun f hf =>
            hvalue f (List.mem_cons_of_mem _ hf)
          simp only [List.cons_append, readItems, ih (by simpa using hplace) hrest]

/-- Where the items end, a field that may be left out is left out. -/
theorem readItems_cons_nil {f : Field σ} (hf : f.required = false) {fields : List (Field σ)} :
    s.readItems stop record (f :: fields) [] = s.readItems stop record fields [] := by
  cases stop with
  | none => simp [readItems, hf, atEnd, bind, Except.bind]
  | some stop => cases fields <;> rfl

namespace DescribedBy

/-- A member that says what the record has anyway changes nothing. -/
theorem readMembers_without (h : s.DescribedBy settings) (ht : t ∈ settings) {value : Node}
    (hvalue : t.Says value (t.value record)) (hseen : t.name ∉ seen)
    (hothers : ∀ m ∈ before ++ after, m.1 ≠ .ok t.name) :
    s.readMembers stop seen record (before ++ (.ok t.name, value) :: after)
      = s.readMembers stop seen record (before ++ after) := by
  induction before generalizing seen record with
  | nil =>
      have hname : ∀ f ∈ s.fields, f.name = t.name → f.required = false := fun f hf hsame =>
        (h.gives_of_name_eq ht hf hsame).required_eq
      have hnext : s.readMembers stop (t.name :: seen) record after
          = s.readMembers stop seen record after :=
        readMembers_congr_seen hname (fun other hother => by simp [hother]) hothers
      have hunseen : ¬ seen.contains t.name = true := by simpa using hseen
      simp only [List.nil_append, readMembers]
      cases hfind : s.fields.find? (·.name == t.name) with
      | none =>
          obtain ⟨f, hf, hgives⟩ := h.exists_gives ht
          have hunnamed := List.find?_eq_none.1 hfind f hf
          simp [hgives.name_eq] at hunnamed
      | some f =>
          have hsame : f.name = t.name := by simpa using List.find?_some hfind
          have hgives := h.gives_of_name_eq ht (List.mem_of_find?_eq_some hfind) hsame
          obtain ⟨change, hread, hchange⟩ := hgives.exists_unchanged hvalue
          simp only [if_neg hunseen, hread]
          show s.readMembers stop (t.name :: seen) (change record) after = _
          rw [hchange, hnext]
  | cons member before ih =>
      obtain ⟨key, other⟩ := member
      have hrest : ∀ m ∈ before ++ after, m.1 ≠ .ok t.name := fun m hm =>
        hothers m (List.mem_cons_of_mem _ hm)
      cases key with
      | error e => rfl
      | ok key =>
          have hkey : key ≠ t.name := by
            rintro rfl
            exact hothers _ List.mem_cons_self rfl
          simp only [List.cons_append, readMembers]
          cases hfind : s.fields.find? (·.name == key) with
          | none => simp only [ih hvalue hseen hrest]
          | some f =>
              have hname : f.name = key := by simpa using List.find?_some hfind
              have hleaves := h.leaves f (List.mem_of_find?_eq_some hfind) t ht (hname ▸ hkey)
              have hnext : (f.read other >>= fun change => s.readMembers stop (key :: seen)
                    (change record) (before ++ (.ok t.name, value) :: after))
                  = f.read other >>= fun change => s.readMembers stop (key :: seen)
                    (change record) (before ++ after) := by
                cases hread : f.read other with
                | error e => rfl
                | ok change =>
                    refine ih ?_ (by simp [hseen, Ne.symm hkey]) hrest
                    rw [hleaves other change hread record]
                    exact hvalue
              simp only [hnext]

/-- Nor does a last item that does. -/
theorem readItems_without (h : s.DescribedBy settings) (ht : t ∈ settings) {value : Node}
    (hvalue : t.Says value (t.value record)) {fields : List (Field σ)}
    (hfields : ∀ f ∈ fields, f ∈ s.fields) (hnames : (fields.map (·.name)).Nodup)
    {items : List Node} (hplace : (fields.map (·.name))[items.length]? = some t.name) :
    s.readItems stop record fields (items ++ [value]) = s.readItems stop record fields items := by
  induction items generalizing fields record with
  | nil =>
      cases fields with
      | nil => simp at hplace
      | cons f fields =>
          have hname : f.name = t.name := by simpa using hplace
          have hgives := h.gives_of_name_eq ht (hfields f List.mem_cons_self) hname
          obtain ⟨change, hread, hchange⟩ := hgives.exists_unchanged hvalue
          rw [List.nil_append, readItems_cons_nil hgives.required_eq, readItems, hread]
          show s.readItems stop (change record) fields [] = _
          rw [hchange]
  | cons item items ih =>
      cases fields with
      | nil => simp at hplace
      | cons f fields =>
          have hrest : ∀ f ∈ fields, f ∈ s.fields := fun f hf =>
            hfields f (List.mem_cons_of_mem _ hf)
          obtain ⟨hnew, hnames⟩ := List.nodup_cons.1 hnames
          have hplace : (fields.map (·.name))[items.length]? = some t.name := by simpa using hplace
          have hother : f.name ≠ t.name := by
            intro hsame
            have hmem := List.mem_of_getElem? hplace
            rw [← hsame] at hmem
            exact hnew hmem
          have hleaves := h.leaves f (hfields f List.mem_cons_self) t ht hother
          simp only [List.cons_append, readItems]
          cases hread : f.read item with
          | error e => rfl
          | ok change =>
              refine ih ?_ hrest hnames hplace
              rw [hleaves item change hread record]
              exact hvalue

/-- **What says the default can be left out.**  A record is read in the same way without it, also if
it is refused. -/
theorem read_of_drops (h : s.DescribedBy settings) (ht : t ∈ settings) {value full rest : Node}
    (hvalue : t.Says value (t.value s.blank)) (hdrops : Drops s.fieldNames t.name value full rest) :
    s.read full = s.read rest := by
  cases hdrops with
  | member before after hothers =>
      exact h.readMembers_without ht hvalue List.not_mem_nil hothers
  | item items hplace => exact h.readItems_without ht hvalue (fun _ hf => hf) h.names_nodup hplace

end DescribedBy

theorem read_of_replaces {name : String} {value value' full other : Node}
    (hvalue : ∀ f ∈ s.fields, f.name = name → f.read value = f.read value')
    (hreplaces : Replaces s.fieldNames name value value' full other) :
    s.read full = s.read other := by
  cases hreplaces with
  | member before after => exact readMembers_congr_value hvalue
  | item before after hplace => exact readItems_congr_value hplace hvalue

end Schema

end Testbench.Json
