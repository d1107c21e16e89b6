import Testbench.Json.Document

/-!
# Reading records from documents

A *schema* says how a record is written: its fields in order, which of them may be left out, and
whether other fields are allowed.  A record is an object of its fields in any order, or an array of
their values in the order of the schema.  Reading starts from the record with every default filled
in (`blank`), and each field that is present changes that record.

The first defect from left to right is the one reported.  An unknown or repeated field is a defect
at its key, a missing field one at the closing brace.
-/

namespace Testbench.Json

/-- What a document says that it should not. -/
inductive Mismatch where
  /-- A value of the wrong kind. -/
  | kind (found : Found) (expected : String)
  /-- An integer outside its range. -/
  | range (found : Int) (expected : String)
  /-- A field that the record does not have. -/
  | unknownField (name : String) (known : List String)
  /-- A field that is there twice. -/
  | repeatedField (name : String)
  /-- A field that is needed and not there. -/
  | missingField (name : String)
  /-- An array that ends before a field that is needed. -/
  | tooShort (length : Nat) (title : String) (fields : Nat)
  /-- A choice that does not exist. -/
  | unknownChoice (name : String) (known : List String)
  deriving Repr, Inhabited

/-- Why a document is refused. -/
inductive Refusal where
  /-- The text itself is no document, or what follows is out of place. -/
  | stop (stop : Stop)
  /-- The text is a document that does not say what it should. -/
  | mismatch (m : Mismatch)
  deriving Repr, Inhabited

/-- A list of names as alternatives. -/
def alternatives : List String → String
  | [first, second] => "`" ++ first ++ "` or `" ++ second ++ "`"
  | [only] => "`" ++ only ++ "`"
  | names => "one of " ++ String.intercalate ", " (names.map fun name => "`" ++ name ++ "`")

/-- The text of a mismatch. -/
def Mismatch.message : Mismatch → String
  | .kind found expected => "invalid type: " ++ found.describe ++ ", expected " ++ expected
  | .range found expected =>
      "invalid value: integer `" ++ toString found ++ "`, expected " ++ expected
  | .unknownField name known => "unknown field `" ++ name ++ "`, expected " ++ alternatives known
  | .repeatedField name => "duplicate field `" ++ name ++ "`"
  | .missingField name => "missing field `" ++ name ++ "`"
  | .tooShort length title fields =>
      "invalid length " ++ toString length ++ ", expected struct " ++ title ++ " with "
        ++ toString fields ++ " elements"
  | .unknownChoice name known => "unknown variant `" ++ name ++ "`, expected " ++ alternatives known

/-! ## Single values -/

/-- The refusal of a value of the wrong kind, or of one that cannot be read at all. -/
def refuse {α : Type} (expected : String) (node : Node) : Except Refusal α :=
  match node.found with
  | .ok found => .error (.mismatch (.kind found expected))
  | .error stop => .error (.stop stop)

/-- A range of natural numbers with its name. -/
structure NatRange where
  /-- The name in messages. -/
  name : String
  /-- The least number beyond the range. -/
  bound : Nat
  deriving DecidableEq, Repr, Inhabited

/-- Bytes. -/
def NatRange.byte : NatRange := ⟨"u8", 0x100⟩

/-- Words. -/
def NatRange.word : NatRange := ⟨"u32", 0x1_0000_0000⟩

/-- Numbers of cycles and addresses. -/
def NatRange.count : NatRange := ⟨"u64", 0x1_0000_0000_0000_0000⟩

/-- Numbers of bytes and positions. -/
def NatRange.size : NatRange := ⟨"usize", 0x1_0000_0000_0000_0000⟩

/-- A natural number in a range. -/
def natural (range : NatRange) (node : Node) : Except Refusal Nat :=
  match node with
  | .literal (.ok (.integer value)) =>
      if 0 ≤ value ∧ value < range.bound then .ok value.toNat
      else .error (.mismatch (.range value range.name))
  | _ => refuse range.name node

/-- A truth value. -/
def boolean (node : Node) : Except Refusal Bool :=
  match node with
  | .literal (.ok (.bool value)) => .ok value
  | _ => refuse "a boolean" node

/-- A text. -/
def string (expected : String) (node : Node) : Except Refusal String :=
  match node with
  | .text (.ok value) => .ok value
  | _ => refuse expected node

/-- A value that may be null. -/
def optional {α : Type} (read : Node → Except Refusal α) (node : Node) :
    Except Refusal (Option α) :=
  match node with
  | .literal (.ok .null) => .ok none
  | _ => (read node).map some

/-- The end of a container. -/
def atEnd : Option Stop → Except Refusal Unit
  | none => .ok ()
  | some stop => .error (.stop stop)

/-- A list of values. -/
def list {α : Type} (read : Node → Except Refusal α) (node : Node) : Except Refusal (List α) :=
  match node with
  | .array items stop => do
      let values ← items.mapM read
      atEnd stop
      .ok values
  | _ => refuse "a sequence" node

/-! ## Choices -/

/-- The choice with a name. -/
def choose {α : Type} (choices : List (String × α)) (name : String) : Except Refusal α :=
  match choices.lookup name with
  | some value => .ok value
  | none => .error (.mismatch (.unknownChoice name (choices.map (·.1))))

/-- The null behind the name of a choice. -/
def unit (node : Node) : Except Refusal Unit :=
  match node with
  | .literal (.ok .null) => .ok ()
  | _ => refuse "unit" node

/-- A choice by its name, written as a text or as the only key of an object with the value null. -/
def choice {α : Type} (choices : List (String × α)) (node : Node) : Except Refusal α :=
  match node with
  | .text (.ok name) => choose choices name
  | .text (.error stop) => .error (.stop stop)
  | .missing stop => .error (.stop stop)
  | .literal _ | .array _ _ => .error (.stop .malformed)
  | .object [] stop _ => .error (.stop (stop.getD .malformed))
  | .object ((key, body) :: more) stop keyDue => do
      let value ← match key with
        | .ok name => choose choices name
        | .error stop => .error (.stop stop)
      unit body
      if more.isEmpty ∧ !keyDue then atEnd stop else .error (.stop .malformed)
      .ok value

/-! ## Records -/

/-- A field of a record of type `σ`. -/
structure Field (σ : Type) where
  /-- The name of the field. -/
  name : String
  /-- Whether the field has to be there. -/
  required : Bool
  /-- Reads a value of the field into a record. -/
  read : Node → Except Refusal (σ → σ)

/-- A field that may be left out. -/
def Field.withDefault {σ α : Type} (name : String) (read : Node → Except Refusal α)
    (set : α → σ → σ) : Field σ := ⟨name, false, fun node => (read node).map set⟩

/-- A field that has to be there. -/
def Field.needed {σ α : Type} (name : String) (read : Node → Except Refusal α)
    (set : α → σ → σ) : Field σ := ⟨name, true, fun node => (read node).map set⟩

/-- How a record of type `σ` is written. -/
structure Schema (σ : Type) where
  /-- The name of the record in messages. -/
  title : String
  /-- Whether fields that the record does not have are skipped. -/
  lenient : Bool := false
  /-- The record in which every field that may be left out has its default. -/
  blank : σ
  /-- The fields in order. -/
  fields : List (Field σ)

namespace Schema

variable {σ : Type}

/-- The names of the fields. -/
def fieldNames (s : Schema σ) : List String := s.fields.map (·.name)

/-- The first needed field that is not among the names. -/
def lacking (s : Schema σ) (seen : List String) : Option (Field σ) :=
  s.fields.find? fun field => field.required && !seen.contains field.name

/-- Reads the members of an object into a record.  `seen` holds the names read so far. -/
def readMembers (s : Schema σ) (stop : Option Stop) (seen : List String) (record : σ) :
    List (Except Stop String × Node) → Except Refusal σ
  | [] => do
      atEnd stop
      match s.lacking seen with
      | some field => .error (.mismatch (.missingField field.name))
      | none => .ok record
  | (.error stop, _) :: _ => .error (.stop stop)
  | (.ok name, value) :: more =>
      match s.fields.find? (·.name == name) with
      | none =>
          if s.lenient then s.readMembers stop seen record more
          else .error (.mismatch (.unknownField name s.fieldNames))
      | some field =>
          if seen.contains name then .error (.mismatch (.repeatedField name))
          else do
            let set ← field.read value
            s.readMembers stop (name :: seen) (set record) more

/-- Reads the items of an array into a record.  `fields` are the fields that are still to come. -/
def readItems (s : Schema σ) (stop : Option Stop) (record : σ) :
    List (Field σ) → List Node → Except Refusal σ
  | [], [] => do
      atEnd stop
      .ok record
  | [], _ :: _ => .error (.stop .malformed)
  | field :: fields, [] => do
      atEnd stop
      if field.required then
        .error (.mismatch (.tooShort (s.fields.length - (fields.length + 1)) s.title
          s.fields.length))
      else s.readItems stop record fields []
  | field :: fields, item :: items => do
      let set ← field.read item
      s.readItems stop (set record) fields items

/-- Reads a record. -/
def read (s : Schema σ) (node : Node) : Except Refusal σ :=
  match node with
  | .object members stop _ => s.readMembers stop [] s.blank members
  | .array items stop => s.readItems stop s.blank s.fields items
  | _ => refuse ("struct " ++ s.title) node

/-- Reads a text that holds a record and nothing else. -/
def readText (s : Schema σ) (text : List Char) : Except Refusal σ := do
  let document := parse text
  let record ← s.read document.root
  atEnd document.stop
  .ok record

end Schema

end Testbench.Json
