/-!
# Program files in the executable and linkable format

A program file begins with a header that says how wide its fields are and in which byte order, and
where its tables of segments and sections lie.  Only the loadable segments matter here, but the
header, both tables and the section that names the sections are checked first, in that order, and
the first thing amiss is the answer.

All positions in the file are natural numbers, so a table or a segment that reaches beyond the file
is found by comparing sums and nothing can wrap around.  Of the section that names the sections only
the end is formed, and it has to be a number of sixty-four bits.

Readers differ in what else they look at before they accept a file: symbols, relocations, notes.  So
whatever is made of the segments is made of those that any `Reader` finds.
-/

namespace Testbench

namespace Elf

/-- What is amiss in a program file. -/
inductive Defect where
  | tooShortForMagic
  | unknownMagic
  | header
  | unsupported
  | noSectionsForSegmentCount
  | sectionEntrySize
  | firstSection
  | segmentEntrySize
  | segmentTable
  | sectionTable
  | noNameTable
  | nameTableIndex
  | nameTableSize
  | segmentContents
  /-- What another reader finds amiss. -/
  | other (text : String)
  deriving DecidableEq, Repr, Inhabited

/-- The text of a defect. -/
def Defect.message : Defect → String
  | .tooShortForMagic => "Could not read file magic"
  | .unknownMagic => "Unknown file magic"
  | .header => "Invalid ELF header size or alignment"
  | .unsupported => "Unsupported ELF header"
  | .noSectionsForSegmentCount => "Missing ELF section headers for e_phnum overflow"
  | .sectionEntrySize => "Invalid ELF section header entry size"
  | .firstSection => "Invalid ELF section header offset or size"
  | .segmentEntrySize => "Invalid ELF program header entry size"
  | .segmentTable => "Invalid ELF program header size or alignment"
  | .sectionTable => "Invalid ELF section header offset/size/alignment"
  | .noNameTable => "Missing ELF e_shstrndx"
  | .nameTableIndex => "Invalid ELF e_shstrndx"
  | .nameTableSize => "Invalid ELF shstrtab size"
  | .segmentContents => "Invalid ELF segment size or offset"
  | .other text => text

/-- The bytes that every program file begins with. -/
def magic : List UInt8 := [0x7F, 0x45, 0x4C, 0x46]

/-- Does the file begin as a program file does? -/
def isElf (file : Array UInt8) : Bool := (file.extract 0 4).toList == magic

/-- Where the fields of a segment table entry lie. -/
structure SegmentFields where
  /-- The position of the contents in the file. -/
  offset : Nat
  /-- The address of the first byte in memory. -/
  address : Nat
  /-- The size of the contents in the file. -/
  fileSize : Nat
  /-- The size in memory. -/
  memorySize : Nat
  deriving DecidableEq, Repr, Inhabited

/-- Where the fields of a section table entry lie. -/
structure SectionFields where
  /-- The kind of the section. -/
  kind : Nat
  /-- The position of the contents in the file. -/
  offset : Nat
  /-- The size of the contents. -/
  size : Nat
  /-- The index of another section that belongs to this one. -/
  link : Nat
  /-- A further number, whose meaning depends on the kind. -/
  information : Nat
  deriving DecidableEq, Repr, Inhabited

/-- Where the fields of the header and of table entries lie, and how many bytes an address takes. -/
structure Layout where
  /-- The size of the header. -/
  headerSize : Nat
  /-- The number of bytes of addresses, offsets and sizes. -/
  addressSize : Nat
  /-- The header's field with the position of the segment table. -/
  segmentTable : Nat
  /-- The header's field with the position of the section table. -/
  sectionTable : Nat
  /-- The header's first two-byte field from the size of segment entries on. -/
  counts : Nat
  /-- The size of an entry of the segment table. -/
  segmentEntry : Nat
  /-- The size of an entry of the section table. -/
  sectionEntry : Nat
  /-- The fields of an entry of the segment table. -/
  segmentFields : SegmentFields
  /-- The fields of an entry of the section table. -/
  sectionFields : SectionFields
  deriving DecidableEq, Repr, Inhabited

/-- The layout of files with four-byte addresses. -/
def Layout.narrow : Layout where
  headerSize := 52
  addressSize := 4
  segmentTable := 28
  sectionTable := 32
  counts := 42
  segmentEntry := 32
  sectionEntry := 40
  segmentFields := { offset := 4, address := 8, fileSize := 16, memorySize := 20 }
  sectionFields := { kind := 4, offset := 16, size := 20, link := 24, information := 28 }

/-- The layout of files with eight-byte addresses. -/
def Layout.wide : Layout where
  headerSize := 64
  addressSize := 8
  segmentTable := 32
  sectionTable := 40
  counts := 54
  segmentEntry := 56
  sectionEntry := 64
  segmentFields := { offset := 8, address := 16, fileSize := 32, memorySize := 40 }
  sectionFields := { kind := 4, offset := 24, size := 32, link := 40, information := 44 }

/-- The number in little-endian bytes. -/
def ofBytes : List UInt8 → Nat
  | [] => 0
  | byte :: rest => byte.toNat + 256 * ofBytes rest

end Elf

/-- A program file whose header was recognised. -/
structure Elf where
  /-- The bytes of the file. -/
  file : Array UInt8
  /-- Where its fields lie. -/
  layout : Elf.Layout
  /-- Whether the most significant byte of a field comes first. -/
  bigEndian : Bool
  deriving DecidableEq, Repr, Inhabited

namespace Elf

/-- The number in the `size` bytes at a position. -/
def field (e : Elf) (position size : Nat) : Nat :=
  let bytes := (e.file.extract position (position + size)).toList
  ofBytes (if e.bigEndian then bytes.reverse else bytes)

/-- An address, offset or size at a position. -/
def address (e : Elf) (position : Nat) : Nat := e.field position e.layout.addressSize

/-- The position of the segment table. -/
def segmentTable (e : Elf) : Nat := e.address e.layout.segmentTable

/-- The position of the section table. -/
def sectionTable (e : Elf) : Nat := e.address e.layout.sectionTable

/-- One of the two-byte fields at the end of the header. -/
def count (e : Elf) (index : Nat) : Nat := e.field (e.layout.counts + 2 * index) 2

/-- The size of segment entries that the header gives. -/
def segmentEntry (e : Elf) : Nat := e.count 0

/-- The number of segments that the header gives. -/
def segmentCount (e : Elf) : Nat := e.count 1

/-- The size of section entries that the header gives. -/
def sectionEntry (e : Elf) : Nat := e.count 2

/-- The number of sections that the header gives. -/
def sectionCount (e : Elf) : Nat := e.count 3

/-- The index of the section that names the sections. -/
def nameTable (e : Elf) : Nat := e.count 4

/-- The value of a two-byte field that refers to the first section for the real one. -/
def escaped : Nat := 0xFFFF

/-- Does a stretch lie inside the file? -/
def inside (e : Elf) (position size : Nat) : Bool := position + size ≤ e.file.size

/-- Recognises the header. -/
def ofFile (file : Array UInt8) : Except Defect Elf := do
  if file.size < 16 then throw .tooShortForMagic
  let layout ← match file.getD 4 0 with
    | 1 => pure Layout.narrow
    | 2 => pure Layout.wide
    | _ => throw .unknownMagic
  if file.size < layout.headerSize then throw .header
  let order := file.getD 5 0
  if (order ≠ 1 ∧ order ≠ 2) ∨ file.getD 6 0 ≠ 1 then throw .unsupported
  return ⟨file, layout, order == 2⟩

/-- The position of the first section's entry, if there is a section table. -/
def firstSection (e : Elf) : Except Defect (Option Nat) := do
  if e.sectionTable = 0 then return none
  if e.sectionEntry ≠ e.layout.sectionEntry then throw .sectionEntrySize
  if !e.inside e.sectionTable e.layout.sectionEntry then throw .firstSection
  return some e.sectionTable

/-- The positions of the segment entries. -/
def segmentEntries (e : Elf) : Except Defect (List Nat) := do
  if e.segmentTable = 0 then return []
  let count ←
    if e.segmentCount < escaped then pure e.segmentCount
    else match ← e.firstSection with
      | some position => pure (e.field (position + e.layout.sectionFields.information) 4)
      | none => throw .noSectionsForSegmentCount
  if count = 0 then return []
  if e.segmentEntry ≠ e.layout.segmentEntry then throw .segmentEntrySize
  if !e.inside e.segmentTable (count * e.layout.segmentEntry) then throw .segmentTable
  return (List.range count).map fun i => e.segmentTable + i * e.layout.segmentEntry

/-- The number of sections.  A count of zero in the header refers to the first section. -/
def sectionTotal (e : Elf) : Except Defect Nat := do
  if e.sectionTable = 0 then return 0
  if e.sectionCount ≠ 0 then return e.sectionCount
  match ← e.firstSection with
  | some position => return e.address (position + e.layout.sectionFields.size)
  | none => return 0

/-- The kind of sections without contents in the file. -/
def contentless : Nat := 8

/-- The least number that is no position: `2 ^ 64`. -/
def positionBound : Nat := 0x1_0000_0000_0000_0000

/-- Does a section, given by its entry, claim contents whose end is no position at all? -/
def wraps (e : Elf) (entry : Nat) : Bool :=
  e.field (entry + e.layout.sectionFields.kind) 4 ≠ contentless
    && positionBound ≤ e.address (entry + e.layout.sectionFields.offset)
      + e.address (entry + e.layout.sectionFields.size)

/-- Checks the section table, and the index and the extent of the section that names the sections.
The contents of that section are not looked at and may lie beyond the file. -/
def checkSections (e : Elf) : Except Defect Unit := do
  let count ← e.sectionTotal
  if count = 0 then return ()
  if e.sectionEntry ≠ e.layout.sectionEntry then throw .sectionEntrySize
  if !e.inside e.sectionTable (count * e.layout.sectionEntry) then throw .sectionTable
  let index :=
    if e.nameTable = escaped then e.field (e.sectionTable + e.layout.sectionFields.link) 4
    else e.nameTable
  if index = 0 then throw .noNameTable
  if count ≤ index then throw .nameTableIndex
  if e.wraps (e.sectionTable + index * e.layout.sectionEntry) then throw .nameTableSize

/-- A loadable segment: where it goes, how much memory it takes, and what the file holds for it. -/
structure Segment where
  /-- The address of its first byte. -/
  address : Nat
  /-- The bytes it takes in memory. -/
  memorySize : Nat
  /-- The bytes that the file holds for it. -/
  contents : Array UInt8
  deriving DecidableEq, Repr, Inhabited

/-- The segment of an entry, unless its contents reach beyond the file. -/
def segment (e : Elf) (entry : Nat) : Except Defect Segment :=
  let fields := e.layout.segmentFields
  let position := e.address (entry + fields.offset)
  let size := e.address (entry + fields.fileSize)
  if e.inside position size then
    .ok ⟨e.address (entry + fields.address), e.address (entry + fields.memorySize),
      e.file.extract position (position + size)⟩
  else .error .segmentContents

/-- The kind of segments that are loaded. -/
def loadable : Nat := 1

/-- A way to read program files: the loadable segments of a file in table order, or what is amiss
with the file.  Whether the contents of a segment can be read is said segment by segment. -/
abbrev Reader := Array UInt8 → Except Defect (List (Except Defect Segment))

/-- The reader that looks at the header and at the two tables, and at nothing else. -/
def segments (file : Array UInt8) : Except Defect (List (Except Defect Segment)) := do
  let e ← ofFile file
  let entries ← e.segmentEntries
  e.checkSections
  return (entries.filter fun entry => e.field entry 4 == loadable).map e.segment

end Elf

end Testbench
