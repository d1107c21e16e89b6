import Testbench.Proofs.SettingUp
import Testbench.Proofs.TimingRange
import Testbench.Proofs.WordBytes

/-!
# The program in both memories

A program image goes into two stores that know nothing of each other.  Local memory consists of
words and takes each byte into a lane of one of them.  The memory behind the bus is a row of bytes
from its base on; it takes the same image, or that of a file of its own, cut to as many bytes as are
asked for.  Both end up with contents from an offset on and zeros everywhere else (`ShowsAt`).
Where nothing but the offsets is configured, a word on the bus and the four bytes of local memory at
the same place of the image are the same bytes.

The two placements are the only steps of setting up a bench that can find an image too large
(`placement`).  They refuse it if its length and its offset together exceed the size of the store,
and place it otherwise; but a store larger than any store can be is not made in the first place
(`placement_agrees`), and then nobody compares the image with it (`oversized_store_breaks_off`).
-/

namespace Testbench

/-- A store, given byte by byte, shows contents from an offset on and zeros everywhere else. -/
structure ShowsAt (byteAt : Nat → UInt8) (contents : Array UInt8) (offset : Nat) : Prop where
  inside : ∀ i < contents.size, contents[i]? = some (byteAt (offset + i))
  outside : ∀ j, j < offset ∨ offset + contents.size ≤ j → byteAt j = 0

theorem ShowsAt.of_byteAt_eq {byteAt : Nat → UInt8} {contents : Array UInt8} {offset : Nat}
    (h : ∀ j, byteAt j = if offset ≤ j then contents.getD (j - offset) 0 else 0) :
    ShowsAt byteAt contents offset where
  inside := by
    intro i hi
    rw [h, if_pos (Nat.le_add_right ..), Nat.add_sub_cancel_left]
    simp [hi]
  outside := by
    intro j hj
    rw [h]
    split
    · have hge : ¬ j - offset < contents.size := by omega
      simp [hge]
    · rfl

/-! ## Local memory -/

namespace LocalMemory

theorem sizeBytes_zeroed {n : Nat} (h : n % 4 = 0) : (zeroed n).sizeBytes = n := by
  rw [sizeBytes, size_zeroed, Word.laneCount]
  omega

/-- A new memory takes contents that fit, and shows them then. -/
theorem showsAt_load {m : LocalMemory} {n : Nat} {contents : Array UInt8} {offset : Nat}
    (h : (zeroed n).load contents offset = .ok m) : ShowsAt m.byteAt contents offset := by
  obtain ⟨hfits, rfl⟩ := load_eq_ok_iff.1 h
  apply ShowsAt.of_byteAt_eq
  intro j
  rw [byteAt_place _ _ _ _ (by simpa using hfits), byteAt_zeroed]
  simp [Array.getD_eq_getD_getElem?, List.getD_eq_getElem?_getD]

end LocalMemory

/-- An image that is in a new memory was loaded there. -/
theorem Image.load_of_inLocalMemory {image : Image} {config : Config.Memory} {m : LocalMemory}
    (h : image.inLocalMemory config = .ok m) :
    (LocalMemory.zeroed config.sizeBytes).load image.bytes config.loadOffset = .ok m := by
  rw [inLocalMemory, LocalMemory.ofSize_eq] at h
  split at h
  · exact of_mapError_eq_ok h
  · cases h

/-! ## The memory behind the bus -/

namespace Ddr

variable {files : Directory} {config : Config.Ddr} {image : Image} {reader : Elf.Reader}
  {bytes : Array UInt8} {d : Ddr}

/-- What the memory behind the bus is filled with: the image of its own file, if it has one, or else
the program, and of that as many bytes as are asked for. -/
structure Fills (files : Directory) (config : Config.Ddr) (reader : Elf.Reader)
    (program source : Image) (bytes : Array UInt8) : Prop where
  own : ∀ path, config.initFile = some path → Image.ofFile files path reader = .ok source
  shared : config.initFile = none → source = program
  cut : ∀ n, config.numBytes = some n → bytes.toList = source.bytes.toList.take n
  whole : config.numBytes = none → bytes = source.bytes

/-- Where nothing is configured about them, the contents are the whole program. -/
theorem Fills.eq_program {program source : Image}
    (h : Fills files config reader program source bytes) (hfile : config.initFile = none)
    (hnumber : config.numBytes = none) : bytes = program.bytes := by
  rw [h.whole hnumber, h.shared hfile]

/-- The contents come from a file of its own or from the program. -/
theorem exists_fills (h : contents files config image reader = .ok bytes) :
    ∃ source, Fills files config reader image source bytes := by
  rw [contents_eq_bind] at h
  obtain ⟨source, hsource, h⟩ := exists_of_bind_eq_ok h
  refine ⟨source, ?_, ?_, ?_, ?_⟩
  · intro path hpath
    rwa [source_of_file hpath] at hsource
  · intro hnone
    rw [source_of_no_file hnone] at hsource
    cases hsource
    rfl
  · intro n hn
    rw [hn] at h
    cases h
    simp
  · intro hnone
    rw [hnone] at h
    cases h
    rfl

/-- There are contents if there is an image in the file of its own. -/
theorem exists_contents (h : ∀ path, config.initFile = some path →
      ∃ source, Image.ofFile files path reader = .ok source) :
    ∃ bytes, contents files config image reader = .ok bytes := by
  obtain ⟨image', hsource⟩ : ∃ image', source files config image reader = .ok image' := by
    cases hfile : config.initFile with
    | none => exact ⟨image, source_of_no_file hfile⟩
    | some path =>
        rw [source_of_file hfile]
        exact h path hfile
  rw [contents_eq_bind, hsource]
  cases config.numBytes with
  | none => exact ⟨_, rfl⟩
  | some n => exact ⟨_, rfl⟩

/-- A memory that is filled shows its contents. -/
theorem exists_showsAt (h : ofConfig files config image reader = .ok d) :
    ∃ bytes, contents files config image reader = .ok bytes
      ∧ d.base = config.base ∧ d.store.size = config.sizeBytes
      ∧ config.fileOffset + bytes.size ≤ config.sizeBytes
      ∧ ShowsAt d.store.byteAt bytes config.fileOffset := by
  obtain ⟨bytes, hcontents, -, -, hfilled⟩ := exists_load h
  obtain ⟨store, hload, rfl⟩ := exists_of_map_eq_ok hfilled
  have hfits := (ByteStore.load_eq_ok_iff.1 hload).1
  have hstore := (ByteStore.load_eq_ok_iff.1 hload).2
  have hsize : (zeroed config.sizeBytes config.base (.new config.timing)).store.size
      = config.sizeBytes := ByteStore.size_zeroed _
  refine ⟨bytes, hcontents, rfl, ?_, hsize ▸ hfits, ?_⟩
  · show store.size = _
    rw [hstore, ByteStore.size_place, hsize]
  · apply ShowsAt.of_byteAt_eq
    intro j
    show store.byteAt j = _
    rw [ByteStore.byteAt_load hload]
    simp [zeroed]

/-- A word on the bus consists of the contents at its place. -/
theorem lane_read (hshows : ShowsAt d.store.byteAt bytes config.fileOffset)
    (hbase : d.base = config.base) (hsize : config.fileOffset + bytes.size ≤ d.store.size)
    {i k : Nat} (hi : i + 4 ≤ bytes.size) (hk : k < 4) :
    bytes[i + k]? = some (Word.lane (d.read (config.base + config.fileOffset + i)) k) := by
  have hoffset : d.offset? (config.base + config.fileOffset + i)
      = some (config.fileOffset + i) := by
    rw [offset?_eq_some_iff, hbase, Word.laneCount]
    omega
  rw [read, hoffset]
  show _ = some (Word.lane (d.store.readWord _) k)
  rw [ByteStore.readWord, Word.lane_ofLanes _ hk, Nat.add_assoc]
  exact hshows.inside (i + k) (by omega)

end Ddr

/-! ## Making a store and filling it -/

/-- What comes of making a store of some size and filling it up to some end: the store is too large
to be made, or ends before its contents, or takes them. -/
inductive Filling {α : Type} (size last : Nat) : Except SetupError α → Prop
  /-- There is no store of this size. -/
  | oversized : Overflow.greatestStore < size → Filling size last (.error (.overflow .capacity))
  /-- The contents run over the end. -/
  | overrun (o : Overrun) : size ≤ Overflow.greatestStore → size < last →
      Filling size last (.error (.overrun o))
  /-- The contents are in the store. -/
  | filled (a : α) : size ≤ Overflow.greatestStore → last ≤ size → Filling size last (.ok a)

namespace Filling

variable {α : Type} {size last : Nat} {x : Except SetupError α}

theorem oversized_iff (h : Filling size last x) :
    x = .error (.overflow .capacity) ↔ Overflow.greatestStore < size := by
  cases h with
  | oversized hlarge => exact iff_of_true rfl hlarge
  | overrun o hsize hlast => exact iff_of_false (by simp) (Nat.not_lt.2 hsize)
  | filled a hsize hlast => exact iff_of_false (by simp) (Nat.not_lt.2 hsize)

theorem overrun_iff (h : Filling size last x) :
    (∃ o, x = .error (.overrun o)) ↔ size ≤ Overflow.greatestStore ∧ size < last := by
  cases h with
  | oversized hlarge => exact iff_of_false (by simp) fun hfits => Nat.not_lt.2 hfits.1 hlarge
  | overrun o hsize hlast => exact iff_of_true ⟨o, rfl⟩ ⟨hsize, hlast⟩
  | filled a hsize hlast => exact iff_of_false (by simp) fun hruns => Nat.not_lt.2 hlast hruns.2

theorem filled_iff (h : Filling size last x) :
    (∃ a, x = .ok a) ↔ size ≤ Overflow.greatestStore ∧ last ≤ size := by
  cases h with
  | oversized hlarge => exact iff_of_false (by simp) fun hfits => Nat.not_lt.2 hfits.1 hlarge
  | overrun o hsize hlast => exact iff_of_false (by simp) fun hfits => Nat.not_lt.2 hfits.2 hlast
  | filled a hsize hlast => exact iff_of_true ⟨a, rfl⟩ ⟨hsize, hlast⟩

end Filling

/-- An image goes into a new local memory of whole words as into any store. -/
theorem Image.filling_inLocalMemory (image : Image) {config : Config.Memory}
    (hwords : config.sizeBytes % 4 = 0) :
    Filling config.sizeBytes (config.loadOffset + image.size) (image.inLocalMemory config) := by
  have hcapacity := LocalMemory.sizeBytes_zeroed hwords
  rw [inLocalMemory, LocalMemory.ofSize_eq]
  split
  · rename_i hsize
    show Filling _ _ (image.loadInto (.zeroed config.sizeBytes) config.loadOffset)
    rw [loadInto, LocalMemory.load, hcapacity]
    split
    · rename_i hfits
      exact .filled _ hsize hfits
    · rename_i hlast
      exact .overrun _ hsize (Nat.lt_of_not_le hlast)
  · rename_i hlarge
    exact .oversized (Nat.lt_of_not_le hlarge)

/-- So do the contents of the memory behind the bus, where rows are not too large. -/
theorem Ddr.filling_ofConfig {files : Directory} {config : Config.Ddr} {image : Image}
    {reader : Elf.Reader} {bytes : Array UInt8}
    (hcontents : contents files config image reader = .ok bytes)
    (hrow : config.timing.rowFits = true) :
    Filling config.sizeBytes (config.fileOffset + bytes.size)
      (ofConfig files config image reader) := by
  have hstore : (zeroed config.sizeBytes config.base (.new config.timing)).store.size
      = config.sizeBytes := ByteStore.size_zeroed _
  rw [ofConfig_of_contents hcontents hrow]
  split
  · rename_i hsize
    rw [load, ByteStore.load, hstore]
    split
    · rename_i hfits
      exact .filled _ hsize hfits
    · rename_i hlast
      exact .overrun _ hsize (Nat.lt_of_not_le hlast)
  · rename_i hlarge
    exact .oversized (Nat.lt_of_not_le hlarge)

/-! ## Both -/

namespace Setup

variable {files : Directory} {device : Replay} {image : Image} {config : Config} {b : Bench}
  {reader : Elf.Reader}

/-- Places an image in a local memory, and then what fills the memory behind the bus. -/
def placement (files : Directory) (image : Image) (config : Config) (reader : Elf.Reader) :
    Except SetupError (LocalMemory × Ddr) := do
  let memory ← image.inLocalMemory config.memory
  let ddr ← Ddr.ofConfig files config.ddr image reader
  .ok (memory, ddr)

/-- With a memory behind the bus in an accepted configuration, filling the stores is placing. -/
theorem stores_eq_placement (hvalid : config.validate = .ok ())
    (henabled : config.ddr.enabled = true) : stores files image config reader
      = (placement files image config reader).map fun placed => (placed.1, .memory placed.2) := by
  unfold stores placement
  simp only [hvalid, henabled, if_true]
  cases image.inLocalMemory config.memory with
  | error e => rfl
  | ok memory => cases Ddr.ofConfig files config.ddr image reader <;> rfl

/-- A bench that is set up with a memory behind the bus has the two stores that were filled. -/
theorem placement_of_ofConfig (hvalid : config.validate = .ok ())
    (henabled : config.ddr.enabled = true)
    (h : (ofConfig files device image config reader).result = .ok b) :
    ∃ d, b.peripheral = .memory d
      ∧ placement files image config reader = .ok (b.memory, d) := by
  obtain ⟨events, memory, peripheral, hstores, hbench⟩ := exists_stores h
  rw [stores_eq_placement hvalid henabled] at hstores
  obtain ⟨placed, hplaced, hpair⟩ := exists_of_map_eq_ok hstores
  cases hpair
  obtain ⟨-, uart, -, rfl⟩ := bench_connect hbench
  exact ⟨placed.2, rfl, hplaced⟩

/-- A set-up ends with the failure of a placement. -/
theorem ofConfig_of_placement_eq_error {e : SetupError} (hvalid : config.validate = .ok ())
    (henabled : config.ddr.enabled = true) (h : placement files image config reader = .error e) :
    (ofConfig files device image config reader).result = .error e := by
  obtain ⟨events, hsetup⟩ := ofConfig_eq files device image config reader
  rw [hsetup, stores_eq_placement hvalid henabled, h]
  rfl

/-- Placing fails as it does for local memory or, where the image goes there, for the memory behind
the bus. -/
theorem placement_eq_error_iff {e : SetupError} : placement files image config reader = .error e
    ↔ image.inLocalMemory config.memory = .error e
      ∨ ((∃ memory, image.inLocalMemory config.memory = .ok memory)
        ∧ Ddr.ofConfig files config.ddr image reader = .error e) := by
  rw [placement, bind_eq_error_iff]
  simp only [bind_eq_error_iff, reduceCtorEq, and_false, exists_false, or_false,
    exists_and_right]

/-- Placing goes well if it does in both. -/
theorem exists_placement_iff : (∃ placed, placement files image config reader = .ok placed)
    ↔ (∃ memory, image.inLocalMemory config.memory = .ok memory)
      ∧ ∃ d, Ddr.ofConfig files config.ddr image reader = .ok d := by
  constructor
  · rintro ⟨placed, hplaced⟩
    obtain ⟨memory, hmemory, hplaced⟩ := exists_of_bind_eq_ok hplaced
    obtain ⟨d, hd, -⟩ := exists_of_bind_eq_ok hplaced
    exact ⟨⟨memory, hmemory⟩, d, hd⟩
  · rintro ⟨⟨memory, hmemory⟩, d, hd⟩
    refine ⟨(memory, d), ?_⟩
    rw [placement, hmemory, hd]
    rfl

/-- The local memory of an accepted configuration consists of whole words. -/
theorem wholeWords_of_validate (h : config.validate = .ok ()) :
    config.memory.sizeBytes % 4 = 0 := by
  have hdefect : config.defect? = none := by
    unfold Config.validate at h
    split at h
    · cases h
    · assumption
  exact (Config.defect?_eq_none_iff.1 hdefect).1.2

/-- **The program is placed alike in both memories.**  Take a configuration that is accepted and has
a memory behind the bus, and any reader of program files.  Every bench that is set up with it has
the image in local memory, from its offset there on, and in the memory behind the bus the contents
that fill it, from their offset on; everything else is zero.  If these contents are the whole
program, then a word on the bus and four bytes of local memory at the same place of the image are
the bytes of the image.

Conversely, let the file that fills the memory behind the bus be an image, if there is one, and rows
be no larger than half of the address space.  The two stores are made and filled one after the
other. The program is refused as too large exactly if one of them ends before what goes into it and
can be made, the first one being large enough where it is the second.  It is placed exactly if both
can be made and are large enough.  In all other cases one of them is larger than any store can be,
and setting up breaks off.  A set-up fails as placing does. -/
theorem placement_agrees (files : Directory) (device : Replay) (image : Image) (config : Config)
    (reader : Elf.Reader) (hvalid : config.validate = .ok ())
    (henabled : config.ddr.enabled = true) :
    (∀ b, (ofConfig files device image config reader).result = .ok b →
      ∃ d source bytes, b.peripheral = .memory d
        ∧ Ddr.Fills files config.ddr reader image source bytes
        ∧ b.memory.sizeBytes = config.memory.sizeBytes
        ∧ ShowsAt b.memory.byteAt image.bytes config.memory.loadOffset
        ∧ d.base = config.ddr.base ∧ d.store.size = config.ddr.sizeBytes
        ∧ ShowsAt d.store.byteAt bytes config.ddr.fileOffset
        ∧ (config.ddr.initFile = none → config.ddr.numBytes = none →
            ∀ i, i + 4 ≤ image.size → ∀ address : UInt64,
              address.toNat = config.ddr.base + config.ddr.fileOffset + i → ∀ k < 4,
                image.bytes[i + k]? = some (Word.lane (d.read address.toNat) k)
                  ∧ image.bytes[i + k]?
                    = some (b.memory.byteAt (config.memory.loadOffset + i + k))))
      ∧ ((∀ path, config.ddr.initFile = some path →
            ∃ source, Image.ofFile files path reader = .ok source) →
          (config.ddr.controller = .dram → config.ddr.rowBytes ≤ 0x8000_0000_0000_0000) →
          ∃ source bytes, Ddr.Fills files config.ddr reader image source bytes
            ∧ ((∃ o, placement files image config reader = .error (.overrun o))
                ↔ config.memory.sizeBytes ≤ Overflow.greatestStore
                  ∧ (config.memory.sizeBytes < config.memory.loadOffset + image.size
                    ∨ config.ddr.sizeBytes ≤ Overflow.greatestStore
                      ∧ config.ddr.sizeBytes < config.ddr.fileOffset + bytes.size))
            ∧ ((∃ stores, placement files image config reader = .ok stores)
                ↔ config.memory.sizeBytes ≤ Overflow.greatestStore
                  ∧ config.ddr.sizeBytes ≤ Overflow.greatestStore
                  ∧ config.memory.loadOffset + image.size ≤ config.memory.sizeBytes
                  ∧ config.ddr.fileOffset + bytes.size ≤ config.ddr.sizeBytes)
            ∧ (placement files image config reader = .error (.overflow .capacity)
                ↔ Overflow.greatestStore < config.memory.sizeBytes
                  ∨ config.memory.loadOffset + image.size ≤ config.memory.sizeBytes
                    ∧ Overflow.greatestStore < config.ddr.sizeBytes))
      ∧ ∀ e, placement files image config reader = .error e →
          (ofConfig files device image config reader).result = .error e := by
  have hwords := wholeWords_of_validate hvalid
  refine ⟨?_, ?_, fun e he => ofConfig_of_placement_eq_error hvalid henabled he⟩
  · intro b hb
    obtain ⟨d, hd, hplacement⟩ := placement_of_ofConfig hvalid henabled hb
    obtain ⟨memory, hmemory, hplacement⟩ := exists_of_bind_eq_ok hplacement
    obtain ⟨filled, hfilled, hplacement⟩ := exists_of_bind_eq_ok hplacement
    cases hplacement
    have hload := Image.load_of_inLocalMemory hmemory
    obtain ⟨bytes, hbytes, hbase, hstore, hfits, hshows⟩ := Ddr.exists_showsAt hfilled
    obtain ⟨source, hfills⟩ := Ddr.exists_fills hbytes
    have hlocal := LocalMemory.showsAt_load hload
    refine ⟨d, source, bytes, hd, hfills, ?_, hlocal, hbase, hstore, hshows, ?_⟩
    · rw [(LocalMemory.load_eq_ok_iff.1 hload).2, LocalMemory.sizeBytes, LocalMemory.size_place]
      exact LocalMemory.sizeBytes_zeroed hwords
    · intro hfile hnumber i hi address haddress k hk
      obtain rfl := hfills.eq_program hfile hnumber
      rw [haddress]
      refine ⟨Ddr.lane_read hshows hbase (hstore ▸ hfits) hi hk, ?_⟩
      rw [Nat.add_assoc]
      exact hlocal.inside (i + k) (Nat.lt_of_lt_of_le (Nat.add_lt_add_left hk i) hi)
  · intro hfile hrow
    obtain ⟨bytes, hbytes⟩ : ∃ bytes, Ddr.contents files config.ddr image reader = .ok bytes :=
      Ddr.exists_contents hfile
    obtain ⟨source, hfills⟩ := Ddr.exists_fills hbytes
    have hlocal := image.filling_inLocalMemory hwords
    have hbus := Ddr.filling_ofConfig hbytes (Config.Ddr.rowFits_iff.2 hrow)
    refine ⟨source, bytes, hfills, ?_, ?_, ?_⟩
    · simp only [placement_eq_error_iff, exists_or, exists_and_left]
      rw [hlocal.overrun_iff, hlocal.filled_iff, hbus.overrun_iff]
      omega
    · rw [exists_placement_iff, hlocal.filled_iff, hbus.filled_iff]
      omega
    · rw [placement_eq_error_iff, hlocal.oversized_iff, hlocal.filled_iff, hbus.oversized_iff]
      omega

end Setup

namespace Sample

/-- A program of six bytes goes to the second word of local memory, and to the third byte of a
memory behind the bus that begins at `0x100`. -/
def placingConfig : Config where
  memory := { sizeBytes := 16, loadOffset := 4 }
  ddr := { enabled := true, base := 0x100, fileOffset := 2, sizeBytes := 8 }
  events := some ["stall"]

/-- Six bytes. -/
def sixBytes : Image where
  bytes := #[1, 2, 3, 4, 5, 6]

/-- The memory behind the bus has half of the address space, and its contents begin at its end. -/
def oversizedConfig : Config where
  memory := { sizeBytes := 16 }
  ddr := { enabled := true, fileOffset := 0x8000_0000_0000_0000,
           sizeBytes := 0x8000_0000_0000_0000 }
  events := some ["stall"]

end Sample

namespace Setup

/-- The second to fifth byte are at `0x103` on the bus and at offset five of local memory. -/
theorem six_bytes_placed :
    Sample.placingConfig.validate = .ok () ∧ Sample.placingConfig.ddr.enabled = true
      ∧ ∃ b d, (ofConfig .empty (.start Sample.askingTrace) Sample.sixBytes
            Sample.placingConfig).result = .ok b
          ∧ b.peripheral = .memory d
          ∧ ∀ k < 4, Word.lane (d.read 0x103) k = b.memory.byteAt (5 + k) := by
  refine ⟨rfl, rfl, ?_⟩
  obtain ⟨hplaced, -, -⟩ :=
    placement_agrees .empty (.start Sample.askingTrace) Sample.sixBytes Sample.placingConfig
      Elf.segments rfl rfl
  obtain ⟨d, source, bytes, hd, -, -, -, -, -, -, hwords⟩ := hplaced _ rfl
  refine ⟨_, d, rfl, hd, ?_⟩
  intro k hk
  obtain ⟨hbus, hlocal⟩ := hwords rfl rfl 1 (by decide) 0x103 (by decide) k hk
  exact Option.some.inj (hbus.symm.trans hlocal)

/-- Six bytes from the end of a store of half of the address space on do not fit there, and yet they
are not refused: the store is not made. -/
theorem oversized_store_breaks_off :
    Sample.oversizedConfig.validate = .ok () ∧ Sample.oversizedConfig.ddr.enabled = true
      ∧ Sample.oversizedConfig.ddr.sizeBytes
        < Sample.oversizedConfig.ddr.fileOffset + Sample.sixBytes.size
      ∧ (∃ memory, Sample.sixBytes.inLocalMemory Sample.oversizedConfig.memory = .ok memory)
      ∧ ¬ ∃ o, placement .empty Sample.sixBytes Sample.oversizedConfig Elf.segments
          = .error (.overrun o) := by
  have hlocal : ∃ memory, Sample.sixBytes.inLocalMemory Sample.oversizedConfig.memory
      = .ok memory := ⟨_, rfl⟩
  have hbus : Ddr.ofConfig .empty Sample.oversizedConfig.ddr Sample.sixBytes Elf.segments
      = .error (.overflow .capacity) :=
    Ddr.ofConfig_eq_overflow_iff.2 ⟨⟨_, rfl⟩, .inr ⟨rfl, by decide, rfl⟩⟩
  have hfailed : placement .empty Sample.sixBytes Sample.oversizedConfig Elf.segments
      = .error (.overflow .capacity) := placement_eq_error_iff.2 (.inr ⟨hlocal, hbus⟩)
  refine ⟨rfl, rfl, by decide, hlocal, ?_⟩
  rintro ⟨o, ho⟩
  rw [hfailed] at ho
  cases ho

end Setup

end Testbench
