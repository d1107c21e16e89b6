import Testbench.Inputs
import Testbench.Placement
import Testbench.Proofs.Records

/-!
# Setting up, step by step

A set-up fills the stores (`Setup.stores`), and only if that went well opens the sink of the serial
port and connects the bench (`ofConfig_eq`).  From the steps it can be read off what the bench
consists of (`bench_connect`), what has become of the files (`files_ofConfig`) and what the set-up
can have failed for.

Of the causes of failure one is told apart, a number that leaves its range.  Nothing that is read
fails for it (`NeverOverflows`), and where it happens can be said exactly: in a trace with too many
ports or event signals (`Replay.ofFile_eq_overflow_iff`), in a row size that cannot be rounded up
and in the size of one of the two stores (`Setup.ofConfig_eq_overflow_iff`).
-/

namespace Testbench

/-! ## Failures that are not about a range -/

/-- The error, if there is one, is not about a range. -/
def NeverOverflows {α : Type} (x : Except SetupError α) : Prop := ∀ o, x ≠ .error (.overflow o)

theorem mapError_overflow_iff {α : Type} {x : Except Overflow α} {o : Overflow} :
    x.mapError SetupError.overflow = .error (.overflow o) ↔ x = .error o := by
  rw [mapError_eq_error_iff]
  simp

namespace NeverOverflows

variable {α β ε : Type}

theorem ok (a : α) : NeverOverflows (.ok a) := by
  intro o h
  cases h

theorem error {e : SetupError} (h : ∀ o, e ≠ .overflow o) : NeverOverflows (α := α) (.error e) := by
  intro o ho
  cases ho
  exact h o rfl

theorem bind {x : Except SetupError α} {f : α → Except SetupError β} (hx : NeverOverflows x)
    (hf : ∀ a, NeverOverflows (f a)) : NeverOverflows (x >>= f) := by
  intro o h
  rcases bind_eq_error_iff.1 h with hfirst | ⟨a, -, hnext⟩
  · exact hx o hfirst
  · exact hf a o hnext

/-- After a step that never overflows, an overflow is one of what follows. -/
theorem bind_eq_overflow_iff {x : Except SetupError α} {f : α → Except SetupError β}
    (hx : NeverOverflows x) {o : Overflow} :
    (x >>= f) = .error (.overflow o) ↔ ∃ a, x = .ok a ∧ f a = .error (.overflow o) := by
  rw [bind_eq_error_iff]
  exact or_iff_right (hx o)

theorem mapError {f : ε → SetupError} (hf : ∀ e o, f e ≠ .overflow o) (x : Except ε α) :
    NeverOverflows (x.mapError f) := by
  cases x with
  | error e => exact error (hf e)
  | ok a => exact ok a

end NeverOverflows

theorem Config.neverOverflows_ofFile (files : Directory) (path : String) :
    NeverOverflows (Config.ofFile files path) := by
  refine .bind (.mapError (by simp) _) fun text => ?_
  refine .bind (.mapError (by simp) _) fun config => ?_
  exact .bind (.mapError (by simp) _) fun _ => .ok _

theorem Trace.neverOverflows_ofFile (files : Directory) (path : String) :
    NeverOverflows (Trace.ofFile files path) :=
  .bind (.mapError (by simp) _) fun _ => .mapError (by simp) _

/-- A trace that fits has more ports or event signals than can be stored. -/
structure Trace.Unstorable (trace : Trace) : Prop where
  fits : trace.defect? = none
  large : Overflow.greatestStore < trace.ports * Replay.bytesPerPort
    ∨ Overflow.greatestStore < trace.eventWidth * Replay.bytesPerEvent

theorem Replay.ofTrace_eq_overflow_iff {trace : Trace} {o : Overflow} :
    Replay.ofTrace trace = .error (.overflow o) ↔ trace.Unstorable ∧ o = .capacity := by
  cases hdefect : trace.defect? with
  | some d =>
      have hfits : ¬ trace.Unstorable := by
        rintro ⟨hfits, -⟩
        rw [hdefect] at hfits
        cases hfits
      simp [ofTrace, hdefect, hfits]
  | none =>
      rw [ofTrace_of_fits hdefect]
      split
      · rename_i hstored
        have hfits : ¬ trace.Unstorable := by
          rintro ⟨-, hlarge⟩
          omega
        simp [hfits]
      · rename_i hlarge
        have hunstorable : trace.Unstorable := ⟨hdefect, by omega⟩
        simp [hunstorable, eq_comm]

/-- The device of a trace file leaves the range if the trace does. -/
theorem Replay.ofFile_eq_overflow_iff {files : Directory} {path : String} {o : Overflow} :
    Replay.ofFile files path = .error (.overflow o)
      ↔ ∃ trace, Trace.ofFile files path = .ok trace ∧ trace.Unstorable ∧ o = .capacity := by
  rw [ofFile, (Trace.neverOverflows_ofFile files path).bind_eq_overflow_iff]
  simp only [ofTrace_eq_overflow_iff]

namespace Image

theorem neverOverflows_occupied (found : List (Except Elf.Defect Elf.Segment)) :
    NeverOverflows (occupied found) := by
  fun_induction occupied found with
  | case1 => exact .ok _
  | case2 d rest => exact .error (by simp)
  | case3 s rest hspan ih => exact ih
  | case4 s rest hspan hstop => exact .error (by simp)
  | case5 s rest hspan hstop ih => exact .bind ih fun more => .ok _

theorem neverOverflows_flatten (segments : List Elf.Segment) :
    NeverOverflows (flatten segments) := by
  fun_cases flatten segments with
  | case1 => exact .error (by simp)
  | case2 => exact .error (by simp)
  | case3 => exact .ok _

theorem neverOverflows_ofFile (files : Directory) (path : String) (reader : Elf.Reader) :
    NeverOverflows (ofFile files path reader) := by
  refine .bind (.mapError (by simp) _) fun contents => .bind ?_ fun image => .ok _
  unfold ofBytes
  split
  · exact .bind (.mapError (by simp) _) fun found =>
      .bind (neverOverflows_occupied found) neverOverflows_flatten
  · split
    · exact .error (by simp)
    · exact .ok _

end Image

/-! ## The sink -/

/-- A new sink has captured nothing, and all that it did to the files is to open the log. -/
theorem Uart.Sink.ofConfig_eq_ok {files opened : Directory} {config : Config.Uart} {sink : Sink}
    (h : ofConfig files config = .ok (sink, opened)) :
    sink.captured = #[]
      ∧ (opened = files ∨ ∃ path place, config.logFile = some path
        ∧ files.openAppend path = .ok (place, opened)) := by
  have hnew : (if config.echo then capturing.withEcho {} else capturing).captured = #[] := by
    split <;> rfl
  unfold ofConfig at h
  dsimp only at h
  generalize (if config.echo then capturing.withEcho {} else capturing) = new at h hnew
  cases hlog : config.logFile with
  | none =>
      rw [hlog] at h
      cases h
      exact ⟨hnew, .inl rfl⟩
  | some path =>
      rw [hlog] at h
      obtain ⟨log, hopened, h⟩ := exists_of_bind_eq_ok h
      cases h
      exact ⟨hnew, .inr ⟨path, log.1, rfl, of_mapError_eq_ok hopened⟩⟩

theorem Uart.Sink.neverOverflows_ofConfig (files : Directory) (config : Config.Uart) :
    NeverOverflows (ofConfig files config) := by
  unfold ofConfig
  cases config.logFile with
  | none => exact .ok _
  | some path => exact .bind (.mapError (by simp) _) fun _ => .ok _

/-! ## The stores -/

namespace Ddr

variable {files : Directory} {config : Config.Ddr} {image : Image} {reader : Elf.Reader}

/-- The image that fills the memory behind the bus: that of its own file, if it has one, or else the
program. -/
def source (files : Directory) (config : Config.Ddr) (image : Image) (reader : Elf.Reader) :
    Except SetupError Image :=
  match config.initFile with
  | some path => Image.ofFile files path reader
  | none => .ok image

theorem source_of_file {path : String} (h : config.initFile = some path) :
    source files config image reader = Image.ofFile files path reader := by
  rw [source, h]

theorem source_of_no_file (h : config.initFile = none) :
    source files config image reader = .ok image := by
  rw [source, h]

/-- The contents are found in two steps: where they come from, and how many of them are used. -/
theorem contents_eq_bind (files : Directory) (config : Config.Ddr) (image : Image)
    (reader : Elf.Reader) :
    contents files config image reader = source files config image reader >>= fun source =>
      match config.numBytes with
      | some n => .ok (source.bytes.extract 0 n)
      | none => .ok source.bytes := by
  unfold contents source
  cases config.initFile <;> rfl

theorem neverOverflows_contents (files : Directory) (config : Config.Ddr) (image : Image)
    (reader : Elf.Reader) : NeverOverflows (contents files config image reader) := by
  rw [contents_eq_bind]
  refine .bind ?_ fun source => ?_
  · cases hfile : config.initFile with
    | none =>
        rw [source_of_no_file hfile]
        exact .ok _
    | some path =>
        rw [source_of_file hfile]
        exact Image.neverOverflows_ofFile files path reader
  · cases config.numBytes with
    | none => exact .ok _
    | some n => exact .ok _

/-- A store of zeros is made, or is too large. -/
theorem ofSize_eq (size base : Nat) (timer : AccessTimer) : ofSize size base timer =
    if size ≤ Overflow.greatestStore then .ok (zeroed size base timer) else .error .capacity := by
  unfold ofSize ByteStore.ofSize
  split
  · rename_i hfits
    rw [Overflow.reserve_of_le hfits]
    rfl
  · rename_i hlarge
    rw [Overflow.reserve_of_lt (Nat.lt_of_not_le hlarge)]
    rfl

/-- With contents and a row that fits, all depends on the size of the store and on whether the
contents fit there. -/
theorem ofConfig_of_contents {bytes : Array UInt8}
    (hcontents : contents files config image reader = .ok bytes)
    (hrow : config.timing.rowFits = true) :
    ofConfig files config image reader = if config.sizeBytes ≤ Overflow.greatestStore then
        ((zeroed config.sizeBytes config.base (.new config.timing)).load bytes
          config.fileOffset).mapError .overrun
      else .error (.overflow .capacity) := by
  rw [ofConfig, hcontents, AccessTimer.ofTiming_eq_ok_iff.2 ⟨hrow, rfl⟩]
  show ((ofSize config.sizeBytes config.base (.new config.timing)).mapError SetupError.overflow
    >>= fun ddr => (ddr.load bytes config.fileOffset).mapError .overrun) = _
  rw [ofSize_eq]
  split <;> rfl

/-- A memory that the settings describe is a new one with its contents loaded. -/
theorem exists_load {d : Ddr} (h : ofConfig files config image reader = .ok d) :
    ∃ bytes, contents files config image reader = .ok bytes ∧ config.timing.rowFits = true
      ∧ config.sizeBytes ≤ Overflow.greatestStore
      ∧ (zeroed config.sizeBytes config.base (.new config.timing)).load bytes config.fileOffset
        = .ok d := by
  obtain ⟨bytes, hbytes, hrest⟩ := exists_of_bind_eq_ok h
  obtain ⟨timer, htimer, -⟩ := exists_of_bind_eq_ok hrest
  obtain ⟨hrow, -⟩ := AccessTimer.ofTiming_eq_ok_iff.1 (of_mapError_eq_ok htimer)
  rw [ofConfig_of_contents hbytes hrow] at h
  split at h
  · rename_i hsize
    exact ⟨bytes, hbytes, hrow, hsize, of_mapError_eq_ok h⟩
  · cases h

/-- The memory behind the bus leaves the range, once there is something to fill it with, in its row
size or in its own size. -/
theorem ofConfig_eq_overflow_iff {o : Overflow} :
    ofConfig files config image reader = .error (.overflow o)
      ↔ (∃ bytes, contents files config image reader = .ok bytes)
        ∧ ((config.timing.rowFits = false ∧ o = .sum)
          ∨ (config.timing.rowFits = true ∧ Overflow.greatestStore < config.sizeBytes
              ∧ o = .capacity)) := by
  constructor
  · intro h
    obtain ⟨bytes, hbytes, hrest⟩ :=
      (neverOverflows_contents files config image reader).bind_eq_overflow_iff.1 h
    refine ⟨⟨bytes, hbytes⟩, ?_⟩
    cases hrow : config.timing.rowFits with
    | false =>
        rw [AccessTimer.ofTiming, hrow] at hrest
        cases hrest
        exact .inl ⟨rfl, rfl⟩
    | true =>
        rw [ofConfig_of_contents hbytes hrow] at h
        split at h
        · exact absurd h (NeverOverflows.mapError (by simp) _ o)
        · rename_i hlarge
          cases h
          exact .inr ⟨rfl, Nat.lt_of_not_le hlarge, rfl⟩
  · rintro ⟨⟨bytes, hbytes⟩, ⟨hrow, rfl⟩ | ⟨hrow, hlarge, rfl⟩⟩
    · rw [ofConfig, hbytes, AccessTimer.ofTiming, hrow]
      rfl
    · rw [ofConfig_of_contents hbytes hrow, if_neg (Nat.not_le.2 hlarge)]

end Ddr

/-- A new local memory is too large exactly if its bytes are. -/
theorem LocalMemory.ofSize_eq (sizeBytes : Nat) : ofSize sizeBytes =
    if sizeBytes ≤ Overflow.greatestStore then .ok (zeroed sizeBytes) else .error .capacity := by
  unfold ofSize
  split
  · rename_i hfits
    rw [Overflow.reserve_of_le (Nat.le_trans (Nat.div_mul_le_self _ _) hfits)]
    rfl
  · rename_i hlarge
    -- the greatest size is no multiple of a word, so taking whole words does not get below it
    have hwords : Overflow.greatestStore < sizeBytes / Word.laneCount * Word.laneCount := by
      unfold Overflow.greatestStore Word.laneCount at *
      omega
    rw [Overflow.reserve_of_lt hwords]
    rfl

theorem Image.inLocalMemory_eq_overflow_iff {image : Image} {config : Config.Memory}
    {o : Overflow} :
    image.inLocalMemory config = .error (.overflow o)
      ↔ Overflow.greatestStore < config.sizeBytes ∧ o = .capacity := by
  rw [inLocalMemory, LocalMemory.ofSize_eq, bind_eq_error_iff, mapError_overflow_iff]
  have hload : ∀ memory : LocalMemory,
      image.loadInto memory config.loadOffset ≠ .error (.overflow o) :=
    fun memory => NeverOverflows.mapError (by simp) _ o
  split
  · rename_i hfits
    simp [hload, Nat.not_lt.2 hfits]
  · rename_i hlarge
    simp [hload, Nat.lt_of_not_le hlarge, eq_comm]

namespace Setup

variable {files : Directory} {device : Replay} {image : Image} {config : Config} {b : Bench}
  {reader : Elf.Reader}

/-- What comes before the serial port: the configuration is checked, the image goes into local
memory and the memory behind the bus, if one is asked for, is filled. -/
def stores (files : Directory) (image : Image) (config : Config) (reader : Elf.Reader) :
    Except SetupError (LocalMemory × Peripheral) := do
  config.validate.mapError .config
  let memory ← image.inLocalMemory config.memory
  let peripheral ← if config.ddr.enabled then
      (Ddr.ofConfig files config.ddr image reader).map Peripheral.memory
    else .ok .idle
  .ok (memory, peripheral)

/-- What is connected to the bus is nothing or the memory that was filled. -/
theorem peripheral_stores {memory : LocalMemory} {peripheral : Peripheral}
    (h : stores files image config reader = .ok (memory, peripheral)) :
    peripheral = .idle
      ∨ ∃ d, Ddr.ofConfig files config.ddr image reader = .ok d ∧ peripheral = .memory d := by
  obtain ⟨_, -, h⟩ := exists_of_bind_eq_ok h
  obtain ⟨_, -, h⟩ := exists_of_bind_eq_ok h
  dsimp only at h
  split at h
  · obtain ⟨filled, hfilled, h⟩ := exists_of_bind_eq_ok h
    obtain ⟨d, hd, rfl⟩ := exists_of_map_eq_ok hfilled
    cases h
    exact .inr ⟨d, hd, rfl⟩
  · cases h
    exact .inl rfl

/-- **A set-up fills the stores and then connects the bench**, or fails with the files as they were.
-/
theorem ofConfig_eq (files : Directory) (device : Replay) (image : Image) (config : Config)
    (reader : Elf.Reader) :
    ∃ events, ofConfig files device image config reader
      = match stores files image config reader with
        | .error e => failed files events e
        | .ok (memory, peripheral) => connect files events device memory peripheral config := by
  unfold ofConfig stores
  cases config.validate with
  | error d => exact ⟨[], rfl⟩
  | ok _ =>
      cases image.inLocalMemory config.memory with
      | error e => exact ⟨[], rfl⟩
      | ok memory =>
          cases config.ddr.enabled with
          | false => exact ⟨[image.loadedEvent config.memory.loadOffset], rfl⟩
          | true =>
              dsimp only
              cases Ddr.ofConfig files config.ddr image reader with
              | error e => exact ⟨_, rfl⟩
              | ok d => exact ⟨_, rfl⟩

/-- A bench is built in the last part of a set-up. -/
theorem exists_stores (h : (ofConfig files device image config reader).result = .ok b) :
    ∃ events memory peripheral, stores files image config reader = .ok (memory, peripheral)
      ∧ (connect files events device memory peripheral config).result = .ok b := by
  obtain ⟨events, heq⟩ := ofConfig_eq files device image config reader
  rw [heq] at h
  cases hstores : stores files image config reader with
  | error e =>
      rw [hstores] at h
      cases h
  | ok filled =>
      rw [hstores] at h
      exact ⟨events, filled.1, filled.2, rfl, h⟩

/-- The last part of a set-up puts a bench around what it is given. -/
theorem bench_connect {events : List Event} {memory : LocalMemory} {peripheral : Peripheral}
    (h : (connect files events device memory peripheral config).result = .ok b) :
    Bench.connect device memory config = .ok (.start device memory config)
      ∧ ∃ uart, uart.captured = #[]
        ∧ b = ((Bench.start device memory config).withPeripheral peripheral).withUart uart := by
  unfold connect at h
  split at h
  · cases h
  · rename_i uart opened huart
    split at h
    · cases h
    · rename_i bench hbench
      cases h
      have hstart : bench = .start device memory config := by
        unfold Bench.connect at hbench
        split at hbench
        · cases hbench
          rfl
        · cases hbench
      rw [hstart] at hbench ⊢
      exact ⟨hbench, uart, (Uart.Sink.ofConfig_eq_ok huart).1, rfl⟩

/-- The last part of a set-up forms no number. -/
theorem neverOverflows_connect (files : Directory) (events : List Event) (device : Replay)
    (memory : LocalMemory) (peripheral : Peripheral) (config : Config) :
    NeverOverflows (connect files events device memory peripheral config).result := by
  unfold connect
  cases huart : Uart.Sink.ofConfig files config.uart with
  | error e =>
      refine .error fun o ho => ?_
      exact Uart.Sink.neverOverflows_ofConfig files config.uart o (huart.trans (by rw [ho]))
  | ok new =>
      dsimp only
      unfold Bench.connect
      split
      · rename_i hwidth
        split at hwidth
        · cases hwidth
        · cases hwidth
          exact .error (by simp)
      · exact .ok _

/-- **Where a set-up leaves the range**: in the size of local memory or, if the program fits there,
in the memory behind the bus. -/
theorem ofConfig_eq_overflow_iff {o : Overflow} :
    (ofConfig files device image config reader).result = .error (.overflow o)
      ↔ config.validate = .ok ()
        ∧ ((Overflow.greatestStore < config.memory.sizeBytes ∧ o = .capacity)
          ∨ ((∃ memory, image.inLocalMemory config.memory = .ok memory) ∧ config.ddr.enabled = true
            ∧ Ddr.ofConfig files config.ddr image reader = .error (.overflow o))) := by
  have hstores : (ofConfig files device image config reader).result = .error (.overflow o)
      ↔ stores files image config reader = .error (.overflow o) := by
    obtain ⟨events, heq⟩ := ofConfig_eq files device image config reader
    rw [heq]
    cases stores files image config reader with
    | error e => simp only [failed, Except.error.injEq]
    | ok filled =>
        dsimp only
        exact ⟨fun h => absurd h (neverOverflows_connect _ _ _ _ _ _ o), fun h => by cases h⟩
  have hvalid : NeverOverflows (config.validate.mapError SetupError.config) := .mapError (by simp) _
  rw [hstores, stores, hvalid.bind_eq_overflow_iff, bind_eq_error_iff,
    Image.inLocalMemory_eq_overflow_iff]
  cases config.validate with
  | error d => simp [mapError_eq_ok_iff]
  | ok _ =>
      cases config.ddr.enabled with
      | false => simp [mapError_eq_ok_iff, bind_eq_error_iff]
      | true =>
          cases Ddr.ofConfig files config.ddr image reader with
          | error e => simp [mapError_eq_ok_iff, bind_eq_error_iff, Except.map]
          | ok d => simp [mapError_eq_ok_iff, bind_eq_error_iff, Except.map]

end Setup

end Testbench
