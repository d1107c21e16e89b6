import Mathlib.Data.List.GetD
import Testbench.Proofs.Calls

/-!
# Registered reads over a sequential store

The two memory interfaces are served in every tick, during a reset as in a run.  Number the ticks of
a whole history and list what the device asked for in each.  The store is then nothing but the
initial one with the writes applied in that order, and it is described word by word (`wordAfter`).
What the device is given on an interface in a tick is the word at the address it read there last
before that tick, as the store was before the tick of the read (`registered`): never earlier, never
later, and never with the write of the same tick (`outputs_eq_registered`).

The invariant that carries this through a history is `Served`.  It speaks of the requests so far and
of no other part of the bench, so a reset or a flush of the serial port keeps it as it is.
-/

namespace Testbench

/-! ## The store word by word -/

namespace LocalMemory

/-- The word at an address after some requests on the data interface: each one that is made there
merges its lanes into it. -/
def wordAfter (m : LocalMemory) (requests : List AccessRequest) (address : UInt32) : UInt32 :=
  requests.foldl
    (fun word q =>
      if q.enable = true ∧ q.address = address ∧ address.toNat < m.size then
        Word.merge q.byteEnable word q.data
      else word)
    (m.read address)

/-- The requests that write to a word of the store. -/
def inRange (m : LocalMemory) (requests : List AccessRequest) : List AccessRequest :=
  requests.filter fun q => q.enable && q.address.toNat < m.size

@[simp] theorem wordAfter_nil (m : LocalMemory) (address : UInt32) :
    m.wordAfter [] address = m.read address := rfl

theorem size_foldl_serve (m : LocalMemory) (requests : List AccessRequest) :
    (requests.foldl serve m).size = m.size := by
  induction requests generalizing m with
  | nil => rfl
  | cons q requests ih => rw [List.foldl_cons, ih, size_serve]

/-- Serving requests in order leaves at each address the word described. -/
theorem read_foldl_serve (m : LocalMemory) (requests : List AccessRequest) (address : UInt32) :
    (requests.foldl serve m).read address = m.wordAfter requests address := by
  induction requests generalizing m with
  | nil => rfl
  | cons q requests ih =>
      rw [List.foldl_cons, ih, wordAfter, wordAfter, List.foldl_cons, size_serve, read_serve]

/-- Outside the store there is zero, whatever was written. -/
theorem wordAfter_of_size_le {m : LocalMemory} {address : UInt32} (h : m.size ≤ address.toNat)
    (requests : List AccessRequest) : m.wordAfter requests address = 0 := by
  rw [← read_foldl_serve]
  apply read_of_size_le
  rw [size_foldl_serve]
  exact h

/-- Serving requests in order is writing those in range, in order. -/
theorem foldl_serve_eq (m : LocalMemory) (requests : List AccessRequest) :
    requests.foldl serve m
      = (m.inRange requests).foldl (fun m q => m.write q.address q.data q.byteEnable) m := by
  induction requests generalizing m with
  | nil => rfl
  | cons q requests ih =>
      have hrange : (m.serve q).inRange requests = m.inRange requests := by
        unfold inRange
        rw [size_serve]
      rw [List.foldl_cons, ih, hrange]
      by_cases henable : q.enable = true
      · by_cases hlt : q.address.toNat < m.size
        · simp [inRange, henable, hlt, serve]
        · have hserve : m.serve q = m := by
            rw [serve, if_pos henable, write_of_size_le q.data q.byteEnable (Nat.not_lt.1 hlt)]
          simp [inRange, hlt, hserve]
      · have hserve : m.serve q = m := if_neg henable
        simp [inRange, henable, hserve]

end LocalMemory

/-! ## The latest read -/

/-- The address that a request for an instruction reads, if it is made. -/
def FetchRequest.reads? (q : FetchRequest) : Option UInt32 :=
  if q.enable then some q.address else none

/-- The address that a request for data reads, if it is made. -/
def AccessRequest.reads? (q : AccessRequest) : Option UInt32 :=
  if q.enable then some q.address else none

/-- The latest read before tick `t`: in which tick it was made, and at which address. -/
def latestRead? (reads : List (Option UInt32)) (t : Nat) : Option (Nat × UInt32) :=
  (List.range t).reverse.findSome? fun u => (reads.getD u none).map fun address => (u, address)

/-- The word that a registered interface presents in tick `t`, ticks being counted from zero: the
word at the address of the latest read, as it was before the tick of that read. -/
def LocalMemory.registered (m : LocalMemory) (accesses : List AccessRequest) (initial : UInt32)
    (reads : List (Option UInt32)) (t : Nat) : UInt32 :=
  match latestRead? reads t with
  | some (u, address) => m.wordAfter (accesses.take u) address
  | none => initial

theorem latestRead?_succ (reads : List (Option UInt32)) (t : Nat) :
    latestRead? reads (t + 1)
      = match reads.getD t none with
        | some address => some (t, address)
        | none => latestRead? reads t := by
  unfold latestRead?
  rw [List.range_succ, List.reverse_append, List.reverse_singleton, List.singleton_append,
    List.findSome?_cons]
  cases reads.getD t none <;> rfl

/-- The latest read is before the tick, and no read comes between. -/
theorem latestRead?_eq_some_iff {reads : List (Option UInt32)} {t u : Nat} {address : UInt32} :
    latestRead? reads t = some (u, address) ↔
      u < t ∧ reads.getD u none = some address
        ∧ ∀ v, u < v → v < t → reads.getD v none = none := by
  induction t with
  | zero => simp [latestRead?]
  | succ t ih =>
      rw [latestRead?_succ]
      cases h : reads.getD t none with
      | some last =>
          simp only [Option.some.injEq, Prod.mk.injEq]
          constructor
          · rintro ⟨rfl, rfl⟩
            exact ⟨Nat.lt_succ_self t, h, fun v hv hvt => by omega⟩
          · rintro ⟨hlt, haddress, hbetween⟩
            rcases Nat.lt_succ_iff_lt_or_eq.1 hlt with hlt' | rfl
            · rw [hbetween t hlt' (Nat.lt_succ_self t)] at h
              cases h
            · exact ⟨rfl, Option.some.inj (h.symm.trans haddress)⟩
      | none =>
          rw [ih]
          constructor
          · rintro ⟨hlt, haddress, hbetween⟩
            refine ⟨by omega, haddress, ?_⟩
            intro v hv hvt
            rcases Nat.lt_succ_iff_lt_or_eq.1 hvt with hvt' | rfl
            · exact hbetween v hv hvt'
            · exact h
          · rintro ⟨hlt, haddress, hbetween⟩
            rcases Nat.lt_succ_iff_lt_or_eq.1 hlt with hlt' | rfl
            · exact ⟨hlt', haddress, fun v hv hvt => hbetween v hv (by omega)⟩
            · rw [haddress] at h
              cases h

/-- What comes later does not matter to the latest read. -/
theorem latestRead?_append {reads more : List (Option UInt32)} {t : Nat} (h : t ≤ reads.length) :
    latestRead? (reads ++ more) t = latestRead? reads t := by
  induction t with
  | zero => rfl
  | succ t ih =>
      rw [latestRead?_succ, latestRead?_succ, ih (by omega), List.getD_append _ _ _ _ (by omega)]

namespace LocalMemory

/-- Nor does it matter to what is presented. -/
theorem registered_append {m : LocalMemory} {accesses moreAccesses : List AccessRequest}
    {initial : UInt32} {reads moreReads : List (Option UInt32)} {t : Nat}
    (haccesses : t ≤ accesses.length) (hreads : t ≤ reads.length) :
    m.registered (accesses ++ moreAccesses) initial (reads ++ moreReads) t
      = m.registered accesses initial reads t := by
  unfold registered
  rw [latestRead?_append hreads]
  cases h : latestRead? reads t with
  | none => rfl
  | some read =>
      have hlt := (latestRead?_eq_some_iff.1 h).1
      simp only
      rw [List.take_append_of_le_length (by omega)]

/-- A read of this tick is presented in the next one, and without it the interface holds. -/
theorem registered_succ {m : LocalMemory} {accesses : List AccessRequest} {initial : UInt32}
    {reads : List (Option UInt32)} {t : Nat} :
    m.registered accesses initial reads (t + 1)
      = match reads.getD t none with
        | some address => m.wordAfter (accesses.take t) address
        | none => m.registered accesses initial reads t := by
  unfold registered
  rw [latestRead?_succ]
  cases reads.getD t none <;> rfl

end LocalMemory

namespace Bench

variable {memory : LocalMemory} {config : Config} {b : Bench}

/-! ## The ticks of a history -/

/-- What the device shows in each of `n` ticks. -/
def shownIn (n : Nat) (b : Bench) : List Signals :=
  (List.range n).map fun k => (ticks (k + 1) b).device.signals

/-- What the device shows in each tick of a call. -/
def Call.shown : Call → Bench → List Signals
  | .reset, b => shownIn b.resetCycles b.assertReset
  | c, b => shownIn (c.taken b) b

/-- What the device shows in each tick of a history of calls. -/
def shown : List Call → Bench → List Signals
  | [], _ => []
  | c :: cs, b => c.shown b ++ shown cs (c.apply b)

theorem shownIn_succ (n : Nat) (b : Bench) :
    shownIn (n + 1) b = shownIn n b ++ [(ticks (n + 1) b).device.signals] := by
  simp [shownIn, List.range_succ]

@[simp] theorem length_shownIn (n : Nat) (b : Bench) : (shownIn n b).length = n := by
  simp [shownIn]

theorem Call.length_shown (c : Call) (b : Bench) : (c.shown b).length = c.taken b := by
  cases c <;> exact length_shownIn _ _

/-- There is one entry for each tick. -/
theorem length_shown (cs : List Call) (b : Bench) : (shown cs b).length = taken cs b := by
  induction cs generalizing b with
  | nil => rfl
  | cons c cs ih => rw [shown, List.length_append, ih, Call.length_shown, taken]

/-! ## Serving the interfaces -/

/-- The requests on the data interface. -/
def accesses (past : List Signals) : List AccessRequest := past.map (·.data)

/-- The reads on the data interface. -/
def dataReads (past : List Signals) : List (Option UInt32) := past.map (·.data.reads?)

/-- The reads on the instruction interface. -/
def instructionReads (past : List Signals) : List (Option UInt32) := past.map (·.fetch.reads?)

/-- The words presented on an interface in all of the ticks. -/
def presented (memory : LocalMemory) (past : List Signals) (initial : UInt32)
    (reads : List (Option UInt32)) : List UInt32 :=
  (List.range past.length).map (memory.registered (accesses past) initial reads)

/-- A bench that has served the requests of some ticks.  It began with a store and a first word for
the instruction interface, and its device had kept some words before. -/
structure Served (memory : LocalMemory) (first : UInt32) (kept : List UInt32 × List UInt32)
    (past : List Signals) (b : Bench) : Prop where
  recording : b.device.recording = true
  store : b.memory = (accesses past).foldl LocalMemory.serve memory
  /-- The registers hold what comes next. -/
  instruction : b.registers.instruction
    = memory.registered (accesses past) first (instructionReads past) past.length
  data : b.registers.data
    = memory.registered (accesses past) 0 (dataReads past) past.length
  instructionWords : b.device.instructionWords.toList
    = kept.1 ++ presented memory past first (instructionReads past)
  dataWords : b.device.dataWords.toList = kept.2 ++ presented memory past 0 (dataReads past)

theorem presented_append {past : List Signals} {s : Signals} {initial : UInt32}
    {reads : List (Option UInt32)} {read : Option UInt32} (hlength : reads.length = past.length) :
    presented memory (past ++ [s]) initial (reads ++ [read])
      = presented memory past initial reads
        ++ [memory.registered (accesses past) initial reads past.length] := by
  have haccesses : (accesses past).length = past.length := by simp [accesses]
  have hbefore : ∀ t ≤ past.length,
      memory.registered (accesses (past ++ [s])) initial (reads ++ [read]) t
        = memory.registered (accesses past) initial reads t := by
    intro t ht
    have happend : accesses (past ++ [s]) = accesses past ++ [s.data] := by simp [accesses]
    rw [happend, LocalMemory.registered_append (by omega) (by omega)]
  unfold presented
  rw [List.length_append, List.length_singleton, List.range_succ, List.map_append,
    List.map_singleton, hbefore _ (Nat.le_refl _)]
  congr 1
  refine List.map_congr_left ?_
  intro t ht
  exact hbefore t (Nat.le_of_lt (List.mem_range.1 ht))

/-- What an interface presents after one tick more: the word read in that tick, or the same. -/
theorem registered_accesses_append {past : List Signals} {s : Signals} {initial : UInt32}
    {reads : List (Option UInt32)} {read : Option UInt32} (hlength : reads.length = past.length) :
    memory.registered (accesses (past ++ [s])) initial (reads ++ [read]) (past ++ [s]).length
      = match read with
        | some address => ((accesses past).foldl LocalMemory.serve memory).read address
        | none => memory.registered (accesses past) initial reads past.length := by
  have haccesses : (accesses past).length = past.length := by simp [accesses]
  have happend : accesses (past ++ [s]) = accesses past ++ [s.data] := by simp [accesses]
  have hread : (reads ++ [read]).getD past.length none = read := by
    rw [← hlength]
    simp
  rw [List.length_append, List.length_singleton, LocalMemory.registered_succ, hread, happend,
    LocalMemory.registered_append (by omega) (by omega), List.take_left' haccesses]
  cases read with
  | none => rfl
  | some address => exact (LocalMemory.read_foldl_serve memory (accesses past) address).symm

end Bench

/-! ## What the device keeps of the words -/

namespace Replay

/-- An evaluation leaves alone what the device has kept of the words presented to it. -/
theorem words_eval (r : Replay) :
    r.eval.recording = r.recording ∧ r.eval.instructionWords = r.instructionWords
      ∧ r.eval.dataWords = r.dataWords := by
  unfold eval risingEdge
  split
  · split <;> exact ⟨rfl, rfl, rfl⟩
  · exact ⟨rfl, rfl, rfl⟩

end Replay

namespace Bench

theorem words_clockDevice (r : Replay) :
    (clockDevice r).recording = r.recording
      ∧ (clockDevice r).instructionWords = r.instructionWords
      ∧ (clockDevice r).dataWords = r.dataWords := by
  obtain ⟨h, hi, hd⟩ := Replay.words_eval (r.setClock true)
  obtain ⟨h', hi', hd'⟩ := Replay.words_eval (((r.setClock true).eval).setClock false)
  obtain ⟨h'', hi'', hd''⟩ :=
    Replay.words_eval (((((r.setClock true).eval).setClock false).eval).setClock true)
  exact ⟨h''.trans (h'.trans h), hi''.trans (hi'.trans hi), hd''.trans (hd'.trans hd)⟩

variable {memory : LocalMemory} {first : UInt32} {kept : List UInt32 × List UInt32}
  {past : List Signals} {b : Bench}

/-- **A tick serves one request more.**  It presents what the registers hold, and they take what is
read in it before the write. -/
theorem Served.tick (h : Served memory first kept past b) :
    Served memory first kept (past ++ [b.tick.device.signals]) b.tick := by
  obtain ⟨hrecording, hinstruction, hdata⟩ := words_clockDevice b.device
  rw [h.recording] at hrecording
  have haccesses : accesses (past ++ [b.tick.device.signals])
      = accesses past ++ [b.tick.device.signals.data] := by simp [accesses]
  have hfetches : instructionReads (past ++ [b.tick.device.signals])
      = instructionReads past ++ [b.tick.device.signals.fetch.reads?] := by
    simp [instructionReads]
  have hreads : dataReads (past ++ [b.tick.device.signals])
      = dataReads past ++ [b.tick.device.signals.data.reads?] := by simp [dataReads]
  have hfetchLength : (instructionReads past).length = past.length := by
    simp [instructionReads]
  have hreadLength : (dataReads past).length = past.length := by simp [dataReads]
  refine ⟨hrecording, ?_, ?_, ?_, ?_, ?_⟩
  · rw [haccesses, List.foldl_append, ← h.store]
    rfl
  · rw [hfetches, registered_accesses_append hfetchLength, ← h.store]
    show (if b.tick.device.signals.fetch.enable = true
      then b.memory.read b.tick.device.signals.fetch.address else b.registers.instruction) = _
    unfold FetchRequest.reads?
    by_cases henable : b.tick.device.signals.fetch.enable = true
    · simp [henable]
    · simp [henable, h.instruction]
  · rw [hreads, registered_accesses_append hreadLength, ← h.store]
    show (if b.tick.device.signals.data.enable = true
      then b.memory.read b.tick.device.signals.data.address else b.registers.data) = _
    unfold AccessRequest.reads?
    by_cases henable : b.tick.device.signals.data.enable = true
    · simp [henable]
    · simp [henable, h.data]
  · rw [hfetches, presented_append hfetchLength, ← List.append_assoc, ← h.instructionWords,
      ← h.instruction, ← hinstruction]
    show (Replay.keep (clockDevice b.device).recording _ _).toList = _
    rw [hrecording]
    exact Array.toList_push
  · rw [hreads, presented_append hreadLength, ← List.append_assoc, ← h.dataWords, ← h.data,
      ← hdata]
    show (Replay.keep (clockDevice b.device).recording _ _).toList = _
    rw [hrecording]
    exact Array.toList_push

theorem Served.ticks (h : Served memory first kept past b) (n : Nat) :
    Served memory first kept (past ++ shownIn n b) (ticks n b) := by
  induction n with
  | zero => simpa [shownIn] using h
  | succ n ih =>
      rw [shownIn_succ, ← List.append_assoc, ticks_succ]
      exact ih.tick

theorem Served.withUart (h : Served memory first kept past b) (u : Uart.Sink) :
    Served memory first kept past (b.withUart u) :=
  ⟨h.recording, h.store, h.instruction, h.data, h.instructionWords, h.dataWords⟩

/-- Neither end of a reset touches what has been served. -/
theorem Served.reset (h : Served memory first kept past b) :
    Served memory first kept (past ++ shownIn b.resetCycles b.assertReset) b.reset := by
  have hasserted : Served memory first kept past b.assertReset :=
    ⟨h.recording, h.store, h.instruction, h.data, h.instructionWords, h.dataWords⟩
  have hheld := hasserted.ticks b.resetCycles
  exact ⟨hheld.recording, hheld.store, hheld.instruction, hheld.data, hheld.instructionWords,
    hheld.dataWords⟩

/-- A run is some ticks and then perhaps a flush, also if it breaks off. -/
theorem bench_runUntil_eq (stop : Bench → Bool) (b : Bench) :
    ∃ u, (b.runUntil stop).bench = (Bench.ticks (b.runLength stop) b).withUart u := by
  fun_induction runLength stop b with
  | case1 b ho =>
      rw [runUntil, if_pos ho]
      exact ⟨b.uart, rfl⟩
  | case2 b ho reason hr =>
      have hs : b.tick.stops? stop = some reason := by rw [stops?, hr]
      rw [runUntil_of_overflows_eq_false (by simpa using ho), hs]
      exact ⟨b.tick.uart.flush, rfl⟩
  | case3 b ho hr hstop =>
      have hs : b.tick.stops? stop = some .predicate := by
        rw [stops?, hr]
        exact if_pos hstop
      rw [runUntil_of_overflows_eq_false (by simpa using ho), hs]
      exact ⟨b.tick.uart.flush, rfl⟩
  | case4 b ho hr hstop ih =>
      have hs : b.tick.stops? stop = none := by
        rw [stops?, hr]
        exact if_neg hstop
      rw [runUntil_of_overflows_eq_false (by simpa using ho), hs]
      exact ih

theorem Served.apply (h : Served memory first kept past b) (c : Call) :
    Served memory first kept (past ++ c.shown b) (c.apply b) := by
  have hrun : ∀ stop, Served memory first kept (past ++ shownIn (b.runLength stop) b)
      (b.runUntil stop).bench := by
    intro stop
    obtain ⟨u, hu⟩ := bench_runUntil_eq stop b
    rw [hu]
    exact (h.ticks _).withUart u
  cases c with
  | tick => exact h.ticks 1
  | reset => exact h.reset
  | run => exact hrun _
  | runUntil stop => exact hrun stop

/-- **What has been served is all that the device has asked for**, in every history. -/
theorem Served.after (h : Served memory first kept past b) (cs : List Call) :
    Served memory first kept (past ++ shown cs b) (after cs b) := by
  induction cs generalizing b past with
  | nil => simpa [shown, Bench.after] using h
  | cons c cs ih =>
      rw [shown, ← List.append_assoc]
      exact ih (h.apply c)

/-- A bench as it is built around a device and a memory, with any peripheral and any sink. -/
inductive Fitted (device : Replay) (memory : LocalMemory) (config : Config) : Bench → Prop
  | connect {b : Bench} :
      Bench.connect device memory config = .ok b → Fitted device memory config b
  | withPeripheral {b : Bench} (p : Peripheral) :
      Fitted device memory config b → Fitted device memory config (b.withPeripheral p)
  | withUart {b : Bench} (u : Uart.Sink) :
      Fitted device memory config b → Fitted device memory config (b.withUart u)

/-- A new bench has served nothing; its instruction register is primed. -/
theorem Fitted.served {device : Replay} {config : Config} (hb : Fitted device memory config b)
    (hrecording : device.recording = true) :
    Served memory (memory.read device.signals.fetch.address)
      (device.instructionWords.toList, device.dataWords.toList) [] b := by
  induction hb with
  | connect h =>
      unfold Bench.connect at h
      split at h
      · cases h
        refine ⟨hrecording, rfl, rfl, rfl, ?_, ?_⟩
        · simp [presented, Bench.start]
        · simp [presented, Bench.start]
      · cases h
  | withPeripheral p _ ih =>
      exact ⟨ih.recording, ih.store, ih.instruction, ih.data, ih.instructionWords, ih.dataWords⟩
  | withUart u _ ih => exact ih.withUart u

/-- **Both interfaces are registered reads over a sequential store.**  Build a bench around a device
that records, take any history of ticks, resets and runs, and list what the device shows in each
tick.  The words that the device has kept of the instruction interface are then, tick by tick, the
word of the latest fetch before that tick, in the store as it was before the tick of the fetch, and
before any fetch the word at the address that the device showed when the bench was built.  On the
data interface it is the latest access that counts, never with its own write, and zero before any.
Outside the store every word is zero, and in the end the store is the initial one with the writes
in range applied in order. -/
theorem outputs_eq_registered {device : Replay} {config : Config}
    (hb : Fitted device memory config b) (hrecording : device.recording = true)
    (history : List Call) :
    (shown history b).length = taken history b
      ∧ (after history b).device.instructionWords.toList
        = device.instructionWords.toList
          ++ presented memory (shown history b) (memory.read device.signals.fetch.address)
              (instructionReads (shown history b))
      ∧ (after history b).device.dataWords.toList
        = device.dataWords.toList
          ++ presented memory (shown history b) 0 (dataReads (shown history b))
      ∧ (∀ requests address, memory.size ≤ address.toNat →
          memory.wordAfter requests address = 0)
      ∧ (after history b).memory
        = (memory.inRange (accesses (shown history b))).foldl
            (fun m q => m.write q.address q.data q.byteEnable) memory := by
  have hafter := (hb.served hrecording).after history
  rw [List.nil_append] at hafter
  refine ⟨length_shown history b, hafter.instructionWords, hafter.dataWords, ?_, ?_⟩
  · intro requests address houtside
    exact LocalMemory.wordAfter_of_size_le houtside requests
  · rw [hafter.store, LocalMemory.foldl_serve_eq]

end Bench

/-! ## A small bench that uses its memory -/

namespace Sample

/-- A fetch and a write, a read of the word that was written, and a fetch of it. -/
def memoryTrace : Trace where
  ports := 1
  eventWidth := 1
  frames :=
    [{ fetch := some 2, data := some { address := 3, data := 0x11223344, byteEnable := 3 } },
      { data := some { address := 3 } },
      { fetch := some 3 }]

/-- Four words. -/
def memory : LocalMemory := ⟨#[0x00000007, 0, 0x0badf00d, 0xffffffff]⟩

/-- A new recording device for that trace. -/
def memoryDevice : Replay := Replay.withRecording (.start memoryTrace)

/-- A bench around it. -/
def memoryBench : Bench := .start memoryDevice memory config

end Sample

namespace Bench

/-- A reset of two ticks and four ticks of the trace.  The read of the second sees what the first
wrote, and the fetch of the third reaches the device in the fourth. -/
theorem memory_sample :
    (after [.reset, .tick, .tick, .tick, .tick] Sample.memoryBench).device.instructionWords.toList
        = [0x00000007, 0x00000007, 0x00000007, 0x0badf00d, 0x0badf00d, 0xffff3344]
      ∧ (after [.reset, .tick, .tick, .tick, .tick] Sample.memoryBench).device.dataWords.toList
        = [0, 0, 0, 0xffffffff, 0xffff3344, 0xffff3344] := by
  obtain ⟨-, hinstruction, hdata, -⟩ := outputs_eq_registered
    (.connect (show Bench.connect Sample.memoryDevice Sample.memory Sample.config
      = .ok Sample.memoryBench from rfl)) rfl [.reset, .tick, .tick, .tick, .tick]
  rw [hinstruction, hdata]
  decide

end Bench

end Testbench
