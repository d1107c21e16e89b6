import Testbench.Proofs.Addresses
import Testbench.Proofs.BusProtocol

/-!
# The memory behind the bus as a row of bytes

What the memory answers and what it holds can be said without words, lanes and latencies.
`FlatBytes` is a list of bytes with a base address.  A word of it is mapped if its address is not
below the base and its four bytes all lie in the list, and reading, writing and loading are defined
byte by byte from that.  It does one job after another (`FlatBytes.performAll`).

The memory itself is loaded, read, written and stepped (`Operation`), with any port in every step.
Each operation that gives an answer is one job; a step that presents a response serves the request
that was in flight.  The memory and the flat bytes agree on one operation (`performAll_job`) and
therefore on any number of them (`behaves_as_flat_bytes`).
-/

namespace Testbench

/-! ## Flat bytes -/

/-- Bytes in a row, the first of them at a base address. -/
structure FlatBytes where
  /-- The address of the first byte. -/
  base : Nat
  /-- The bytes in order. -/
  bytes : List UInt8
  deriving DecidableEq, Repr, Inhabited

/-- What flat bytes can be asked to do. -/
inductive FlatBytes.Job where
  /-- Take contents over at an offset from the base. -/
  | load (contents : Array UInt8) (offset : Nat)
  /-- Read a word. -/
  | read (address : Nat)
  /-- Write the selected lanes of a word. -/
  | write (address : Nat) (data : UInt32) (strobe : UInt8)
  /-- Read a word and then write it under the request's strobe. -/
  | serve (r : Ddr.Request)
  deriving DecidableEq, Repr, Inhabited

/-- The request that a job serves. -/
def FlatBytes.Job.request? : Job → Option Ddr.Request
  | .serve r => some r
  | _ => none

/-- What comes back from a job. -/
inductive FlatBytes.Answer where
  /-- Contents were taken over, or a word was written. -/
  | done
  /-- Contents were refused. -/
  | refused (o : Overrun)
  /-- The word that was read. -/
  | word (data : UInt32)
  /-- The response to a request. -/
  | response (r : Ddr.Response)
  deriving DecidableEq, Repr, Inhabited

namespace FlatBytes

/-- Do all four bytes of the word at an address exist? -/
def Mapped (m : FlatBytes) (address : Nat) : Prop :=
  m.base ≤ address ∧ ∀ i < Word.laneCount, address - m.base + i < m.bytes.length

instance (m : FlatBytes) (address : Nat) : Decidable (m.Mapped address) :=
  inferInstanceAs (Decidable (_ ∧ _))

/-- The little-endian word at an address, zero if it is not mapped. -/
def word (m : FlatBytes) (address : Nat) : UInt32 :=
  if m.Mapped address then Word.ofLanes fun i => m.bytes.getD (address - m.base + i) 0 else 0

/-- The bytes from index `start` on, replaced where there is a new one. -/
def put (m : FlatBytes) (start : Nat) (new : Nat → Option UInt8) : FlatBytes :=
  { m with bytes := m.bytes.mapIdx fun i old =>
      if start ≤ i then (new (i - start)).getD old else old }

/-- Writes the bytes that the strobe selects, if the word is mapped. -/
def write (m : FlatBytes) (address : Nat) (data : UInt32) (strobe : UInt8) : FlatBytes :=
  if m.Mapped address then
    m.put (address - m.base) fun i =>
      if i < Word.laneCount ∧ Word.selects strobe i = true then some (Word.lane data i) else none
  else m

/-- A strobe that selects nothing writes nothing. -/
theorem write_zero (m : FlatBytes) (address : Nat) (data : UInt32) :
    m.write address data 0 = m := by
  unfold write
  split
  · refine congrArg (FlatBytes.mk m.base) ?_
    apply List.ext_getElem
    · simp
    · intro i hi hi'
      simp [Word.selects]
  · rfl

/-- Takes contents over at an offset from the base, or refuses them if they do not fit. -/
def load (m : FlatBytes) (contents : Array UInt8) (offset : Nat) : Except Overrun FlatBytes :=
  if m.bytes.length < offset + contents.size then
    .error ⟨contents.size, offset, m.bytes.length⟩
  else .ok (m.put offset fun i => contents[i]?)

/-- One job. -/
def perform (m : FlatBytes) : Job → Answer × FlatBytes
  | .load contents offset =>
      match m.load contents offset with
      | .ok m' => (.done, m')
      | .error o => (.refused o, m)
  | .read address => (.word (m.word address), m)
  | .write address data strobe => (.done, m.write address data strobe)
  | .serve r => (.response ⟨r.address, m.word r.address⟩, m.write r.address r.data r.strobe)

/-- One job after another. -/
def performAll (m : FlatBytes) : List Job → List Answer × FlatBytes
  | [] => ([], m)
  | job :: rest =>
      let (answer, m') := m.perform job
      let (answers, last) := m'.performAll rest
      (answer :: answers, last)

theorem performAll_append (m : FlatBytes) (before after : List Job) :
    m.performAll (before ++ after)
      = ((m.performAll before).1 ++ ((m.performAll before).2.performAll after).1,
          ((m.performAll before).2.performAll after).2) := by
  induction before generalizing m with
  | nil => rfl
  | cons job rest ih =>
      simp only [List.cons_append, performAll, ih]

end FlatBytes

namespace Ddr

/-! ## The memory seen as flat bytes -/

/-- The contents of a memory. -/
def flat (d : Ddr) : FlatBytes := ⟨d.base, d.store.bytes.toList⟩

/-- A store that holds at every index what `new` says holds the list that `new` gives. -/
theorem toList_eq_mapIdx {s t : ByteStore} {new : Nat → UInt8 → UInt8} (hsize : t.size = s.size)
    (h : ∀ i, t.byteAt i = new i (s.byteAt i)) :
    t.bytes.toList = s.bytes.toList.mapIdx new := by
  apply List.ext_getElem
  · simpa [ByteStore.size] using hsize
  · intro i hi _
    have hi' : i < t.bytes.size := by simpa using hi
    have hi'' : i < s.bytes.size := by
      have : t.bytes.size = s.bytes.size := hsize
      omega
    have hbyte := h i
    simp only [ByteStore.byteAt, Array.getD_eq_getD_getElem?, Array.getElem?_eq_getElem hi',
      Array.getElem?_eq_getElem hi'', Option.getD_some] at hbyte
    simpa using hbyte

@[simp] theorem base_flat (d : Ddr) : d.flat.base = d.base := rfl

@[simp] theorem length_bytes_flat (d : Ddr) : d.flat.bytes.length = d.store.size := rfl

/-- A store that differs in the new bytes alone holds the flat bytes with those put in. -/
theorem flat_eq_put {d : Ddr} {store : ByteStore} {start : Nat} {new : Nat → Option UInt8}
    (hsize : store.size = d.store.size)
    (h : ∀ i, store.byteAt i =
      if start ≤ i then (new (i - start)).getD (d.store.byteAt i) else d.store.byteAt i) :
    ({ d with store } : Ddr).flat = d.flat.put start new := by
  refine congrArg (FlatBytes.mk d.base) ?_
  exact toList_eq_mapIdx hsize h

theorem mapped_flat_iff {d : Ddr} {address : Nat} :
    d.flat.Mapped address ↔ d.offset? address = some (address - d.base) := by
  rw [offset?_eq_some_iff]
  simp only [FlatBytes.Mapped, base_flat, length_bytes_flat, Word.laneCount]
  constructor
  · rintro ⟨hbase, hbytes⟩
    -- the last byte of the word says enough about the others
    have hlast := hbytes 3 (by omega)
    omega
  · rintro ⟨hbase, hend⟩
    exact ⟨by omega, fun i hi => by omega⟩

theorem offset?_of_not_mapped {d : Ddr} {address : Nat} (h : ¬ d.flat.Mapped address) :
    d.offset? address = none := by
  cases hoffset : d.offset? address with
  | none => rfl
  | some offset =>
      have hat := (offset?_eq_some_iff.1 hoffset).1
      exact absurd (mapped_flat_iff.2 (by rw [hoffset, hat, Nat.add_sub_cancel_left])) h

/-- Reading the memory reads the flat bytes. -/
theorem read_eq_word (d : Ddr) (address : Nat) : d.read address = d.flat.word address := by
  unfold read FlatBytes.word
  by_cases hmapped : d.flat.Mapped address
  · rw [mapped_flat_iff.1 hmapped, if_pos hmapped]
    simp [ByteStore.readWord, ByteStore.byteAt, flat, Array.getD_eq_getD_getElem?,
      List.getD_eq_getElem?_getD]
  · rw [offset?_of_not_mapped hmapped, if_neg hmapped]

/-- Writing the memory writes the flat bytes. -/
theorem flat_write (d : Ddr) (address : Nat) (data : UInt32) (strobe : UInt8) :
    (d.write address data strobe).flat = d.flat.write address data strobe := by
  unfold write FlatBytes.write
  by_cases hmapped : d.flat.Mapped address
  · have hoffset := mapped_flat_iff.1 hmapped
    have hfits := (offset?_eq_some_iff.1 hoffset).2
    rw [hoffset, if_pos hmapped, base_flat]
    apply flat_eq_put (ByteStore.size_writeWord ..)
    intro i
    rw [ByteStore.byteAt_writeWord _ _ _ _ _ hfits]
    by_cases hstart : address - d.base ≤ i
    · -- a byte of the word is new if it is one of the four and its lane is selected
      rw [if_pos hstart]
      by_cases hlane : i - (address - d.base) < Word.laneCount
          ∧ Word.selects strobe (i - (address - d.base)) = true
      · rw [if_pos ⟨hstart, by omega, hlane.2⟩, if_pos hlane, Option.getD_some]
      · rw [if_neg (fun h => hlane ⟨by omega, h.2.2⟩), if_neg hlane, Option.getD_none]
    · rw [if_neg (fun h => hstart h.1), if_neg hstart]
  · rw [offset?_of_not_mapped hmapped, if_neg hmapped]

/-- Loading the memory loads the flat bytes, or is refused for the same reason. -/
theorem flat_load (d : Ddr) (contents : Array UInt8) (offset : Nat) :
    d.flat.load contents offset = (d.load contents offset).map flat := by
  unfold load FlatBytes.load
  rw [length_bytes_flat]
  by_cases hfits : offset + contents.size ≤ d.store.size
  · have hload : d.store.load contents offset = .ok (d.store.place offset contents.toList) :=
      if_pos hfits
    rw [hload, if_neg (by omega)]
    refine congrArg Except.ok (Eq.symm ?_)
    apply flat_eq_put (ByteStore.size_place ..)
    intro i
    rw [ByteStore.byteAt_load hload, Array.getD_eq_getD_getElem?]
  · have hload : d.store.load contents offset
        = .error ⟨contents.size, offset, d.store.size⟩ := if_neg hfits
    rw [hload, if_pos (by omega)]
    rfl

/-- Performing a request writes under its strobe, which selects nothing if the request reads. -/
theorem flat_perform (d : Ddr) (r : Request) :
    (d.perform r).flat = d.flat.write r.address r.data r.strobe := by
  unfold perform
  by_cases hwrite : r.isWrite = true
  · rw [if_pos hwrite, flat_write]
  · have hstrobe : r.strobe = 0 := by simpa [Request.isWrite] using hwrite
    rw [if_neg hwrite, hstrobe, FlatBytes.write_zero]

/-! ## Operations -/

/-- What can be done to a memory from outside. -/
inductive Operation where
  /-- Load contents at an offset from the base. -/
  | load (contents : Array UInt8) (offset : Nat)
  /-- Read a word. -/
  | read (address : Nat)
  /-- Write the selected lanes of a word. -/
  | write (address : Nat) (data : UInt32) (strobe : UInt8)
  /-- Step the memory with a port. -/
  | step (port : Port)
  deriving DecidableEq, Repr, Inhabited

/-- The memory after an operation. -/
def apply (d : Ddr) : Operation → Ddr
  | .load contents offset => (d.load contents offset).toOption.getD d
  | .read _ => d
  | .write address data strobe => d.write address data strobe
  | .step port => (d.step port).1

/-- What an operation gives back.  A step gives back the response that it leaves on the port. -/
def answer? (d : Ddr) : Operation → Option FlatBytes.Answer
  | .load contents offset =>
      match d.load contents offset with
      | .ok _ => some .done
      | .error o => some (.refused o)
  | .read address => some (.word (d.read address))
  | .write _ _ _ => some .done
  | .step port => (d.step port).2.response.map .response

/-- The job that an operation is.  A step is none unless it answers a request. -/
def job? (d : Ddr) : Operation → Option FlatBytes.Job
  | .load contents offset => some (.load contents offset)
  | .read address => some (.read address)
  | .write address data strobe => some (.write address data strobe)
  | .step port => (d.served? port).map .serve

/-- The request that an operation takes off the port. -/
def accepted? (d : Ddr) : Operation → Option Request
  | .step port => d.taken? port
  | _ => none

/-- The memory after a number of operations. -/
def applyAll (d : Ddr) (ops : List Operation) : Ddr := ops.foldl apply d

/-- What each operation of a sequence gives, where it gives something. -/
def collect {α : Type} (f : Ddr → Operation → Option α) (d : Ddr) : List Operation → List α
  | [] => []
  | op :: rest => (f d op).toList ++ collect f (d.apply op) rest

/-- **One operation.**  It is at most one job of the flat bytes, which give the same answer and end
up with the same contents. -/
theorem performAll_job (d : Ddr) (op : Operation) :
    d.flat.performAll (d.job? op).toList = ((d.answer? op).toList, (d.apply op).flat) := by
  cases op with
  | load contents offset =>
      simp only [job?, answer?, apply, Option.toList_some, FlatBytes.performAll, FlatBytes.perform,
        flat_load]
      cases d.load contents offset <;> rfl
  | read address =>
      simp only [job?, answer?, apply, Option.toList_some, FlatBytes.performAll, FlatBytes.perform,
        read_eq_word]
  | write address data strobe =>
      simp only [job?, answer?, apply, Option.toList_some, FlatBytes.performAll, FlatBytes.perform,
        flat_write]
  | step port =>
      simp only [job?, answer?, apply]
      rcases d.served?_cases port with
        ⟨r, hserved, hresponse, hstore, hbase⟩ | ⟨hserved, hresponse, hstore, hbase⟩
      · have hcontents : (d.step port).1.flat = d.flat.write r.address r.data r.strobe := by
          rw [← flat_perform, flat, flat, hstore, hbase]
        rw [hserved, hresponse, hcontents, respond, read_eq_word]
        rfl
      · have hcontents : (d.step port).1.flat = d.flat := by rw [flat, flat, hstore, hbase]
        rw [hserved, hresponse, hcontents]
        rfl

/-- Operations in any number are their jobs, one after another. -/
theorem performAll_collect (d : Ddr) (ops : List Operation) :
    d.flat.performAll (collect job? d ops) = (collect answer? d ops, (d.applyAll ops).flat) := by
  induction ops generalizing d with
  | nil => rfl
  | cons op rest ih =>
      rw [collect, FlatBytes.performAll_append, performAll_job, ih]
      rfl

/-- Only a step touches the request in flight. -/
theorem waiting_load (d : Ddr) (contents : Array UInt8) (offset : Nat) :
    (d.apply (.load contents offset)).waiting = d.waiting := by
  simp only [apply, load]
  cases d.store.load contents offset <;> rfl

theorem waiting_write (d : Ddr) (address : Nat) (data : UInt32) (strobe : UInt8) :
    (d.write address data strobe).waiting = d.waiting := by
  unfold write
  split <;> rfl

/-- What an operation serves is what waited, and what it accepts waits from then on. -/
theorem waiting_apply (d : Ddr) (op : Operation) :
    d.waiting ++ (d.accepted? op).toList
      = (d.job? op).toList.filterMap (·.request?) ++ (d.apply op).waiting := by
  cases op with
  | load contents offset =>
      rw [waiting_load]
      simp [accepted?, job?, FlatBytes.Job.request?]
  | read address => simp [accepted?, job?, FlatBytes.Job.request?, apply]
  | write address data strobe =>
      simp [accepted?, job?, FlatBytes.Job.request?, apply, waiting_write]
  | step port =>
      have hserved : (((d.served? port).map FlatBytes.Job.serve).toList).filterMap (·.request?)
          = (d.served? port).toList := by
        cases d.served? port <;> rfl
      rw [job?, hserved]
      exact d.waiting_step port

/-- Requests are served in the order in which they are accepted. -/
theorem waiting_collect (d : Ddr) (ops : List Operation) :
    d.waiting ++ collect accepted? d ops
      = (collect job? d ops).filterMap (·.request?) ++ (d.applyAll ops).waiting := by
  induction ops generalizing d with
  | nil => simp [collect, applyAll]
  | cons op rest ih =>
      rw [collect, collect, ← List.append_assoc, waiting_apply, List.append_assoc, ih,
        List.filterMap_append, List.append_assoc]
      rfl

/-! ## Base and size -/

namespace Addressed

variable {base size : UInt64} {d : Ddr}

theorem write (h : Addressed base size d) (address : Nat) (data : UInt32) (strobe : UInt8) :
    Addressed base size (d.write address data strobe) := by
  refine ⟨?_, (size_store_write ..).trans h.size_eq⟩
  unfold Ddr.write
  split <;> exact h.base_eq

theorem perform (h : Addressed base size d) (r : Request) :
    Addressed base size (d.perform r) := by
  unfold Ddr.perform
  split
  · exact h.write _ _ _
  · exact h

/-- No operation moves the store or changes its size. -/
theorem apply (h : Addressed base size d) (op : Operation) :
    Addressed base size (d.apply op) := by
  cases op with
  | load contents offset =>
      simp only [Ddr.apply, Ddr.load]
      cases hload : d.store.load contents offset with
      | error o => exact h
      | ok store =>
          obtain ⟨-, rfl⟩ := ByteStore.load_eq_ok_iff.1 hload
          exact ⟨h.base_eq, (ByteStore.size_place ..).trans h.size_eq⟩
  | read address => exact h
  | write address data strobe => exact h.write _ _ _
  | step port =>
      show Addressed base size (d.step port).1
      rcases d.served?_cases port with ⟨r, -, -, hstore, hbase⟩ | ⟨-, -, hstore, hbase⟩
      · have hperformed := h.perform r
        exact ⟨hbase.trans hperformed.base_eq, by rw [hstore, hperformed.size_eq]⟩
      · exact ⟨hbase.trans h.base_eq, by rw [hstore, h.size_eq]⟩

theorem applyAll (h : Addressed base size d) (ops : List Operation) :
    Addressed base size (d.applyAll ops) := by
  induction ops generalizing d with
  | nil => exact h
  | cons op rest ih => exact ih (h.apply op)

end Addressed

/-! ## The whole run -/

/-- **The memory is a row of bytes.**  Take a memory, put together in any way, and any number of
operations on it.  Flat bytes that do the jobs of those operations one after another give the same
answers and end with the same contents.  The requests that are served are those accepted, in that
order, with the one that was in flight before them and without the one that still is; so a response
carries the word as all requests before it left it.

No address needs more than sixty-four bits.  The base and the size stay as they are, the offset of a
word and the end of contents that are loaded are the ones found by sums that may not wrap around,
and no access goes beyond the store. -/
theorem behaves_as_flat_bytes {base size : UInt64} (d : Ddr) (haddressed : Addressed base size d)
    (ops : List Operation) :
    d.flat.performAll (collect job? d ops) = (collect answer? d ops, (d.applyAll ops).flat)
      ∧ d.waiting ++ collect accepted? d ops
          = (collect job? d ops).filterMap (·.request?) ++ (d.applyAll ops).waiting
      ∧ Addressed base size (d.applyAll ops)
      ∧ (∀ address : UInt64,
          (offset64? base size address).map UInt64.toNat = (d.applyAll ops).offset? address.toNat)
      ∧ (∀ (contents : Array UInt8) (offset length : UInt64), contents.size = length.toNat →
          ((∃ after, (d.applyAll ops).load contents offset.toNat = .ok after)
            ↔ fits64 size offset length = true))
      ∧ (∀ address offset, (d.applyAll ops).offset? address = some offset →
          ∀ i < Word.laneCount, offset + i < (d.applyAll ops).store.size) := by
  have hafter := haddressed.applyAll ops
  refine ⟨performAll_collect d ops, waiting_collect d ops, hafter, hafter.map_offset64?, ?_, ?_⟩
  · intro contents offset length hlength
    exact hafter.load_eq_ok_iff hlength
  · intro address offset hoffset i hi
    have hfits := (offset?_eq_some_iff.1 hoffset).2
    omega

/-- The last six bytes of the address space. -/
def topOfSpace : Ddr := .zeroed 6 0xFFFF_FFFF_FFFF_FFFA (.new (.fixed 1))

/-- A write of half a word comes between a request for the same bytes and its response; later a word
is cut off by the end of the store, and contents are too long. -/
def overlapping : List Operation :=
  [.load #[1, 2, 3, 4, 5, 6] 0,
    .step { request := some { address := 0xFFFF_FFFF_FFFF_FFFB, data := 0, strobe := 1 } },
    .write 0xFFFF_FFFF_FFFF_FFFC 0xAABBCCDD 0xF6,
    .step {},
    .read 0xFFFF_FFFF_FFFF_FFFB,
    .write 0xFFFF_FFFF_FFFF_FFFD 0x11111111 15,
    .read 0xFFFF_FFFF_FFFF_FFFD,
    .load #[7, 7] 5]

theorem overlapping_answers :
    collect answer? topOfSpace overlapping
      = [.done, .done, .response ⟨0xFFFF_FFFF_FFFF_FFFB, 0xBBCC0302⟩, .word 0xBBCC0300, .done,
          .word 0, .refused ⟨2, 5, 6⟩] := by
  have haddressed : Addressed 0xFFFF_FFFF_FFFF_FFFA 6 topOfSpace := ⟨by decide, by decide⟩
  have hflat := (behaves_as_flat_bytes topOfSpace haddressed overlapping).1
  have hanswers : collect answer? topOfSpace overlapping
      = (topOfSpace.flat.performAll (collect job? topOfSpace overlapping)).1 := by rw [hflat]
  rw [hanswers]
  decide +kernel

end Ddr

end Testbench
