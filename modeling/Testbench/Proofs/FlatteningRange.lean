import Testbench.Proofs.Addresses
import Testbench.Proofs.Flattening

/-!
# Flattening in sixty-four bits

Addresses and sizes of segments come out of a file that anyone may have written, so they can be any
numbers of sixty-four bits.  Three things could go wrong with them: the end of a segment could wrap
around, a distance between two addresses could be negative, and contents could be copied to where
the image has no room.  Here flattening is written with numbers of sixty-four bits (`flattening64`).
The wrapped end is one of its rejections; for the other two, which nothing checks, it has no answer
at all.  It gets its store from the one step that sets memory aside (`allocate`), and that step
leaves a record of it.

It always has an answer, the same as with natural numbers (`run_flattening64`): the least
address is at or before every other one, and the greatest end is at or behind all contents, so
nothing is negative and all contents fit.  The answer is an image unless the segments take no memory
or too much (`TooLarge`), and memory is set aside only for images
(`flattening_rejects_exactly_unusable`).
-/

namespace Testbench

/-- A loadable segment whose fields are numbers of sixty-four bits. -/
structure Elf.Segment64 where
  /-- The address of the first byte. -/
  address : UInt64
  /-- The size in memory. -/
  memorySize : UInt64
  /-- The bytes that the file holds for it. -/
  contents : Array UInt8
  /-- A file has no more bytes than sixty-four bits can count. -/
  size_lt : contents.size < UInt64.size

namespace Elf.Segment64

/-- The number of bytes that the file holds. -/
def length (s : Segment64) : UInt64 := .ofNat s.contents.size

/-- The bytes that the segment takes up. -/
def span (s : Segment64) : UInt64 := if s.memorySize < s.length then s.length else s.memorySize

/-- The same segment with natural numbers. -/
def plain (s : Segment64) : Segment where
  address := s.address.toNat
  memorySize := s.memorySize.toNat
  contents := s.contents

@[simp] theorem toNat_length (s : Segment64) : s.length.toNat = s.contents.size :=
  UInt64.toNat_ofNat_of_lt' s.size_lt

theorem toNat_span (s : Segment64) : s.span.toNat = s.plain.span := by
  have hlength := s.toNat_length
  show s.span.toNat = max s.memorySize.toNat s.contents.size
  unfold span
  split
  · rename_i h
    rw [UInt64.lt_iff_toNat_lt] at h
    omega
  · rename_i h
    rw [UInt64.lt_iff_toNat_lt] at h
    omega

theorem span_eq_zero_iff {s : Segment64} : s.span = 0 ↔ s.plain.span = 0 := by
  rw [← UInt64.toNat_inj, toNat_span, UInt64.toNat_zero]

end Elf.Segment64

/-- A segment with its end, which is a number of sixty-four bits too. -/
structure Elf.Placed64 extends Elf.Segment64 where
  /-- The address behind the last byte. -/
  stop : UInt64
  /-- The end is the true one. -/
  stop_eq : stop.toNat = toSegment64.address.toNat + toSegment64.span.toNat

namespace Image

open Elf (Segment Segment64 Placed64 Defect)
open Ddr (checkedAdd checkedSub fits64 checkedAdd_eq_some_iff checkedSub_eq_some_iff fits64_iff)

/-- A computation that may have no answer, with the sizes of the stores that were set aside so far.
-/
abbrev Allocating := StateT (List Nat) Option

/-- Sets a store of zeros aside. -/
def allocate (size : Nat) : Allocating ByteStore := do
  modify (· ++ [size])
  pure (.zeroed size)

/-- The segments that take memory, each with its end.  An end that wraps around is refused. -/
def occupied64 : List Segment64 → Except Overrun (List Placed64)
  | [] => .ok []
  | s :: rest =>
      if s.span = 0 then occupied64 rest
      else match h : checkedAdd s.address s.span with
        | none => .error ⟨lastAddress, s.address.toNat, spanLimit⟩
        | some stop => do
            let more ← occupied64 rest
            .ok ({ s with stop, stop_eq := checkedAdd_eq_some_iff.1 h } :: more)

/-- The least address of segments, the first of which is given. -/
def lowest64 (s : Placed64) (rest : List Placed64) : UInt64 :=
  rest.foldl (fun low t => if t.address < low then t.address else low) s.address

/-- The greatest end of segments, the first of which is given. -/
def highest64 (s : Placed64) (rest : List Placed64) : UInt64 :=
  rest.foldl (fun high t => if high < t.stop then t.stop else high) s.stop

/-- Copy the contents of a segment into an image, unless the segment begins before the image or the
contents do not fit. -/
def copy64? (base size : UInt64) (store : ByteStore) (s : Placed64) : Option ByteStore := do
  let start ← checkedSub s.address base
  if fits64 size start s.length then some (store.place start.toNat s.contents.toList) else none

/-- Flatten segments that take memory. -/
def flatten64 : List Placed64 → Allocating (Except SetupError Image)
  | [] => pure (.error .emptyImage)
  | s :: rest => do
      let base := lowest64 s rest
      let length ← StateT.lift (checkedSub (highest64 s rest) base)
      if 0x4000_0000 < length then
        return .error (.overrun ⟨length.toNat, base.toNat, spanLimit⟩)
      let store ← allocate length.toNat
      let laid ← StateT.lift ((s :: rest).foldlM (copy64? base length) store)
      return .ok { bytes := laid.bytes, base := some base.toNat }

/-- Flatten segments.  There is no answer if a distance of addresses is negative, or if contents
reach beyond the image. -/
def flattening64 (segments : List Segment64) : Allocating (Except SetupError Image) :=
  match occupied64 segments with
  | .error o => pure (.error (.overrun o))
  | .ok kept => flatten64 kept

/-- Segments that leave the address space or span more than a gibibyte. -/
def TooLarge (segments : List Segment) : Prop :=
  (∃ s ∈ segments, s.span ≠ 0 ∧ 0xFFFF_FFFF_FFFF_FFFF < s.address + s.span)
    ∨ ∃ low high, IsLeast (starts segments) low ∧ IsGreatest (stops segments) high
        ∧ 0x4000_0000 < high - low

/-! ## What becomes of segments that can be read -/

section Answers

variable {segments : List Segment}

/-- A segment that takes memory and leaves the address space is refused. -/
theorem occupied_map_ok_eq_error (h : ∃ s ∈ segments, s.span ≠ 0 ∧ lastAddress < s.stop) :
    ∃ o, occupied (segments.map .ok) = .error (.overrun o) := by
  induction segments with
  | nil =>
      obtain ⟨s, hs, -⟩ := h
      cases hs
  | cons first rest ih =>
      rw [List.map_cons, occupied]
      by_cases hspan : first.span = 0
      · rw [if_pos hspan]
        obtain ⟨s, hs, hne, hstop⟩ := h
        rcases List.mem_cons.1 hs with rfl | hs
        · exact absurd hspan hne
        · exact ih ⟨s, hs, hne, hstop⟩
      · rw [if_neg hspan]
        by_cases hfirst : lastAddress < first.stop
        · rw [if_pos hfirst]
          exact ⟨_, rfl⟩
        · rw [if_neg hfirst]
          obtain ⟨s, hs, hne, hstop⟩ := h
          rcases List.mem_cons.1 hs with rfl | hs
          · exact absurd hstop hfirst
          · obtain ⟨o, ho⟩ := ih ⟨s, hs, hne, hstop⟩
            rw [ho]
            exact ⟨o, rfl⟩

theorem placed_eq_nil_iff : placed segments = [] ↔ ∀ s ∈ segments, s.span = 0 := by
  simp [placed, List.filter_eq_nil_iff]

/-- Segments that take memory have a least address and a greatest end. -/
theorem exists_bounds (h : ∃ s ∈ segments, s.span ≠ 0) :
    ∃ base stop, IsLeast (starts segments) base ∧ IsGreatest (stops segments) stop := by
  cases hplaced : placed segments with
  | nil =>
      obtain ⟨s, hs, hspan⟩ := h
      exact absurd (placed_eq_nil_iff.1 hplaced s hs) hspan
  | cons s rest =>
      refine ⟨lowest s rest, highest s rest, ?_, ?_⟩
      · rw [starts_eq, hplaced]
        exact isLeast_lowest s rest
      · rw [stops_eq, hplaced]
        exact isGreatest_highest s rest

/-- Segments none of which takes memory are no image. -/
theorem ofSegments_of_forall_eq_zero (h : ∀ s ∈ segments, s.span = 0) :
    ofSegments (segments.map .ok) = .error .emptyImage := by
  have hplaced := placed_eq_nil_iff.2 h
  rw [ofSegments, occupied_map_ok (by simp [hplaced]), hplaced]
  rfl

theorem TooLarge.exists_ne_zero (h : TooLarge segments) : ∃ s ∈ segments, s.span ≠ 0 := by
  rcases h with ⟨s, hs, hspan, -⟩ | ⟨low, high, hlow, -, -⟩
  · exact ⟨s, hs, hspan⟩
  · obtain ⟨s, hs, hspan, -⟩ := hlow.1
    exact ⟨s, hs, hspan⟩

/-- Segments that stay in the address space are kept, and their span decides. -/
theorem ofSegments_of_stop_le {base stop : Nat} (hbase : IsLeast (starts segments) base)
    (hstop : IsGreatest (stops segments) stop) (hle : ∀ s ∈ placed segments, s.stop ≤ lastAddress) :
    ofSegments (segments.map .ok) = if spanLimit < stop - base then
        .error (.overrun ⟨stop - base, base, spanLimit⟩)
      else .ok { bytes := (lay base (stop - base) (placed segments)).bytes, base := some base } := by
  rw [ofSegments, occupied_map_ok hle]
  exact flatten_placed hbase hstop

/-- Segments that are too large are refused. -/
theorem TooLarge.ofSegments_eq (h : TooLarge segments) :
    ∃ o, ofSegments (segments.map .ok) = .error (.overrun o) := by
  by_cases hwraps : ∃ s ∈ segments, s.span ≠ 0 ∧ lastAddress < s.stop
  · obtain ⟨o, ho⟩ := occupied_map_ok_eq_error hwraps
    refine ⟨o, ?_⟩
    rw [ofSegments, ho]
    rfl
  · rcases h with hwraps' | ⟨base, stop, hbase, hstop, hlimit⟩
    · exact absurd hwraps' hwraps
    · have hle : ∀ s ∈ placed segments, s.stop ≤ lastAddress := fun s hs =>
        Nat.le_of_not_lt fun hlt => hwraps ⟨s, (mem_placed.1 hs).1, (mem_placed.1 hs).2, hlt⟩
      rw [ofSegments_of_stop_le hbase hstop hle, if_pos (show spanLimit < _ from hlimit)]
      exact ⟨_, rfl⟩

/-- All others give an image. -/
theorem ofSegments_of_not_tooLarge (hne : ∃ s ∈ segments, s.span ≠ 0) (h : ¬ TooLarge segments) :
    ∃ image, ofSegments (segments.map .ok) = .ok image
      ∧ 1 ≤ image.size ∧ image.size ≤ spanLimit := by
  obtain ⟨base, stop, hbase, hstop⟩ := exists_bounds hne
  have hle : ∀ s ∈ placed segments, s.stop ≤ lastAddress := fun s hs =>
    Nat.le_of_not_lt fun hlt => h (.inl ⟨s, (mem_placed.1 hs).1, (mem_placed.1 hs).2, hlt⟩)
  have hlimit : ¬ spanLimit < stop - base := fun hlt =>
    h (.inr ⟨base, stop, hbase, hstop, hlt⟩)
  obtain ⟨other, hother, hroom, hsize⟩ := (shows_lay hbase hstop).greatest
  have hsame := hother.unique hstop
  rw [ofSegments_of_stop_le hbase hstop hle, if_neg hlimit]
  exact ⟨_, rfl, by omega, by omega⟩

/-- Which of the three it is can be told from the answer. -/
theorem ofSegments_map_ok_iff (segments : List Segment) :
    (ofSegments (segments.map .ok) = .error .emptyImage ↔ ∀ s ∈ segments, s.span = 0)
      ∧ ((∃ o, ofSegments (segments.map .ok) = .error (.overrun o)) ↔ TooLarge segments)
      ∧ ((∃ image, ofSegments (segments.map .ok) = .ok image
            ∧ 1 ≤ image.size ∧ image.size ≤ spanLimit)
          ↔ (∃ s ∈ segments, s.span ≠ 0) ∧ ¬ TooLarge segments) := by
  by_cases hempty : ∀ s ∈ segments, s.span = 0
  · have hnone : ¬ ∃ s ∈ segments, s.span ≠ 0 := by
      rintro ⟨s, hs, hspan⟩
      exact hspan (hempty s hs)
    have hfits : ¬ TooLarge segments := fun h => hnone h.exists_ne_zero
    simpa [ofSegments_of_forall_eq_zero hempty, hfits] using hempty
  · have hsome : ∃ s ∈ segments, s.span ≠ 0 := by simpa using hempty
    by_cases hlarge : TooLarge segments
    · obtain ⟨o, ho⟩ := hlarge.ofSegments_eq
      simp [ho, hlarge, hempty]
    · obtain ⟨image, himage, hsize⟩ := ofSegments_of_not_tooLarge hsome hlarge
      simp [himage, hlarge, hempty, hsome, hsize]

end Answers

/-! ## The same in sixty-four bits -/

section Words

variable {segments : List Segment64} {kept : List Placed64} {base length : UInt64}

/-- Segments with their ends as plain segments. -/
def plains (kept : List Placed64) : List Segment := kept.map (·.plain)

theorem toNat_stop (s : Placed64) : s.stop.toNat = s.plain.stop := by
  rw [s.stop_eq, Segment64.toNat_span]
  rfl

/-- An end is refused exactly if it is beyond the last address. -/
theorem checkedAdd_span_eq_none_iff {s : Segment64} :
    checkedAdd s.address s.span = none ↔ lastAddress < s.plain.stop := by
  have hstop : s.address.toNat + s.span.toNat = s.plain.stop := by
    rw [Segment64.toNat_span]
    rfl
  rw [Option.eq_none_iff_forall_ne_some]
  simp only [ne_eq, checkedAdd_eq_some_iff, hstop]
  constructor
  · intro h
    by_contra hle
    have hlt : s.plain.stop < UInt64.size := by
      simp only [lastAddress] at hle
      simp only [UInt64.size]
      omega
    exact h (.ofNat s.plain.stop) (UInt64.toNat_ofNat_of_lt' hlt)
  · intro h stop hstop
    have hlt := stop.toNat_lt
    simp only [lastAddress] at h
    omega

/-- The same segments are kept, or the same segment is refused. -/
theorem occupied_map_plain (segments : List Segment64) :
    occupied ((segments.map (·.plain)).map .ok)
      = ((occupied64 segments).map plains).mapError .overrun := by
  induction segments with
  | nil => rfl
  | cons s rest ih =>
      rw [List.map_cons, List.map_cons, occupied, occupied64]
      by_cases hspan : s.span = 0
      · rw [if_pos hspan, if_pos (Segment64.span_eq_zero_iff.1 hspan)]
        exact ih
      · rw [if_neg hspan, if_neg (mt Segment64.span_eq_zero_iff.2 hspan)]
        by_cases hwraps : lastAddress < s.plain.stop
        · rw [if_pos hwraps]
          split
          · rfl
          · rename_i stop hstop
            rw [checkedAdd_span_eq_none_iff.2 hwraps] at hstop
            cases hstop
        · rw [if_neg hwraps, ih]
          split
          · rename_i hnone
            exact absurd (checkedAdd_span_eq_none_iff.1 hnone) hwraps
          · cases occupied64 rest <;> rfl

theorem toNat_lowest64 (s : Placed64) (rest : List Placed64) :
    (lowest64 s rest).toNat = lowest s.plain (plains rest) := by
  unfold lowest64 lowest plains
  rw [List.foldl_map]
  symm
  apply List.foldl_hom UInt64.toNat
  intro low t
  show min low.toNat t.address.toNat = _
  split
  · rename_i h
    exact Nat.min_eq_right (Nat.le_of_lt (UInt64.lt_iff_toNat_lt.1 h))
  · rename_i h
    exact Nat.min_eq_left (UInt64.le_iff_toNat_le.1 (UInt64.not_lt.1 h))

theorem toNat_highest64 (s : Placed64) (rest : List Placed64) :
    (highest64 s rest).toNat = highest s.plain (plains rest) := by
  unfold highest64 highest plains
  rw [List.foldl_map, ← toNat_stop]
  symm
  apply List.foldl_hom UInt64.toNat
  intro high t
  rw [← toNat_stop]
  split
  · rename_i h
    exact Nat.max_eq_right (Nat.le_of_lt (UInt64.lt_iff_toNat_lt.1 h))
  · rename_i h
    exact Nat.max_eq_left (UInt64.le_iff_toNat_le.1 (UInt64.not_lt.1 h))

/-- A segment that lies in the image is copied to where it belongs. -/
theorem copy64?_eq_some {s : Placed64} (store : ByteStore)
    (h : Within base.toNat length.toNat [s.plain]) :
    copy64? base length store s
      = some (store.place (s.plain.address - base.toNat) s.plain.contents.toList) := by
  obtain ⟨hle, hfits⟩ := h s.plain (List.mem_singleton_self _)
  have haddress : s.plain.address = s.address.toNat := rfl
  have hcontents : s.plain.contents = s.contents := rfl
  rw [haddress] at hle hfits ⊢
  rw [hcontents] at hfits ⊢
  have hstart : (s.address - base).toNat = s.address.toNat - base.toNat :=
    UInt64.toNat_sub_of_le _ _ (UInt64.le_iff_toNat_le.2 hle)
  have hsub : checkedSub s.address base = some (s.address - base) := by
    rw [checkedSub_eq_some_iff, hstart]
    omega
  have hroom : fits64 length (s.address - base) s.length = true := by
    rw [fits64_iff, hstart, Segment64.toNat_length]
    exact hfits
  rw [copy64?, hsub]
  simp only [Option.bind_eq_bind, Option.bind_some, hroom, if_true, hstart]

/-- So are all segments, one over the other. -/
theorem foldlM_copy64? (h : Within base.toNat length.toNat (plains kept)) (store : ByteStore) :
    kept.foldlM (copy64? base length) store
      = some (overlay base.toNat store (plains kept)) := by
  induction kept generalizing store with
  | nil => rfl
  | cons s rest ih =>
      have hfirst : Within base.toNat length.toNat [s.plain] := by
        intro t ht
        rw [List.mem_singleton.1 ht]
        exact h s.plain List.mem_cons_self
      rw [List.foldlM_cons, copy64?_eq_some store hfirst]
      exact ih (fun t ht => h t (List.mem_cons_of_mem _ ht)) _

theorem run_allocate (size : Nat) (taken : List Nat) :
    (allocate size).run taken = some (ByteStore.zeroed size, taken ++ [size]) :=
  rfl

/-- Segments whose distance is not negative and whose contents fit get a store, unless it would be
too large. -/
theorem run_flatten64_cons {s : Placed64} {rest : List Placed64} {laid : ByteStore}
    (hsub : checkedSub (highest64 s rest) (lowest64 s rest) = some length)
    (hlaid : (s :: rest).foldlM (copy64? (lowest64 s rest) length) (ByteStore.zeroed length.toNat)
      = some laid) (taken : List Nat) :
    (flatten64 (s :: rest)).run taken = some (if 0x4000_0000 < length then
        (.error (.overrun ⟨length.toNat, (lowest64 s rest).toNat, spanLimit⟩), taken)
      else (.ok { bytes := laid.bytes, base := some (lowest64 s rest).toNat },
        taken ++ [length.toNat])) := by
  simp only [flatten64, hsub, StateT.run_bind, StateT.run_lift, Option.pure_def,
    Option.bind_eq_bind, Option.bind_some]
  split
  · rfl
  · simp only [StateT.run_bind, StateT.run_lift, run_allocate, hlaid, Option.pure_def,
      Option.bind_eq_bind, Option.bind_some]
    rfl

/-- Segments that are kept are flattened without a fault, and memory is set aside for an image
only. -/
theorem run_flatten64 {segments : List Segment} (h : plains kept = placed segments)
    (taken : List Nat) : (flatten64 kept).run taken = some (flatten (placed segments),
      taken ++ (flatten (placed segments)).toOption.toList.map size) := by
  cases kept with
  | nil =>
      rw [← h]
      simp [flatten64, plains, flatten, Except.toOption]
  | cons s rest =>
      have hbase : IsLeast (starts segments) (lowest64 s rest).toNat := by
        rw [toNat_lowest64, starts_eq, ← h]
        exact isLeast_lowest s.plain (plains rest)
      have hstop : IsGreatest (stops segments) (highest64 s rest).toNat := by
        rw [toNat_highest64, stops_eq, ← h]
        exact isGreatest_highest s.plain (plains rest)
      have hle : lowest64 s rest ≤ highest64 s rest :=
        UInt64.le_iff_toNat_le.2 (Nat.le_of_lt (base_lt_stop hbase hstop))
      have hlength := UInt64.toNat_sub_of_le _ _ hle
      have hsub : checkedSub (highest64 s rest) (lowest64 s rest)
          = some (highest64 s rest - lowest64 s rest) := by
        rw [checkedSub_eq_some_iff, hlength]
        exact (Nat.add_sub_cancel' (UInt64.le_iff_toNat_le.1 hle)).symm
      have hwithin := within_placed hbase hstop
      rw [← hlength, ← h] at hwithin
      have hlimit : 0x4000_0000 < highest64 s rest - lowest64 s rest
          ↔ spanLimit < (highest64 s rest).toNat - (lowest64 s rest).toNat := by
        rw [UInt64.lt_iff_toNat_lt, hlength]
        rfl
      rw [flatten_placed hbase hstop, run_flatten64_cons hsub (foldlM_copy64? hwithin _)]
      simp only [hlimit]
      split
      · rw [hlength]
        simp [Except.toOption]
      · have hsize := size_overlay (lowest64 s rest).toNat
          (ByteStore.zeroed (highest64 s rest - lowest64 s rest).toNat) (plains (s :: rest))
        rw [ByteStore.size_zeroed] at hsize
        rw [← h, ← hlength]
        show _ = some (_, taken ++ [(overlay _ _ _).size])
        rw [hsize]
        rfl

/-- Flattening in sixty-four bits answers as it does with natural numbers. -/
theorem run_flattening64 (segments : List Segment64) (taken : List Nat) :
    (flattening64 segments).run taken
      = some (ofSegments ((segments.map (·.plain)).map .ok), taken
          ++ (ofSegments ((segments.map (·.plain)).map .ok)).toOption.toList.map size) := by
  rw [flattening64, ofSegments, occupied_map_plain]
  cases hkept : occupied64 segments with
  | error o =>
      show some (_, taken) = some (_, taken ++ [])
      rw [List.append_nil]
      rfl
  | ok kept =>
      have hsame : occupied ((segments.map (·.plain)).map .ok) = .ok (plains kept) := by
        rw [occupied_map_plain, hkept]
        rfl
      obtain ⟨others, hothers, hplaced, -⟩ := occupied_eq_ok hsame
      show (flatten64 kept).run taken = some (flatten (plains kept),
        taken ++ (flatten (plains kept)).toOption.toList.map size)
      rw [hplaced]
      exact run_flatten64 hplaced taken

end Words

/-- **Flattening refuses exactly the unusable segments and has no fault.**  Segments that can be
read are no image if none of them takes memory.  They are too large if one that takes memory ends
beyond the last address, or if they span more than a gibibyte.  All others give an image of at least
a byte and at most a gibibyte.  In sixty-four bits the answer is the same, no distance is negative,
all contents fit, and what is set aside on the way is one store of the size of the image, or nothing
if there is no image. -/
theorem flattening_rejects_exactly_unusable (segments : List Segment64) :
    let plain := segments.map (·.plain)
    let answer := ofSegments (plain.map .ok)
    (answer = .error .emptyImage ↔ ∀ s ∈ plain, s.span = 0)
      ∧ ((∃ o, answer = .error (.overrun o)) ↔ TooLarge plain)
      ∧ ((∃ image, answer = .ok image ∧ 1 ≤ image.size ∧ image.size ≤ 0x4000_0000)
          ↔ (∃ s ∈ plain, s.span ≠ 0) ∧ ¬ TooLarge plain)
      ∧ ∃ allocated, (flattening64 segments).run [] = some (answer, allocated)
          ∧ (∀ image, answer = .ok image → allocated = [image.size])
          ∧ ∀ e, answer = .error e → allocated = [] := by
  intro plain answer
  obtain ⟨hempty, hlarge, himage⟩ := ofSegments_map_ok_iff plain
  refine ⟨hempty, hlarge, himage, _, run_flattening64 segments [], ?_, ?_⟩
  · intro image hanswer
    show [] ++ answer.toOption.toList.map size = [image.size]
    rw [hanswer]
    rfl
  · intro e hanswer
    show [] ++ answer.toOption.toList.map size = []
    rw [hanswer]
    rfl

end Image

end Testbench
