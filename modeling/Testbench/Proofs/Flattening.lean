import Mathlib.Order.Bounds.Basic
import Testbench.Image
import Testbench.Proofs.Records

/-!
# What a flattened program file shows

The segments of a program file may come in any order, overlap, leave gaps, take no memory at all, or
have more contents than they say they take.  Laid over one another in table order they give an image
that can be described address by address.  It begins at the least address and reaches to the
greatest end of the segments that take memory (`starts`, `stops`).  At each address it shows the
byte that the file holds for it in the last segment that covers the address, and zero where none
does (`Shows`).  What a segment takes beyond its contents never shows, so it hides nothing either.

A segment that is laid down changes what it covers and nothing else (`byteAt_overlay_of_forall`,
`byteAt_overlay_append`), and segments that are not kept cover nothing.  So every image of a program
file shows the segments that the file was read as (`flattened_image_shows`).
-/

namespace Testbench

namespace Elf.Segment

/-- The file holds a byte of the segment for the address. -/
def Covers (s : Segment) (address : Nat) : Prop :=
  s.address ≤ address ∧ address < s.address + s.contents.size

instance (s : Segment) (address : Nat) : Decidable (s.Covers address) :=
  inferInstanceAs (Decidable (_ ∧ _))

theorem size_contents_le_span (s : Segment) : s.contents.size ≤ s.span := Nat.le_max_right _ _

/-- A segment that takes no memory covers nothing. -/
theorem not_covers_of_span_eq_zero {s : Segment} (h : s.span = 0) (address : Nat) :
    ¬ s.Covers address := by
  have hle := s.size_contents_le_span
  rintro ⟨hstart, hend⟩
  omega

end Elf.Segment

namespace Image

open Elf (Segment Defect)

variable {segments kept : List Segment} {found : List (Except Defect Segment)} {image : Image}

/-- Where the segments that take memory begin. -/
def starts (segments : List Segment) : Set Nat := {a | ∃ s ∈ segments, s.span ≠ 0 ∧ s.address = a}

/-- Where the segments that take memory end. -/
def stops (segments : List Segment) : Set Nat := {a | ∃ s ∈ segments, s.span ≠ 0 ∧ s.stop = a}

/-- An image that begins at `base` shows segments in table order: it reaches from their least
address to their greatest end, and each of its bytes is that of the last segment that covers its
address, or zero. -/
structure Shows (segments : List Segment) (base : Nat) (image : Image) : Prop where
  base_eq : image.base = some base
  least : IsLeast (starts segments) base
  greatest : ∃ stop, IsGreatest (stops segments) stop ∧ base < stop ∧ image.size = stop - base
  covered : ∀ x < image.size, ∀ before s after, segments = before ++ s :: after →
    s.Covers (base + x) → (∀ t ∈ after, ¬ t.Covers (base + x)) →
    image.bytes[x]? = s.contents[base + x - s.address]?
  gap : ∀ x < image.size, (∀ s ∈ segments, ¬ s.Covers (base + x)) → image.bytes[x]? = some 0

/-- The image of segments as they were found. -/
def ofSegments (found : List (Except Defect Segment)) : Except SetupError Image := do
  flatten (← occupied found)

/-- The image of a program file is that of its segments. -/
theorem ofBytes_eq_bind {file : Array UInt8} {reader : Elf.Reader} (helf : Elf.isElf file = true) :
    ofBytes file reader = (reader file).mapError .elf >>= ofSegments := by
  rw [ofBytes, if_pos helf]
  rfl

/-! ## The segments that are kept -/

/-- The segments that take memory. -/
def placed (segments : List Segment) : List Segment := segments.filter fun s => s.span ≠ 0

theorem mem_placed {s : Segment} : s ∈ placed segments ↔ s ∈ segments ∧ s.span ≠ 0 := by
  simp [placed]

theorem starts_eq : starts segments = {a | ∃ s ∈ placed segments, s.address = a} := by
  ext a
  simp only [starts, Set.mem_ofPred_eq, mem_placed, and_assoc]

theorem stops_eq : stops segments = {a | ∃ s ∈ placed segments, s.stop = a} := by
  ext a
  simp only [stops, Set.mem_ofPred_eq, mem_placed, and_assoc]

theorem placed_append (before after : List Segment) :
    placed (before ++ after) = placed before ++ placed after := List.filter_append ..

theorem placed_cons_of_pos {s : Segment} (h : s.span ≠ 0) (rest : List Segment) :
    placed (s :: rest) = s :: placed rest := by
  simp [placed, h]

theorem placed_cons_of_eq_zero {s : Segment} (h : s.span = 0) (rest : List Segment) :
    placed (s :: rest) = placed rest := by
  simp [placed, h]

/-- Segments that can all be read and stay in the address space are kept if they take memory. -/
theorem occupied_map_ok (h : ∀ s ∈ placed segments, s.stop ≤ lastAddress) :
    occupied (segments.map .ok) = .ok (placed segments) := by
  induction segments with
  | nil => rfl
  | cons s rest ih =>
      by_cases hs : s.span = 0
      · rw [placed_cons_of_eq_zero hs] at h ⊢
        rw [List.map_cons, occupied, if_pos hs]
        exact ih h
      · rw [placed_cons_of_pos hs] at h ⊢
        have hstop : ¬ lastAddress < s.stop := Nat.not_lt.2 (h s List.mem_cons_self)
        rw [List.map_cons, occupied, if_neg hs, if_neg hstop,
          ih fun t ht => h t (List.mem_cons_of_mem _ ht)]
        rfl

/-- Nothing else is kept, and only if all segments can be read. -/
theorem occupied_eq_ok (h : occupied found = .ok kept) :
    ∃ segments, found = segments.map .ok ∧ kept = placed segments
      ∧ ∀ s ∈ kept, s.stop ≤ lastAddress := by
  induction found generalizing kept with
  | nil =>
      cases h
      exact ⟨[], rfl, rfl, by simp⟩
  | cons first rest ih =>
      cases first with
      | error d => cases h
      | ok s =>
          rw [occupied] at h
          split at h
          · rename_i hs
            obtain ⟨segments, rfl, rfl, hstop⟩ := ih h
            exact ⟨s :: segments, rfl, (placed_cons_of_eq_zero hs _).symm, hstop⟩
          · rename_i hs
            split at h
            · cases h
            · rename_i hfits
              obtain ⟨more, hmore, h⟩ := exists_of_bind_eq_ok h
              cases h
              obtain ⟨segments, rfl, rfl, hstop⟩ := ih hmore
              refine ⟨s :: segments, rfl, (placed_cons_of_pos hs _).symm, ?_⟩
              intro t ht
              rcases List.mem_cons.1 ht with rfl | ht
              · exact Nat.le_of_not_lt hfits
              · exact hstop t ht

/-! ## Least address and greatest end -/

theorem isLeast_lowest (s : Segment) (rest : List Segment) :
    IsLeast {a | ∃ t ∈ s :: rest, t.address = a} (lowest s rest) := by
  have hmin : ((s :: rest).map (·.address)).min? = some (lowest s rest) := by
    rw [List.map_cons, List.min?_cons', lowest, List.foldl_map]
  obtain ⟨hmem, hle⟩ := List.min?_eq_some_iff.1 hmin
  refine ⟨List.mem_map.1 hmem, ?_⟩
  rintro a ⟨t, ht, rfl⟩
  exact hle _ (List.mem_map_of_mem ht)

theorem isGreatest_highest (s : Segment) (rest : List Segment) :
    IsGreatest {a | ∃ t ∈ s :: rest, t.stop = a} (highest s rest) := by
  have hmax : ((s :: rest).map (·.stop)).max? = some (highest s rest) := by
    rw [List.map_cons, List.max?_cons', highest, List.foldl_map]
  obtain ⟨hmem, hle⟩ := List.max?_eq_some_iff.1 hmax
  refine ⟨List.mem_map.1 hmem, ?_⟩
  rintro a ⟨t, ht, rfl⟩
  exact hle _ (List.mem_map_of_mem ht)

/-- A segment that takes memory begins at or behind the least address and ends at or before the
greatest end. -/
theorem bounds_of_mem {base stop : Nat} (hbase : IsLeast (starts segments) base)
    (hstop : IsGreatest (stops segments) stop) {s : Segment} (hs : s ∈ placed segments) :
    base ≤ s.address ∧ s.stop ≤ stop := by
  rw [starts_eq] at hbase
  rw [stops_eq] at hstop
  exact ⟨hbase.2 ⟨s, hs, rfl⟩, hstop.2 ⟨s, hs, rfl⟩⟩

/-- There is room between the least address and the greatest end. -/
theorem base_lt_stop {base stop : Nat} (hbase : IsLeast (starts segments) base)
    (hstop : IsGreatest (stops segments) stop) : base < stop := by
  obtain ⟨s, hs, hspan, rfl⟩ := hbase.1
  have hle := (bounds_of_mem hbase hstop (mem_placed.2 ⟨hs, hspan⟩)).2
  unfold Segment.stop at hle
  omega

/-- The segments that are kept give an image unless they span too much. -/
theorem flatten_placed {base stop : Nat} (hbase : IsLeast (starts segments) base)
    (hstop : IsGreatest (stops segments) stop) :
    flatten (placed segments) = if spanLimit < stop - base then
        .error (.overrun ⟨stop - base, base, spanLimit⟩)
      else .ok { bytes := (lay base (stop - base) (placed segments)).bytes, base := some base } := by
  rw [starts_eq] at hbase
  rw [stops_eq] at hstop
  cases hplaced : placed segments with
  | nil =>
      rw [hplaced] at hbase
      obtain ⟨s, hs, -⟩ := hbase.1
      cases hs
  | cons s rest =>
      rw [hplaced] at hbase hstop
      rw [hbase.unique (isLeast_lowest s rest), hstop.unique (isGreatest_highest s rest)]
      rfl

/-! ## Segments over segments -/

/-- Segments laid over the contents of a store that begins at `base`. -/
def overlay (base : Nat) (store : ByteStore) (segments : List Segment) : ByteStore :=
  segments.foldl (fun store s => store.place (s.address - base) s.contents.toList) store

/-- All contents go between the beginning and the end of a store. -/
def Within (base size : Nat) (segments : List Segment) : Prop :=
  ∀ s ∈ segments, base ≤ s.address ∧ s.address - base + s.contents.size ≤ size

variable {base : Nat} {store : ByteStore}

@[simp] theorem size_overlay (base : Nat) (store : ByteStore) (segments : List Segment) :
    (overlay base store segments).size = store.size := by
  induction segments generalizing store with
  | nil => rfl
  | cons s rest ih => exact (ih _).trans (ByteStore.size_place ..)

theorem overlay_append (base : Nat) (store : ByteStore) (before after : List Segment) :
    overlay base store (before ++ after) = overlay base (overlay base store before) after :=
  List.foldl_append ..

/-- A segment that is laid down puts its contents where it covers, and nothing elsewhere. -/
theorem byteAt_place_segment {s : Segment} (h : Within base store.size [s]) (x : Nat) :
    (store.place (s.address - base) s.contents.toList).byteAt x =
      if s.Covers (base + x) then s.contents.getD (base + x - s.address) 0 else store.byteAt x := by
  obtain ⟨hbase, hfits⟩ := h s (List.mem_singleton_self s)
  rw [ByteStore.byteAt_place _ _ _ _ (by simpa using hfits)]
  by_cases hcovers : s.Covers (base + x)
  · obtain ⟨hstart, hend⟩ := hcovers
    have hlt : x - (s.address - base) < s.contents.size := by omega
    have hindex : x - (s.address - base) = base + x - s.address := by omega
    rw [if_pos (by omega), if_pos ⟨hstart, hend⟩, ← hindex]
    simp [List.getD_eq_getElem?_getD, Array.getD_eq_getD_getElem?, hlt]
  · rw [if_neg hcovers]
    split
    · rename_i hstart
      have hge : ¬ x - (s.address - base) < s.contents.size :=
        fun hlt => hcovers ⟨by omega, by omega⟩
      simp [List.getD_eq_getElem?_getD, hge]
    · rfl

/-- Where no segment covers, the store stays as it was. -/
theorem byteAt_overlay_of_forall (h : Within base store.size segments) {x : Nat}
    (hnone : ∀ s ∈ segments, ¬ s.Covers (base + x)) :
    (overlay base store segments).byteAt x = store.byteAt x := by
  induction segments generalizing store with
  | nil => rfl
  | cons s rest ih =>
      have hfirst : Within base store.size [s] := by
        intro t ht
        rw [List.mem_singleton.1 ht]
        exact h s List.mem_cons_self
      have hrest : Within base (store.place (s.address - base) s.contents.toList).size rest := by
        rw [ByteStore.size_place]
        exact fun t ht => h t (List.mem_cons_of_mem _ ht)
      show (overlay base (store.place (s.address - base) s.contents.toList) rest).byteAt x = _
      rw [ih hrest fun t ht => hnone t (List.mem_cons_of_mem _ ht), byteAt_place_segment hfirst,
        if_neg (hnone s List.mem_cons_self)]

/-- Where a segment covers and none behind it does, its byte is what is left. -/
theorem byteAt_overlay_append {before after : List Segment} {s : Segment}
    (h : Within base store.size (before ++ s :: after)) {x : Nat} (hs : s.Covers (base + x))
    (hlast : ∀ t ∈ after, ¬ t.Covers (base + x)) :
    (overlay base store (before ++ s :: after)).byteAt x
      = s.contents.getD (base + x - s.address) 0 := by
  have hwithin : ∀ t ∈ s :: after,
      base ≤ t.address ∧ t.address - base + t.contents.size ≤ store.size :=
    fun t ht => h t (List.mem_append_right _ ht)
  have hfirst : Within base (overlay base store before).size [s] := by
    intro t ht
    rw [List.mem_singleton.1 ht, size_overlay]
    exact hwithin s List.mem_cons_self
  rw [overlay_append]
  show (overlay base ((overlay base store before).place (s.address - base) s.contents.toList)
    after).byteAt x = _
  rw [byteAt_overlay_of_forall _ hlast, byteAt_place_segment hfirst, if_pos hs]
  intro t ht
  rw [ByteStore.size_place, size_overlay]
  exact hwithin t (List.mem_cons_of_mem _ ht)

/-! ## The image -/

/-- The segments that are kept go into the image. -/
theorem within_placed {stop : Nat} (hbase : IsLeast (starts segments) base)
    (hstop : IsGreatest (stops segments) stop) : Within base (stop - base) (placed segments) := by
  intro s hs
  obtain ⟨hle, hend⟩ := bounds_of_mem hbase hstop hs
  have hcontents := s.size_contents_le_span
  unfold Segment.stop at hend
  exact ⟨hle, by omega⟩

/-- The image of the segments that are kept shows all segments. -/
theorem shows_lay {stop : Nat} (hbase : IsLeast (starts segments) base)
    (hstop : IsGreatest (stops segments) stop) :
    Shows segments base
      { bytes := (lay base (stop - base) (placed segments)).bytes, base := some base } := by
  have hwithin : Within base (ByteStore.zeroed (stop - base)).size (placed segments) := by
    rw [ByteStore.size_zeroed]
    exact within_placed hbase hstop
  have hlay : lay base (stop - base) (placed segments)
      = overlay base (ByteStore.zeroed (stop - base)) (placed segments) := rfl
  have hsize : (lay base (stop - base) (placed segments)).bytes.size = stop - base := by
    have hsame := size_overlay base (ByteStore.zeroed (stop - base)) (placed segments)
    rw [ByteStore.size_zeroed] at hsame
    exact hsame
  have hbyte : ∀ x < stop - base, (lay base (stop - base) (placed segments)).bytes[x]?
      = some ((lay base (stop - base) (placed segments)).byteAt x) := by
    intro x hx
    have hlt : x < (lay base (stop - base) (placed segments)).bytes.size := by rw [hsize]; exact hx
    simp [ByteStore.byteAt, hlt]
  refine ⟨rfl, hbase, ⟨stop, hstop, base_lt_stop hbase hstop, hsize⟩, ?_, ?_⟩
  · rintro x hx before s after rfl hs hlast
    have hx' : x < stop - base := hsize ▸ hx
    have hspan : s.span ≠ 0 := fun h => Segment.not_covers_of_span_eq_zero h _ hs
    obtain ⟨hstart, hend⟩ := hs
    have hin : base + x - s.address < s.contents.size := by omega
    show (lay base (stop - base) (placed (before ++ s :: after))).bytes[x]? = _
    rw [hbyte x hx', hlay]
    rw [placed_append, placed_cons_of_pos hspan] at hwithin ⊢
    rw [byteAt_overlay_append hwithin ⟨hstart, hend⟩
      fun t ht => hlast t (mem_placed.1 ht).1]
    simp [hin]
  · intro x hx hnone
    have hx' : x < stop - base := hsize ▸ hx
    show (lay base (stop - base) (placed segments)).bytes[x]? = _
    rw [hbyte x hx', hlay, byteAt_overlay_of_forall hwithin
      fun s hs => hnone s (mem_placed.1 hs).1, ByteStore.byteAt_zeroed]

/-- Whatever segments were found, an image of them shows them. -/
theorem shows_of_ofSegments (h : ofSegments found = .ok image) :
    ∃ segments base, found = segments.map .ok ∧ Shows segments base image := by
  obtain ⟨kept, hkept, himage⟩ := exists_of_bind_eq_ok h
  obtain ⟨segments, rfl, rfl, -⟩ := occupied_eq_ok hkept
  cases hplaced : placed segments with
  | nil =>
      rw [hplaced] at himage
      cases himage
  | cons s rest =>
      have hbase : IsLeast (starts segments) (lowest s rest) := by
        rw [starts_eq, hplaced]
        exact isLeast_lowest s rest
      have hstop : IsGreatest (stops segments) (highest s rest) := by
        rw [stops_eq, hplaced]
        exact isGreatest_highest s rest
      rw [flatten_placed hbase hstop] at himage
      split at himage
      · cases himage
      · cases himage
        exact ⟨segments, _, rfl, shows_lay hbase hstop⟩

/-- Of the segments that cover an address there is a last one. -/
theorem exists_last_covers {address : Nat} (h : ∃ s ∈ segments, s.Covers address) :
    ∃ before s after, segments = before ++ s :: after ∧ s.Covers address
      ∧ ∀ t ∈ after, ¬ t.Covers address := by
  induction segments with
  | nil =>
      obtain ⟨s, hs, -⟩ := h
      cases hs
  | cons first rest ih =>
      by_cases hrest : ∃ s ∈ rest, s.Covers address
      · obtain ⟨before, s, after, rfl, hs, hlast⟩ := ih hrest
        exact ⟨first :: before, s, after, rfl, hs, hlast⟩
      · obtain ⟨s, hs, hcovers⟩ := h
        have hlast : ∀ t ∈ rest, ¬ t.Covers address := fun t ht hc => hrest ⟨t, ht, hc⟩
        rcases List.mem_cons.1 hs with rfl | hs
        · exact ⟨[], s, rest, rfl, hcovers, hlast⟩
        · exact absurd hcovers (hlast s hs)

/-- Only contents of a later segment take the place of a segment's contents. -/
theorem Shows.own_or_later {base : Nat} (h : Shows segments base image) {x : Nat}
    (hx : x < image.size) {before after : List Segment} {s : Segment}
    (hsplit : segments = before ++ s :: after) (hs : s.Covers (base + x)) :
    image.bytes[x]? = s.contents[base + x - s.address]?
      ∨ ∃ t ∈ after, t.Covers (base + x) ∧ image.bytes[x]? = t.contents[base + x - t.address]? := by
  by_cases hlater : ∃ t ∈ after, t.Covers (base + x)
  · obtain ⟨middle, t, last, rfl, ht, hlast⟩ := exists_last_covers hlater
    refine .inr ⟨t, List.mem_append_right _ List.mem_cons_self, ht, ?_⟩
    exact h.covered x hx (before ++ s :: middle) t last (by simp [hsplit]) ht hlast
  · exact .inl (h.covered x hx before s after hsplit hs fun t ht hc => hlater ⟨t, ht, hc⟩)

/-- **The image of a program file shows its segments.**  If a program file gives an image, whoever
reads it, then it was read as segments all of which have their contents in the file, and the image
shows these: it reaches from the least address to the greatest end of those that take memory, and at
each address it has the byte of the last segment in table order that covers it, or zero.  So what a
segment puts down gives way to contents of later segments alone, and never to the zeros that a later
one takes. -/
theorem flattened_image_shows (reader : Elf.Reader) {file : Array UInt8}
    (helf : Elf.isElf file = true) (himage : ofBytes file reader = .ok image) :
    ∃ segments base, reader file = .ok (segments.map .ok)
      ∧ Shows segments base image
      ∧ ∀ x < image.size, ∀ before s after, segments = before ++ s :: after →
          s.Covers (base + x) →
          image.bytes[x]? = s.contents[base + x - s.address]?
            ∨ ∃ t ∈ after, t.Covers (base + x)
                ∧ image.bytes[x]? = t.contents[base + x - t.address]? := by
  rw [ofBytes_eq_bind helf] at himage
  obtain ⟨found, hfound, himage⟩ := exists_of_bind_eq_ok himage
  obtain ⟨segments, base, rfl, hshows⟩ := shows_of_ofSegments himage
  refine ⟨segments, base, of_mapError_eq_ok hfound, hshows, ?_⟩
  intro x hx before s after hsplit hs
  exact hshows.own_or_later hx hsplit hs

end Image

namespace Sample

/-- A number in the four bytes of a field. -/
def field (n : Nat) : List UInt8 := [UInt8.ofNat n, UInt8.ofNat (n / 256), 0, 0]

/-- The table entry of a loadable segment. -/
def entry (offset address fileSize memorySize : Nat) : List UInt8 :=
  field 1 ++ field offset ++ field address ++ field 0 ++ field fileSize ++ field memorySize
    ++ field 0 ++ field 0

/-- Three segments.  The second puts a byte and three bytes of zeros over the first, and the third
comes last in the table and first in memory. -/
def overlapping : List Elf.Segment :=
  [⟨0x104, 8, #[1, 2, 3, 4]⟩, ⟨0x106, 4, #[9]⟩, ⟨0x100, 1, #[7]⟩]

/-- A program file with these segments: its header, the table and the contents. -/
def overlappingFile : Array UInt8 :=
  (Elf.magic ++ [1, 1, 1] ++ List.replicate 21 0 ++ field 52 ++ List.replicate 10 0 ++ [32, 0, 3, 0]
    ++ List.replicate 6 0 ++ entry 148 0x104 4 8 ++ entry 152 0x106 1 4 ++ entry 153 0x100 1 1
    ++ [1, 2, 3, 4, 9, 7]).toArray

/-- The image of the file. -/
def overlappingImage : Image where
  bytes := #[7, 0, 0, 0, 1, 2, 9, 4, 0, 0, 0, 0]
  base := some 0x100

end Sample

namespace Image

/-- The zeros that the second segment takes do not hide the fourth byte of the first. -/
theorem overlapping_image_shows :
    Elf.isElf Sample.overlappingFile = true
      ∧ ofBytes Sample.overlappingFile = .ok Sample.overlappingImage
      ∧ Shows Sample.overlapping 0x100 Sample.overlappingImage := by
  have helf : Elf.isElf Sample.overlappingFile = true := by decide +kernel
  have himage : ofBytes Sample.overlappingFile = .ok Sample.overlappingImage :=
    of_toOption_eq_some (by decide +kernel)
  have hread : Elf.segments Sample.overlappingFile = .ok (Sample.overlapping.map .ok) := by
    decide +kernel
  obtain ⟨segments, base, hsegments, hshows, -⟩ :=
    flattened_image_shows Elf.segments helf himage
  have hmap : Sample.overlapping.map Except.ok = segments.map .ok :=
    Except.ok.inj (hread.symm.trans hsegments)
  have hsame : Sample.overlapping = segments :=
    (List.map_inj_right fun _ _ h => Except.ok.inj h).1 hmap
  have hbase : some 0x100 = some base := hshows.base_eq
  cases hbase
  rw [hsame]
  exact ⟨helf, himage, hshows⟩

end Image

end Testbench
