import Testbench.SetupError

/-!
# Program images

A program image is a contiguous run of bytes, never empty.  A file that is no program file is an
image as it stands.  A program file is flattened: the image reaches from the least address of its
loadable segments to their greatest end, and each segment puts its contents over what the segments
before it have put there; what no segment fills is zero.

Segments that take no memory are left out.  A segment that would reach beyond the last address, or
segments that together span more than a gibibyte, are refused before anything is laid out.
-/

namespace Testbench

/-- A program image. -/
structure Image where
  /-- The bytes. -/
  bytes : Array UInt8
  /-- The address of the first byte, if the image comes from a program file. -/
  base : Option Nat := none
  /-- The path of the file it was read from, if any. -/
  source : Option String := none
  deriving DecidableEq, Repr, Inhabited

namespace Image

/-- The greatest number of bytes that segments may span: a gibibyte, `2 ^ 30` bytes. -/
def spanLimit : Nat := 0x4000_0000

/-- The greatest address: `2 ^ 64 - 1`. -/
def lastAddress : Nat := 0xFFFF_FFFF_FFFF_FFFF

end Image

namespace Elf.Segment

/-- The bytes that a segment takes up. -/
def span (s : Elf.Segment) : Nat := max s.memorySize s.contents.size

/-- The address behind the last byte of a segment. -/
def stop (s : Elf.Segment) : Nat := s.address + s.span

end Elf.Segment

namespace Image

open Elf (Segment)

/-- The segments that take memory.  The first segment that cannot be read, or that reaches beyond
the last address, is the answer instead. -/
def occupied : List (Except Elf.Defect Segment) → Except SetupError (List Segment)
  | [] => .ok []
  | .error d :: _ => .error (.elf d)
  | .ok s :: rest =>
      if s.span = 0 then occupied rest
      else if lastAddress < s.stop then .error (.overrun ⟨lastAddress, s.address, spanLimit⟩)
      else do
        let more ← occupied rest
        .ok (s :: more)

/-- The least address of segments, the first of which is given. -/
def lowest (s : Segment) (rest : List Segment) : Nat :=
  rest.foldl (fun low t => min low t.address) s.address

/-- The greatest end of segments, the first of which is given. -/
def highest (s : Segment) (rest : List Segment) : Nat :=
  rest.foldl (fun high t => max high t.stop) s.stop

/-- The bytes of segments from an address on, each segment over the ones before it. -/
def lay (base length : Nat) (segments : List Segment) : ByteStore :=
  segments.foldl (fun store s => store.place (s.address - base) s.contents.toList)
    (ByteStore.zeroed length)

/-- The image of segments that take memory. -/
def flatten : List Segment → Except SetupError Image
  | [] => .error .emptyImage
  | s :: rest =>
      let base := lowest s rest
      let length := highest s rest - base
      if spanLimit < length then .error (.overrun ⟨length, base, spanLimit⟩)
      else .ok { bytes := (lay base length (s :: rest)).bytes, base := some base }

/-- The image of a file's contents.  A program file is read by the given reader. -/
def ofBytes (contents : Array UInt8) (reader : Elf.Reader := Elf.segments) :
    Except SetupError Image :=
  if Elf.isElf contents then do
    let segments ← (reader contents).mapError .elf
    flatten (← occupied segments)
  else if contents.isEmpty then .error .emptyImage
  else .ok { bytes := contents }

/-- The image of a file. -/
def ofFile (files : Directory) (path : String) (reader : Elf.Reader := Elf.segments) :
    Except SetupError Image := do
  let contents ← (files.read path).mapError (.file path)
  let image ← ofBytes contents reader
  .ok { image with source := some path }

/-- The number of bytes. -/
def size (i : Image) : Nat := i.bytes.size

end Image

end Testbench
