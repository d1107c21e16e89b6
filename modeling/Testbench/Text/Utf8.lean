/-!
# UTF-8

Bytes are decoded in one pass from left to right.  A byte starts a character, continues one, or does
neither; the byte after a lead byte has a range of its own, which is what rules out overlong forms,
surrogates and code points beyond the last.  Each maximal run of bytes that begins a character and
is not carried on counts as one fault.

The same pass serves two purposes: text is accepted strictly when there is no fault (`strict?`), and
shown leniently with a replacement character for each fault (`lossy`).
-/

namespace Testbench.Text.Utf8

/-- A character of which some bytes are still to come. -/
structure Pending where
  /-- The bits gathered so far. -/
  value : Nat
  /-- How many bytes are to come. -/
  owed : Nat
  /-- The least byte that may come next. -/
  low : Nat
  /-- The greatest byte that may come next. -/
  high : Nat
  deriving DecidableEq, Repr, Inhabited

/-- What a byte means between characters. -/
inductive Lead where
  /-- A character by itself. -/
  | char (c : Char)
  /-- The first byte of a longer character. -/
  | opens (p : Pending)
  /-- No character starts with this byte. -/
  | fault
  deriving DecidableEq, Repr, Inhabited

/-- The meaning of a byte between characters. -/
def Lead.ofByte (byte : UInt8) : Lead :=
  let b := byte.toNat
  if b < 0x80 then .char (Char.ofNat b)
  else if 0xC2 ≤ b ∧ b ≤ 0xDF then .opens ⟨b - 0xC0, 1, 0x80, 0xBF⟩
  else if b = 0xE0 then .opens ⟨0, 2, 0xA0, 0xBF⟩
  else if b = 0xED then .opens ⟨0xD, 2, 0x80, 0x9F⟩
  else if 0xE1 ≤ b ∧ b ≤ 0xEF then .opens ⟨b - 0xE0, 2, 0x80, 0xBF⟩
  else if b = 0xF0 then .opens ⟨0, 3, 0x90, 0xBF⟩
  else if b = 0xF4 then .opens ⟨4, 3, 0x80, 0x8F⟩
  else if 0xF1 ≤ b ∧ b ≤ 0xF3 then .opens ⟨b - 0xF0, 3, 0x80, 0xBF⟩
  else .fault

/-- The characters of a byte sequence in order, `none` for each fault. -/
def decode : Option Pending → List UInt8 → List (Option Char)
  | none, [] => []
  | some _, [] => [none]
  | none, byte :: rest =>
      match Lead.ofByte byte with
      | .char c => some c :: decode none rest
      | .opens p => decode (some p) rest
      | .fault => none :: decode none rest
  | some p, byte :: rest =>
      if p.low ≤ byte.toNat ∧ byte.toNat ≤ p.high then
        let value := p.value * 64 + byte.toNat % 64
        if p.owed = 1 then some (Char.ofNat value) :: decode none rest
        else decode (some ⟨value, p.owed - 1, 0x80, 0xBF⟩) rest
      else
        none :: match Lead.ofByte byte with
          | .char c => some c :: decode none rest
          | .opens q => decode (some q) rest
          | .fault => none :: decode none rest

/-- The character shown in place of a fault. -/
def replacement : Char := Char.ofNat 0xFFFD

/-- The text of the bytes if they hold no fault. -/
def strict? (bytes : Array UInt8) : Option (List Char) :=
  (decode none bytes.toList).mapM id

/-- The text of the bytes with a replacement character for each fault. -/
def lossy (bytes : Array UInt8) : List Char :=
  (decode none bytes.toList).map (·.getD replacement)

/-- The bytes of a text. -/
def encode (text : String) : Array UInt8 := text.toUTF8.data

end Testbench.Text.Utf8
