/-!
# Numbers and truth values as text

Addresses and encodings are printed in lower-case hexadecimal behind `0x`, either with as many
digits as they need or filled up with zeros to a fixed number of digits.
-/

namespace Testbench.Text

/-- The hexadecimal digits of a number, most significant first. -/
def hexDigits (n : Nat) : String := String.ofList (Nat.toDigits 16 n)

/-- A number in hexadecimal, without leading zeros. -/
def hex (n : Nat) : String := "0x" ++ hexDigits n

/-- The text repeated `n` times. -/
def repeated (n : Nat) (c : Char) : String := String.ofList (List.replicate n c)

/-- A text filled up on the left with `fill` to at least `width` characters. -/
def padLeft (width : Nat) (fill : Char) (s : String) : String :=
  repeated (width - s.length) fill ++ s

/-- A text filled up on the right with `fill` to at least `width` characters. -/
def padRight (width : Nat) (fill : Char) (s : String) : String :=
  s ++ repeated (width - s.length) fill

/-- A number in hexadecimal with at least `digits` digits. -/
def hexPadded (digits n : Nat) : String := "0x" ++ padLeft digits '0' (hexDigits n)

/-- A truth value as a word. -/
def ofBool (b : Bool) : String := if b then "true" else "false"

end Testbench.Text
