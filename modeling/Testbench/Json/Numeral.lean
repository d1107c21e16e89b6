import Testbench.Json.Node

/-!
# Numerals

A numeral is an optional minus sign, digits without a leading zero, and possibly a fraction and an
exponent.  Its digits are gathered into a number below `2 ^ 64`; a digit that no longer fits, and
all digits behind it, count only as powers of ten.  A numeral with neither fraction nor exponent
whose digits all fit is an integer.  Every other one is a double, formed by scaling the gathered
digits by a power of ten in one rounded step, so the last place of a long numeral need not be the
nearest.  A numeral beyond the largest double is no number.
-/

namespace Testbench.Json

/-- The parts of a numeral without its sign. -/
structure Numeral where
  /-- The digits before the point. -/
  whole : List Nat
  /-- The digits behind the point. -/
  fraction : Option (List Nat) := none
  /-- Whether the exponent is negative, and its digits. -/
  exponent : Option (Bool × List Nat) := none
  deriving DecidableEq, Repr, Inhabited

/-- The value of a digit. -/
def digit? (c : Char) : Option Nat := if c.isDigit then some (c.toNat - '0'.toNat) else none

/-- The digits at the front of a text, and what follows them. -/
def takeDigits : List Char → List Nat × List Char
  | [] => ([], [])
  | c :: rest =>
      match digit? c with
      | some d => (d :: (takeDigits rest).1, (takeDigits rest).2)
      | none => ([], c :: rest)

namespace Numeral

/-- Why digits are missing: the text ends, or something else stands there. -/
def stopAt : List Char → Stop
  | [] => .truncated
  | _ :: _ => .malformed

/-- Reads an exponent behind its letter. -/
def scanExponent (n : Numeral) (s : List Char) : Except Stop (Numeral × List Char) :=
  let (negative, s) := match s with
    | '+' :: rest => (false, rest)
    | '-' :: rest => (true, rest)
    | _ => (false, s)
  match takeDigits s with
  | ([], rest) => .error (stopAt rest)
  | (digits, rest) => .ok ({ n with exponent := some (negative, digits) }, rest)

/-- Reads an exponent if there is one. -/
def scanTail (n : Numeral) : List Char → Except Stop (Numeral × List Char)
  | 'e' :: rest => n.scanExponent rest
  | 'E' :: rest => n.scanExponent rest
  | rest => .ok (n, rest)

/-- Reads a numeral behind its sign. -/
def scan (s : List Char) : Except Stop (Numeral × List Char) :=
  match takeDigits s with
  | ([], rest) => .error (stopAt rest)
  | (0 :: _ :: _, _) => .error .malformed
  | (whole, '.' :: rest) =>
      match takeDigits rest with
      | ([], rest) => .error (stopAt rest)
      | (fraction, rest) => scanTail { whole, fraction := some fraction } rest
  | (whole, rest) => scanTail { whole } rest

/-! ## The value of a numeral -/

/-- The least number that digits are not gathered into: `2 ^ 64`. -/
def gatherBound : Nat := 0x1_0000_0000_0000_0000

/-- Appends digits to a number as long as it stays below `2 ^ 64`; the digits that remain. -/
def gather (n : Nat) : List Nat → Nat × List Nat
  | [] => (n, [])
  | d :: rest => if n * 10 + d < gatherBound then gather (n * 10 + d) rest else (n, d :: rest)

/-- The greatest exponent that a table of powers of ten holds as doubles. -/
def greatestPower : Nat := 308

/-- A power of ten as a double. -/
def power (n : Nat) : Float := Float.ofScientific 1 false n

/-- The gathered digits scaled by a power of ten, or nothing if that exceeds every double. -/
def scale (significand : Nat) (exponent : Int) : Option Float :=
  let x := significand.toUInt64.toFloat
  if 0 ≤ exponent then
    if exponent ≤ greatestPower then
      let y := x * power exponent.toNat
      if y.isInf then none else some y
    else if significand = 0 then some 0 else none
  else if -exponent ≤ greatestPower then some (x / power (-exponent).toNat)
  else
    let y := x / power greatestPower
    if -exponent ≤ 2 * greatestPower then some (y / power (-exponent - greatestPower).toNat)
    else some 0

/-- Exponents are read up to this magnitude, `2 ^ 31`. -/
def exponentBound : Nat := 0x8000_0000

/-- A numeral as a double, without its sign. -/
def toReal (n : Numeral) : Option Float :=
  let (significand, dropped) := gather 0 n.whole
  let fraction := n.fraction.getD []
  let (significand, unread) := gather significand fraction
  let exponent : Int := dropped.length - (fraction.length - unread.length)
  match n.exponent with
  | none => scale significand exponent
  | some (negative, digits) =>
      let (shift, beyond) := gather 0 digits
      if !beyond.isEmpty ∨ exponentBound ≤ shift then
        if significand ≠ 0 ∧ !negative then none else some 0
      else scale significand (if negative then exponent - shift else exponent + shift)

/-- The greatest magnitude of a negative integer: `2 ^ 63`. -/
def lowestMagnitude : Nat := 0x8000_0000_0000_0000

/-- The value of a numeral with its sign, or nothing if it exceeds every double. -/
def literal? (negative : Bool) (n : Numeral) : Option Literal :=
  let (magnitude, dropped) := gather 0 n.whole
  if n.fraction.isNone ∧ n.exponent.isNone ∧ dropped.isEmpty
      ∧ (negative = false ∨ (0 < magnitude ∧ magnitude ≤ lowestMagnitude)) then
    some (.integer (if negative then -magnitude else magnitude))
  else n.toReal.map fun x => .real (if negative then -x else x)

end Numeral

end Testbench.Json
