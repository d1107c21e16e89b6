import Testbench.Decimal.Shortest
import Testbench.Text.Number

/-!
# Floating-point numbers in messages

A number is written with the fewest digits that read back.  From a hundred-thousandth up to below
ten to the sixteenth the notation is positional and always has a fraction; outside that range it is
one digit, the others behind a point, and an exponent that always has its sign.
-/

namespace Testbench.Decimal

/-- Digits with a decimal point after the first `whole` of them, filled up with zeros. -/
def positional (digits : String) (whole : Int) : String :=
  if whole ≤ 0 then "0." ++ Text.repeated (-whole).toNat '0' ++ digits
  else
    let whole := whole.toNat
    if digits.length ≤ whole then digits ++ Text.repeated (whole - digits.length) '0' ++ ".0"
    else
      String.ofList (digits.toList.take whole) ++ "." ++ String.ofList (digits.toList.drop whole)

/-- Digits with a point after the first and the exponent behind them. -/
def exponential (digits : String) (exponent : Int) : String :=
  let mantissa := match digits.toList with
    | first :: second :: rest => String.ofList (first :: '.' :: second :: rest)
    | _ => digits
  let sign := if exponent < 0 then "-" else "+"
  mantissa ++ "e" ++ sign ++ toString exponent.natAbs

/-- A positive decimal number as text. -/
def Scientific.text (s : Scientific) : String :=
  let s := s.trim 400
  let digits := toString s.digits
  let exponent := s.exponent + digits.length - 1
  if -5 ≤ exponent ∧ exponent ≤ 15 then positional digits (exponent + 1)
  else exponential digits exponent

/-- A floating-point number as text. -/
def text (x : Float) : String :=
  let bits := x.toBits.toNat
  let sign := if bits / Nat.pow 2 63 = 1 then "-" else ""
  let exponent := bits / Nat.pow 2 52 % Nat.pow 2 11
  let fraction := bits % Nat.pow 2 52
  if exponent = 2047 then if fraction = 0 then sign ++ "inf" else "NaN"
  else if exponent = 0 ∧ fraction = 0 then sign ++ "0.0"
  else sign ++ (Rounding.ofFields exponent fraction).shortest.text

end Testbench.Decimal
