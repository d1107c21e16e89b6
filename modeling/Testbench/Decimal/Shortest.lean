/-!
# The fewest digits that read back

A binary fraction `m * 2 ^ q` stands for an interval of numbers that round to it.  Its shortest
decimal text is a multiple of the largest power of ten that still has a multiple in the interval,
and of two such multiples the one nearer to the number.  On each decimal grid it is enough to look
at the two neighbours of the number: if any multiple lies in the interval, so does one of them.

All comparisons are between natural numbers.  Everything is scaled by four, so that the ends of the
interval, half a step away from the number, are whole.
-/

namespace Testbench.Decimal

/-- A positive decimal number `digits * 10 ^ exponent`. -/
structure Scientific where
  /-- The digits as one number. -/
  digits : Nat
  /-- The power of ten. -/
  exponent : Int
  deriving DecidableEq, Repr, Inhabited

/-- A positive number with the ends of the interval that rounds to it, as numerators over one
denominator. -/
structure Rounding where
  /-- The numerator of the number. -/
  value : Nat
  /-- The numerator of the lower end. -/
  low : Nat
  /-- The numerator of the upper end. -/
  high : Nat
  /-- The common denominator. -/
  denominator : Nat
  /-- Whether the ends themselves round to the number. -/
  closed : Bool
  deriving DecidableEq, Repr, Inhabited

namespace Rounding

/-- The interval of a positive double with the given exponent field and fraction field. -/
def ofFields (exponent fraction : Nat) : Rounding :=
  let m := if exponent = 0 then fraction else fraction + Nat.pow 2 52
  -- the number is `4 * m * 2 ^ (q - 1077)`, and `q` is at least 1
  let q := max exponent 1
  let below := if fraction = 0 ∧ 1 < exponent then 1 else 2
  let scale := Nat.pow 2 (q - 1077)
  ⟨4 * m * scale, (4 * m - below) * scale, (4 * m + 2) * scale, Nat.pow 2 (1077 - q),
    m % 2 == 0⟩

/-- Does `n * 10 ^ e` lie in the interval? -/
def holds (r : Rounding) (n : Nat) (e : Int) : Bool :=
  let point := n * Nat.pow 10 e.toNat * r.denominator
  let scale := Nat.pow 10 (-e).toNat
  if r.closed then r.low * scale ≤ point && point ≤ r.high * scale
  else r.low * scale < point && point < r.high * scale

/-- The greatest `n` with `n * 10 ^ e` not above the number. -/
def floorAt (r : Rounding) (e : Int) : Nat :=
  r.value * Nat.pow 10 (-e).toNat / (Nat.pow 10 e.toNat * r.denominator)

/-- How far `n * 10 ^ e` is from the number, in units of the common denominator scaled alike. -/
def distance (r : Rounding) (n : Nat) (e : Int) : Nat :=
  let point := n * Nat.pow 10 e.toNat * r.denominator
  let value := r.value * Nat.pow 10 (-e).toNat
  (point - value) + (value - point)

/-- The multiple of `10 ^ e` in the interval that is nearest to the number, if there is one. -/
def nearestAt (r : Rounding) (e : Int) : Option Scientific :=
  let n := r.floorAt e
  match r.holds n e, r.holds (n + 1) e with
  | false, false => none
  | true, false => some ⟨n, e⟩
  | false, true => some ⟨n + 1, e⟩
  | true, true =>
      let left := r.distance n e
      let right := r.distance (n + 1) e
      if left < right ∨ (left = right ∧ n % 2 = 0) then some ⟨n, e⟩ else some ⟨n + 1, e⟩

/-- The multiple of the largest power of ten from `10 ^ e` down, at most `steps` powers further. -/
def search (r : Rounding) (e : Int) : Nat → Scientific
  | 0 => ⟨r.floorAt e, e⟩
  | steps + 1 =>
      match r.nearestAt e with
      | some s => s
      | none => r.search (e - 1) steps

/-- The shortest decimal number in the interval.  No double reaches `10 ^ 309`, and the least
positive one is not below `10 ^ (-324)` by more than its interval. -/
def shortest (r : Rounding) : Scientific := r.search 309 700

end Rounding

/-- The decimal number without trailing zeros in its digits; at most `steps` are taken away. -/
def Scientific.trim (s : Scientific) : Nat → Scientific
  | 0 => s
  | steps + 1 =>
      if s.digits ≠ 0 ∧ s.digits % 10 = 0 then
        (Scientific.mk (s.digits / 10) (s.exponent + 1)).trim steps
      else s

end Testbench.Decimal
