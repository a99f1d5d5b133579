import SqlDialects.Decimal.Binary

/-!
# Shortest decimals

The fewest decimal digits that read back as a given double, and of those the nearest to it.

**Algorithm.** The reals that round to a double form an interval. For one, two, three digits and
so on the two neighbours of the value on that decimal grid are tested in exact arithmetic; the
first grid with a neighbour in the interval is taken.
-/

namespace SqlDialects
namespace Decimal

/-- A decimal number: `digits` times ten to the `exponent`. -/
structure Digits where
  digits : Nat
  exponent : Int
deriving DecidableEq, Repr

/-- The number of decimal digits of a natural. -/
def digitCount (n : Nat) : Nat :=
  (Nat.toDigits 10 n).length

/-- The greatest `e` with ten to the `e` at most `num / den`, for positive arguments. -/
def decimalExponent (num den : Nat) : Int :=
  let e : Int := (digitCount num : Int) - digitCount den
  let (p, q) := powerOfTen e
  if den * p ≤ num * q then e else e - 1

/-- The digits without the zeros at the end, at most `fuel` of them. -/
def Digits.strip : (fuel : Nat) → Digits → Digits
  | 0, d => d
  | fuel + 1, d =>
    if d.digits ≠ 0 ∧ d.digits % 10 = 0 then strip fuel ⟨d.digits / 10, d.exponent + 1⟩ else d

/-- The reals that round to a positive double, in quarters of its last place. -/
structure Interval where
  low : Nat
  high : Nat
  closed : Bool

/-- The rounding interval of a significand; below a power of two the grid is finer. -/
def Interval.around (b : Binary) : Interval :=
  let m := b.significand
  let low := if m = Nat.pow 2 52 ∧ b.exponent ≠ -1074 then 4 * m - 1 else 4 * m - 2
  ⟨low, 4 * m + 2, m % 2 == 0⟩

/-- The neighbour of a positive double among the decimals of `n` digits, if one reads back. -/
def neighbour? (b : Binary) (top : Int) (n : Nat) : Option Digits :=
  let k := top - (n : Int) + 1
  let (p, q) := powerOfTwo (b.exponent - 2)
  let (u, v) := powerOfTen k
  -- one unit of the grid is `unit`, a quarter of a place of the double is `quarter`
  let unit := q * u
  let quarter := p * v
  let value := 4 * b.significand * quarter
  let range := Interval.around b
  let fits (c : Nat) : Bool :=
    if range.closed then range.low * quarter ≤ c * unit && c * unit ≤ range.high * quarter
    else range.low * quarter < c * unit && c * unit < range.high * quarter
  let below := value / unit
  let above := below + 1
  match fits below, fits above with
  | true, false => some ⟨below, k⟩
  | false, true => some ⟨above, k⟩
  | false, false => none
  | true, true =>
    let down := value - below * unit
    let up := above * unit - value
    if down < up || (down == up && below % 2 == 0) then some ⟨below, k⟩ else some ⟨above, k⟩

/-- The shortest decimal of a positive double; seventeen digits always suffice. -/
def shortest (b : Binary) : Digits :=
  let (num, den) := b.ratio
  let top := decimalExponent num den
  match (List.range 17).findSome? fun n => neighbour? b top (n + 1) with
  | some d => d.strip 20
  | none => ⟨b.significand, b.exponent⟩

end Decimal
end SqlDialects
