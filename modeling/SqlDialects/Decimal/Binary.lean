/-!
# Binary floating point, exactly

**Input.** A nonnegative rational number given by numerator and denominator, or a double.

**Results.**
* `Binary.ofRatio` finds the double nearest to a rational; a tie goes to the even neighbour.
* `Binary.parts` gives a finite double back as sign, significand and power of two.
-/

namespace SqlDialects
namespace Decimal

/-- A finite double: plus or minus `significand` times two to the `exponent`. -/
structure Binary where
  negative : Bool
  significand : Nat
  exponent : Int
deriving DecidableEq, Repr

/-- Twice to the power `e`, as a numerator and a denominator. -/
def powerOfTwo : Int → Nat × Nat
  | .ofNat n => (Nat.pow 2 n, 1)
  | .negSucc n => (1, Nat.pow 2 (n + 1))

/-- Ten to the power `e`, as a numerator and a denominator. -/
def powerOfTen : Int → Nat × Nat
  | .ofNat n => (Nat.pow 10 n, 1)
  | .negSucc n => (1, Nat.pow 10 (n + 1))

/-- The quotient of two naturals rounded to nearest, a tie going to the even neighbour. -/
def roundDiv (num den : Nat) : Nat :=
  let q := num / den
  let r := num % den
  if 2 * r < den then q
  else if den < 2 * r then q + 1
  else if q % 2 = 0 then q else q + 1

namespace Binary

/-- The exponent at which the significand of `num / den` has fifty-three digits, no less than
the least exponent of a double. -/
def exponentOf (num den : Nat) : Int :=
  let e : Int := (num.log2 : Int) - den.log2 - 52
  let (p, q) := powerOfTwo e
  -- the estimate is exact or one too high
  let e := if num * q < Nat.pow 2 52 * (den * p) then e - 1 else e
  max e (-1074)

/-- The bits of the double nearest to `num / den`. -/
def bitsOfRatio (num den : Nat) : Nat :=
  if num = 0 then 0
  else
    let e := exponentOf num den
    let (p, q) := powerOfTwo e
    let m := roundDiv (num * q) (den * p)
    let bits := (e + 1074).toNat * Nat.pow 2 52 + m
    -- from here on the value is infinite
    min bits (2047 * Nat.pow 2 52)

/-- The double nearest to `num / den`, with a sign. -/
def ofRatio (negative : Bool) (num den : Nat) : Float :=
  let bits := bitsOfRatio num den + if negative then Nat.pow 2 63 else 0
  Float.ofBits (UInt64.ofNat bits)

/-- Sign, significand and exponent of a double, unless it is infinite or no number. -/
def parts (x : Float) : Option Binary :=
  let bits := x.toBits.toNat
  let field : Nat := bits / Nat.pow 2 52 % 2048
  let fraction : Nat := bits % Nat.pow 2 52
  let negative := decide (Nat.pow 2 63 ≤ bits)
  if field = 2047 then none
  else if field = 0 then some ⟨negative, fraction, -1074⟩
  else some ⟨negative, fraction + Nat.pow 2 52, (field : Int) - 1075⟩

/-- The magnitude as a numerator and a denominator. -/
def ratio (b : Binary) : Nat × Nat :=
  let (p, q) := powerOfTwo b.exponent
  (b.significand * p, q)

/-- The integer that the number is, if it is one. -/
def toInt? (b : Binary) : Option Int :=
  let (n, d) := b.ratio
  let i : Int := ↑(n / d)
  if n % d = 0 then some (if b.negative then -i else i) else none

end Binary

/-- Whether a double is no number. -/
def isNaN (x : Float) : Bool :=
  x.toBits.toNat % Nat.pow 2 63 > 2047 * Nat.pow 2 52

/-- Whether a double is below zero, or minus zero. -/
def isNegative (x : Float) : Bool :=
  x.toBits.toNat ≥ Nat.pow 2 63

end Decimal
end SqlDialects
