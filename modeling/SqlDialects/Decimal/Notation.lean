import SqlDialects.Decimal.Shortest

/-!
# Written numbers

Texts of integers and doubles, and the double that a decimal text denotes.

**Rules.**
* A double is written with the fewest digits that read back.
* It is positional from `0.0001` up to sixteen digits before the point and scientific outside;
  the exponent has a sign and at least two digits.
* A double that is a whole number keeps `.0`.
-/

namespace SqlDialects
namespace Decimal

/-- The decimal digits of a natural. -/
def natChars (n : Nat) : List Char :=
  Nat.toDigits 10 n

/-- The decimal text of an integer. -/
def intChars (i : Int) : List Char :=
  if i < 0 then '-' :: natChars i.natAbs else natChars i.natAbs

/-- The decimal text of an integer. -/
def intText (i : Int) : String :=
  String.ofList (intChars i)

/-- The digits of a natural, filled up with zeros on the left. -/
def padded (size n : Nat) : List Char :=
  let ds := natChars n
  List.replicate (size - ds.length) '0' ++ ds

/-- Positions of the decimal point between which a double is written positionally. -/
structure Positional where
  least : Int
  greatest : Int

/-- A double is positional when its first digit stands at most three places behind the point and
at most sixteen before it. -/
def positional : Positional :=
  ⟨-3, 16⟩

/-- The scientific form of digits whose point would stand `point` places after their start. -/
def scientificChars (ds : List Char) (point : Int) : List Char :=
  let e := point - 1
  let mark := if e < 0 then '-' else '+'
  ds.take 1 ++ (if ds.length ≤ 1 then [] else '.' :: ds.drop 1)
    ++ ['e', mark] ++ padded 2 e.natAbs

/-- The positional form of digits whose point stands `point` places after their start. -/
def positionalChars (ds : List Char) (point : Int) : List Char :=
  if point ≤ 0 then '0' :: '.' :: List.replicate point.natAbs '0' ++ ds
  else
    let n := point.toNat
    if ds.length ≤ n then ds ++ List.replicate (n - ds.length) '0' ++ ['.', '0']
    else ds.take n ++ '.' :: ds.drop n

/-- The text of a finite double. -/
def binaryChars (b : Binary) : List Char :=
  let sign := if b.negative then ['-'] else []
  if b.significand = 0 then sign ++ ['0', '.', '0']
  else
    let d := shortest b
    let ds := natChars d.digits
    let point := (ds.length : Int) + d.exponent
    if positional.least ≤ point ∧ point ≤ positional.greatest then sign ++ positionalChars ds point
    else sign ++ scientificChars ds point

/-- Words for the doubles that are not finite. -/
structure FloatWords where
  nan : String
  infinity : String

/-- The text of a double. -/
def floatText (words : FloatWords) (x : Float) : String :=
  match Binary.parts x with
  | some b => String.ofList (binaryChars b)
  | none =>
    if isNaN x then words.nan
    else if isNegative x then "-" ++ words.infinity
    else words.infinity

/-- The natural that a list of decimal digits denotes. -/
def digitsValue (ds : List Char) : Nat :=
  ds.foldl (fun n c => 10 * n + (c.toNat - 48)) 0

/-- The double nearest to `digits` times ten to the `exponent`. Exponents far outside the range of
doubles are not computed. -/
def floatOf (negative : Bool) (digits : Nat) (exponent : Int) : Float :=
  let size : Int := digitCount digits
  if digits = 0 ∨ size + exponent < -400 then Binary.ofRatio negative 0 1
  else if 400 < size + exponent then Binary.ofRatio negative (Nat.pow 2 2000) 1
  else
    let (p, q) := powerOfTen exponent
    Binary.ofRatio negative (digits * p) q

end Decimal
end SqlDialects
