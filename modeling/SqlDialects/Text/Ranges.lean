/-!
# Ranges of characters

Classes of characters that are given by ranges of code points.
-/

namespace SqlDialects
namespace Text

/-- Whether a code point lies in one of the ranges, ends included. -/
def inRanges (ranges : List (Nat × Nat)) (c : Char) : Bool :=
  ranges.any fun r => r.1 ≤ c.toNat && c.toNat ≤ r.2

end Text
end SqlDialects
