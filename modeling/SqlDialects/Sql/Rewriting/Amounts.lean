import SqlDialects.Sql.Tree.Build

/-!
# Numbers of rows

Some dialects take only literals for the number of rows, so sums and products of integers are worked
out.

**Results.**
* `Rewriting.literalAmount` is a number of rows as a literal, if it can be worked out.
-/

namespace SqlDialects
namespace Sql
namespace Rewriting

mutual

/-- The value of integers that are added, subtracted or multiplied. -/
def amount? : Tree → Option Int
  | .node .literal fs _ _ =>
    match fs.lookup "is_string", fs.lookup "this" with
    | some (.scalar (.bool false)), some (.scalar (.text s)) =>
      if !s.isEmpty && s.all Char.isDigit then s.toNat?.map Int.ofNat else none
    | _, _ => none
  | .node .paren fs _ _ => amountIn? "this" fs
  | .node .neg fs _ _ => (amountIn? "this" fs).map fun i => -i
  | .node .add fs _ _ => do return (← amountIn? "this" fs) + (← amountIn? "expression" fs)
  | .node .sub fs _ _ => do return (← amountIn? "this" fs) - (← amountIn? "expression" fs)
  | .node .mul fs _ _ => do return (← amountIn? "this" fs) * (← amountIn? "expression" fs)
  | _ => none

/-- The value of integers in a field. -/
def amountIn? (name : String) : List (String × Tree) → Option Int
  | [] => none
  | (n, t) :: fs => if n == name then amount? t else amountIn? name fs

end

/-- A number of rows as a literal, if it can be worked out; a literal stays as it is. -/
def literalAmount (t : Tree) : Tree :=
  if t.isA .literal then t
  else
    match amount? t with
    | some i => .integer i
    | none => t

end Rewriting
end Sql
end SqlDialects
