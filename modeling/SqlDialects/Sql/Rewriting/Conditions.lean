import SqlDialects.Sql.Tree.Build
import SqlDialects.Sql.Tree.DataType

/-!
# Conditions as comparisons

Where conditions have to be comparisons, a number that stands for a condition is compared with zero.

**Results.**
* `Rewriting.comparedWithZero` is a statement in which no column, number or conversion to a number
  is a condition by itself.
-/

namespace SqlDialects
namespace Sql
namespace Rewriting

/-- Whether a tree is a number, perhaps with a sign. -/
def isNumber (t : Tree) : Bool :=
  let plain (u : Tree) : Bool := u.isA .literal && !u.holds "is_string"
  plain t || (t.isA .neg && (t.field? "this").any plain)

/-- Whether a tree is an integer, perhaps with a sign. -/
def isInteger (t : Tree) : Bool :=
  let digits (u : Tree) : Bool := ((u.text? "this").getD "").all Char.isDigit
  isNumber t && (digits t || (t.isA .neg && (t.field? "this").any digits))

/-- A condition as a comparison. -/
def asComparison (t : Tree) : Tree :=
  if isNumber t || t.isA .column || t.isCastTo DataType.numbers then
    .comparison .neq t (.number 0)
  else t

/-- The fields of a node that hold conditions. The branches of a case distinction between the values
of an expression hold none. -/
def conditionFields (k : Kind) (valued : Bool) : List String :=
  match k with
  | .both | .either | .exclusive => ["this", "expression"]
  | .negation | .whereClause | .having => ["this"]
  | .ifThen => if valued then [] else ["this"]
  | _ => []

mutual

/-- A tree with comparisons for conditions; `valued` says whether it belongs to a case distinction
between the values of an expression. -/
def compared (valued : Bool) : Tree → Tree
  | .node k fs cs p =>
    let between := k == .caseOf && (fs.lookup "this").any fun t => !t.isAbsent
    .node k (comparedFields between (conditionFields k valued) fs) cs p
  | .many ts => .many (comparedItems valued ts)
  | t => t

/-- Fields with comparisons for conditions, some of which are conditions themselves. -/
def comparedFields (valued : Bool) (tested : List String) :
    List (String × Tree) → List (String × Tree)
  | [] => []
  | (name, t) :: fs =>
    let t := compared valued t
    (name, if tested.contains name then asComparison t else t)
      :: comparedFields valued tested fs

/-- Trees with comparisons for conditions. -/
def comparedItems (valued : Bool) : List Tree → List Tree
  | [] => []
  | t :: ts => compared valued t :: comparedItems valued ts

end

/-- A statement with comparisons for conditions. -/
def comparedWithZero (t : Tree) : Tree :=
  compared false t

end Rewriting
end Sql
end SqlDialects
