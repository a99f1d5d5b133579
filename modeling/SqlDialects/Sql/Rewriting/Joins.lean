import SqlDialects.Sql.Tree.Build
import SqlDialects.Sql.Tree.Output
import SqlDialects.Text.Case

/-!
# Joins in other words

Queries without the joins that a dialect does not have.

**Rules.**
* A join that only keeps rows, or only leaves rows out, becomes a condition that asks whether there
  is a fitting row. It needs a condition of its own.
* A full join becomes two queries: one with all rows of the first source, and one with the rows of
  the second source that fit no row of the first one.

**Results.**
* `Rewriting.withoutSemiJoins` and `Rewriting.withoutFullJoin?` do so.
-/

namespace SqlDialects
namespace Sql
namespace Rewriting

/-- A word that says how two sources are joined. -/
def joinWord (name : String) (join : Tree) : String :=
  Text.upper ((join.text? name).getD "")

/-- The condition in place of a join that only keeps rows or leaves rows out. -/
def joinAsCondition? (join : Tree) : Option Tree :=
  match join.field? "on" with
  | none => none
  | some test =>
    let kind := joinWord "kind" join
    let source := Tree.ofOption (join.field? "this")
    let rows := (Tree.fromSource source (.select [.number 1])).filtered test
    let found := Tree.of .existence [("this", rows)]
    if kind == "SEMI" then some found
    else if kind == "ANTI" then some (.negation found)
    else none

/-- The joins that stay, and the conditions in place of the others. -/
def splitJoins (joins : List Tree) : List Tree × List Tree :=
  (joins.filter fun j => (joinAsCondition? j).isNone, joins.filterMap joinAsCondition?)

/-- A query with conditions in place of joins that only keep rows or leave rows out. -/
def withoutSemiJoins (t : Tree) : Tree :=
  let (joins, conditions) := splitJoins (t.items "joins")
  match conditions with
  | [] => t
  | cs => cs.foldl (fun t c => t.filtered c) (t.set "joins" (.many joins))

/-- The position of the only full join of a query. -/
def fullJoin? (t : Tree) : Option Nat :=
  let numbered := (t.items "joins").zipIdx
  match numbered.filter fun p => joinWord "side" p.1 == "FULL" with
  | [(_, n)] => some n
  | _ => none

/-- The condition of a join between two sources with names. -/
def joinTest? (left right : String) (join : Tree) : Option Tree :=
  match join.field? "on" with
  | some test => some test
  | none =>
    let shared := (join.items "using").map fun name =>
      Tree.operation .eq (.column (.nameOf name.label) (.nameOf left))
        (.column (.nameOf name.label) (.nameOf right))
    match shared with
    | [] => none
    | c :: cs => some (.allOf c cs)

/-- A query with another side for one of its joins. -/
def withSide (n : Nat) (side : String) (t : Tree) : Tree :=
  t.set "joins" (.many ((t.items "joins").modify n fun j => j.set "side" (.text side)))

/-- Two queries in place of one with a full join at a position; `none` if the join has no
condition. -/
def withoutFullJoin? (n : Nat) (t : Tree) : Option Tree := do
  let join ← (t.items "joins")[n]?
  let source ← (t.field? "from_").bind fun f => f.field? "this"
  let second := Tree.ofOption (join.field? "this")
  let test ← joinTest? source.aliasOrName second.aliasOrName join
  let fitting := (Tree.fromSource source (.select [.number 1])).filtered test
  let missing := Tree.of .negation [("this", .of .existence [("this", fitting)])]
  let left := (withSide n "LEFT" t).drop "limit" |>.drop "order"
  let right := ((withSide n "RIGHT" t).filtered missing).drop "with_"
  return .unionAll left right

end Rewriting
end Sql
end SqlDialects
