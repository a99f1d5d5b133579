import SqlDialects.Sql.Tree

/-!
# Named queries in front

Where named queries can only stand before a whole statement, those of inner queries move there.

**Rules.**
* Named queries inside a named query come right before it; all others come after those that are in
  front already, outer ones before inner ones.

**Results.**
* `Rewriting.withOuterQueries` moves the named queries of a statement to its front.
-/

namespace SqlDialects
namespace Sql
namespace Rewriting

/-- Named queries that have been taken from a place, with the depth of the place. -/
structure Taken where
  depth : Nat
  /-- The node that held them. -/
  holder : Tree
  queries : List Tree

/-- The queries of several places, outer places first. -/
def inOrder (taken : List Taken) : List Taken :=
  taken.mergeSort fun a b => decide (a.depth ≤ b.depth)

mutual

/-- A tree without the named queries in it, and these queries. A named query comes after those that
stand in it. -/
def takeQueries (depth : Nat) : Tree → Tree × List Taken
  | .node .withClause fs cs p =>
    let (fs, taken) := takeFromFields (depth + 1) fs
    (.node .withClause fs cs p, taken)
  | .node .cte fs cs p =>
    let (fs, taken) := takeFromFields (depth + 1) fs
    let inner := (inOrder taken).flatMap Taken.queries
    (.many (inner ++ [.node .cte fs cs p]), [])
  | .node k fs cs p =>
    let (fs, taken) := takeFromFields (depth + 1) fs
    (.node k fs cs p, taken)
  | .many ts =>
    let (ts, taken) := takeFromItems depth ts
    (.many ts, taken)
  | t => (t, [])

/-- Fields without the named queries in their values, and these queries. -/
def takeFromFields (depth : Nat) : List (String × Tree) → List (String × Tree) × List Taken
  | [] => ([], [])
  | (name, t) :: fs =>
    let (u, mine) := takeQueries depth t
    let (fs, others) := takeFromFields depth fs
    if u.isA .withClause then (fs, ⟨depth, u, u.items "expressions"⟩ :: mine ++ others)
    else ((name, u) :: fs, mine ++ others)

/-- Trees without the named queries in them, and these queries. -/
def takeFromItems (depth : Nat) : List Tree → List Tree × List Taken
  | [] => ([], [])
  | t :: ts =>
    let (u, mine) := takeQueries depth t
    let (ts, others) := takeFromItems depth ts
    match u with
    | .many us => (us ++ ts, mine ++ others)
    | u => (u :: ts, mine ++ others)

end

/-- A statement with all named queries in front. -/
def withOuterQueries (t : Tree) : Tree :=
  let (bare, taken) := takeQueries 0 t
  match inOrder taken with
  | [] => t
  | first :: others =>
    let queries := first.queries ++ others.flatMap Taken.queries
    let recursive := (first :: others).any fun w => w.holder.holds "recursive"
    let front := first.holder.set "expressions" (.many queries)
    bare.set "with_" (if recursive then front.set "recursive" (.flag true) else front)

end Rewriting
end Sql
end SqlDialects
