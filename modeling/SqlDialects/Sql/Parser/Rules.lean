import SqlDialects.Sql.Parser.Basic

/-!
# The rules that other rules go back to

Rules that may stand inside one another. A rule takes those it goes back to as an argument, so that
the grammar is tied together in one place, where the depth of nesting is limited.

**Results.**
* `Rules.exhausted` are the rules that are left where nesting is too deep: each of them stops.
-/

namespace SqlDialects
namespace Sql

/-- Where a query stands, which says what may stand there in its place. -/
structure QueryPlace where
  /-- A query in parentheses. -/
  nested : Bool
  /-- A table in parentheses. -/
  table : Bool
  /-- An alias after the parentheses. -/
  aliased : Bool
  /-- Further queries that it is combined with. -/
  combined : Bool

namespace QueryPlace

/-- A query that stands among expressions. -/
def inner : QueryPlace :=
  ⟨false, false, true, true⟩

/-- A query that stands in place of a table. -/
def source : QueryPlace :=
  ⟨true, true, true, true⟩

/-- A query that another one is combined with. -/
def operand : QueryPlace :=
  ⟨true, false, true, false⟩

/-- A query that fills or defines a table. -/
def content : QueryPlace :=
  ⟨true, false, false, true⟩

end QueryPlace

/-- The rules that others go back to. -/
structure Rules where
  statement : Parsing (Option Tree)
  query : QueryPlace → Parsing (Option Tree)
  /-- Clauses after a query. -/
  clauses : Option Tree → Parsing (Option Tree)
  /-- Queries that a query is combined with. -/
  combinations : Option Tree → Parsing (Option Tree)
  table : Parsing (Option Tree)
  expression : Parsing (Option Tree)
  disjunction : Parsing (Option Tree)
  equality : Parsing (Option Tree)
  /-- Operators that are stronger than comparisons. -/
  bitwise : Parsing (Option Tree)
  unary : Parsing (Option Tree)

/-- The rules where nesting is too deep. -/
def Rules.exhausted : Rules :=
  let stop : Parsing (Option Tree) := throw .tooDeep
  ⟨stop, fun _ => stop, fun _ => stop, fun _ => stop, stop, stop, stop, stop, stop,
    stop⟩

end Sql
end SqlDialects
