import SqlDialects.Sql.Tree.Build
import SqlDialects.Sql.Tree.Output
import SqlDialects.Text.Case

/-!
# Definitions of tables and views

What dialects move, leave out or say in another way where tables and views are created.

**Results.**
* `Rewriting.withColumnKey` moves a primary key of one column to the column.
* `Rewriting.withoutTableKey` takes primary keys from among the columns.
* `Rewriting.withoutUniqueColumns` and `Rewriting.withoutViewColumns` leave parts out.
* `Rewriting.asTemporaryView` makes a view of a table that lasts for a session.
-/

namespace SqlDialects
namespace Sql
namespace Rewriting

/-- What a statement creates. -/
def created (t : Tree) : String :=
  Text.upper ((t.text? "kind").getD "")

/-- Whether what is created lasts for a session. -/
def isTemporary (t : Tree) : Bool :=
  ((t.field? "properties").map fun p => p.items "expressions").getD []
    |>.any fun p => p.isA .temporaryProperty

/-- Whether a statement creates something from a query. -/
def isFilled (t : Tree) : Bool :=
  (t.field? "expression").any Tree.isQuery

/-- The parts of the definition of a table, if it has some. -/
def definitionParts (t : Tree) : List Tree :=
  match t.field? "this" with
  | some s => if s.isA .schema then s.items "expressions" else []
  | none => []

/-- A statement with other parts in the definition of its table. -/
def withParts (parts : List Tree) (t : Tree) : Tree :=
  match t.field? "this" with
  | some s => if s.isA .schema then t.set "this" (s.set "expressions" (.many parts)) else t
  | none => t

/-- A column that is marked as a primary key. -/
def markedAsKey (column : Tree) : Tree :=
  column.push "constraints"
    (.of .columnConstraint [("kind", .of .primaryKeyConstraint [])])

/-- A statement that creates a table, with a primary key of one column at that column; or the name
of the column, if there is none of that name with a type. -/
def withColumnKey (t : Tree) : Except String Tree :=
  let parts := definitionParts t
  match (parts.filter fun p => p.isA .primaryKey).getLast? with
  | none => .ok t
  | some key =>
    match key.items "expressions" with
    | [column] =>
      let name := column.outputName
      let isNamed (p : Tree) : Bool := p.isA .columnDef && p.name == name
      if parts.any isNamed then
        let parts := parts.filter fun p => !p.isA .primaryKey
        .ok (withParts (parts.map fun p => if isNamed p then markedAsKey p else p) t)
      else .error name
    | _ => .ok t

/-- A statement that creates a table, without primary keys among its columns, and the first key. -/
def withoutTableKey (t : Tree) : Tree × Option Tree :=
  let parts := definitionParts t
  match parts.find? fun p => p.isA .primaryKey with
  | none => (t, none)
  | some key =>
    let before := parts.takeWhile fun p => !p.isA .primaryKey
    (withParts (before ++ parts.drop (before.length + 1)) t, some key)

/-- Whether a part of a definition is a mark for unique values. -/
def isUniqueMark (constraint : Tree) : Bool :=
  constraint.isA .uniqueConstraint
    || (constraint.field? "kind").any fun k => k.isA .uniqueConstraint

/-- Whether a part of a definition holds a mark for unique values right in it. -/
def holdsUniqueMark (part : Tree) : Bool :=
  part.isA .constraint && (part.items "expressions").any isUniqueMark

/-- A statement that creates a table, without marks for unique values. A mark for several columns
takes all parts of the definition with it. -/
def withoutUniqueColumns (t : Tree) : Tree :=
  let parts := definitionParts t
  if parts.any fun p => p.isA .uniqueConstraint then t.drop "this"
  else
    let unmarked (p : Tree) : Tree :=
      if (p.items "constraints").any isUniqueMark then
        p.set "constraints" (.many ((p.items "constraints").filter fun c => !isUniqueMark c))
      else p
    withParts ((parts.filter fun p => !holdsUniqueMark p).map unmarked) t

/-- A statement that creates a view, without names for its columns. -/
def withoutViewColumns (t : Tree) : Tree :=
  if created t == "VIEW" then withParts [] t else t

/-- A view that lasts for a session in place of a table that a query fills. -/
def asTemporaryView (t : Tree) : Tree :=
  if created t == "TABLE" && isTemporary t && (t.field? "expression").isSome then
    .of .create [("kind", .text "TEMPORARY VIEW"), ("this", .ofOption (t.field? "this")),
      ("expression", .ofOption (t.field? "expression"))]
  else t

/-- The table that a statement creates. -/
def createdTable (t : Tree) : Tree :=
  match t.field? "this" with
  | some s => if s.isA .schema then .ofOption (s.field? "this") else s
  | none => .absent

/-- A statement whose table is marked as lasting for a session, if it does. -/
def withTemporaryName (t : Tree) : Tree :=
  if created t == "TABLE" && isTemporary t then
    let table := createdTable t
    match table.field? "this" with
    | some name =>
      let table := table.set "this" (name.set "temporary" (.flag true))
      match t.field? "this" with
      | some s => t.set "this" (if s.isA .schema then s.set "this" table else table)
      | none => t
    | none => t
  else t

/-- A query that fills a new table with the rows of another query. -/
def selectedInto (t : Tree) : Tree :=
  let source := Tree.subquery (.ofOption (t.field? "expression")) (some (.nameOf "temp"))
  (Tree.fromSource source (.select [.star])).set "into"
    (.of .into [("this", createdTable t)])

/-- A condition that asks for the entry of a table in a catalogue. -/
def catalogueEntry (table : Tree) : Tree :=
  let entry (column : String) (name : String) : Option Tree :=
    (table.field? name).map fun u =>
      Tree.operation .eq (.column (.nameOf column) .absent) (.string u.outputName)
  match (entry "TABLE_NAME" "this").toList ++ (entry "TABLE_SCHEMA" "db").toList
      ++ (entry "TABLE_CATALOG" "catalog").toList with
  | [] => .absent
  | c :: cs => .allOf c cs

end Rewriting
end Sql
end SqlDialects
