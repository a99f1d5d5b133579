import SqlDialects.Sql.Features.Catalog
import SqlDialects.Sql.Printer.Queries
import SqlDialects.Sql.Rewriting.Definitions

/-!
# Writing statements

Statements that change tables, and the choice of the rule for a node.

**Results.**
* `Pen.within` writes trees that are nested no deeper than a number.
* `print` gives the text of a tree and what the dialect cannot say.
-/

namespace SqlDialects
namespace Sql
namespace Pen

open Writing

/-- A word if a field holds a true value. -/
def wordIf (word name : String) (t : Tree) : String :=
  if t.holds name then word else ""

/-- Writes a table with its columns. -/
def schema (g : Pen) (t : Tree) : Writing Layout := do
  let this ← g.field "this" t
  let columns ← g.block (t.items "expressions")
  if columns.isEmpty then return this
  let soft ← softGap
  let columns := .ofText "(" ++ soft ++ columns ++ soft ++ .ofText ")"
  return if this.isEmpty then columns else this ++ .ofText " " ++ columns

/-- Writes a column of a table. -/
def columnDef (g : Pen) (t : Tree) : Writing Layout := do
  let name ← g.field "this" t
  let kind ← g.fieldAfter " " "kind" t
  let constraints ← g.flat " " (t.items "constraints")
  return name ++ kind
    ++ (if constraints.isEmpty then .empty else .ofText " " ++ constraints)

/-- Writes a constraint, perhaps after its name. -/
def columnConstraint (g : Pen) (t : Tree) : Writing Layout := do
  let kind ← g.field "kind" t
  let name ← g.field "this" t
  return if name.isEmpty then kind else .ofText "CONSTRAINT " ++ name ++ .ofText " " ++ kind

/-- Writes a statement that adds rows. -/
def insert (g : Pen) (t : Tree) : Writing Layout := do
  let f ← features
  let hints ← hints g t
  let into := (if t.holds "overwrite" then f.overwrite else " INTO") ++ " "
  let this ← g.field "this" t
  let rows ← g.field "expression" t
  let defaults := if f.has .silentDefaults then "" else wordIf "DEFAULT VALUES" "default" t
  let l := .ofText "INSERT" ++ hints ++ .ofText into ++ this
    ++ .ofText (wordIf " BY NAME" "by_name" t ++ wordIf " IF EXISTS" "exists" t) ++ (← gap)
    ++ rows ++ .ofText defaults
  afterNamed g t l

/-- A change whose column says which table it belongs to. -/
def qualifiedChange (table change : Tree) : Tree :=
  match change.field? "this" with
  | some c =>
    if c.isA .column && (c.field? "table").isNone then change.set "this" (c.set "table" table)
    else change
  | none => change

/-- The joins in place of the source that an update takes values from. -/
def updateJoins (source : Tree) : List Tree :=
  let always (join : Tree) : Tree := join.set "on" (.boolean true)
  let nested := (source.items "joins").map fun j =>
    if (j.field? "on").isNone && !j.holds "using" then always j else j
  always (.of .join [("this", source.drop "joins")]) :: nested

/-- Writes a statement that changes rows. -/
def update (g : Pen) (t : Tree) : Writing Layout := do
  let f ← features
  let this ← g.field "this" t
  let source := (t.field? "from_").bind fun u => u.field? "this"
  let target := Tree.ofOption (t.field? "this")
  let changes := t.items "expressions"
  let changes :=
    if f.updates == .joined && source.isSome && target.isA .table then
      changes.map (qualifiedChange (.nameOf target.aliasOrName))
    else changes
  let changes ← g.flat ", " changes
  let (before, after) ←
    match f.updates, source with
    | .joined, some u => do pure (← g.flat "" (updateJoins u), Layout.empty)
    | .fromFirst, _ => do pure (← g.field "from_" t, Layout.empty)
    | _, _ => do pure (Layout.empty, ← g.field "from_" t)
  let rest ← ["where", "order", "limit"].mapM fun n => g.field n t
  afterNamed g t (.join .empty
    ([.ofText "UPDATE ", this, before, .ofText " SET ", changes, after] ++ rest))

/-- A statement that removes rows of a table without an alias. -/
def bareDelete (t : Tree) : Tree :=
  match t.items "tables" ++ (if t.holds "tables" then [] else (t.field? "this").toList) with
  | [table] =>
    let t := (t.set "this" (table.drop "alias")).drop "tables"
    if table.isA .table && (table.field? "alias").isSome then
      t.adjust fun u =>
        if u.isA .column then ["table", "db", "catalog"].foldl (fun c n => c.drop n) u else u
    else t.set "this" table
  | _ => t

/-- A range of values as two comparisons. -/
def withoutRange (t : Tree) : Tree :=
  if t.isA .between then
    let this := Tree.ofOption (t.field? "this")
    .operation .both (.operation .gte this (.ofOption (t.field? "low")))
      (.operation .lte this (.ofOption (t.field? "high")))
  else t

/-- Writes a statement that removes rows. -/
def delete (g : Pen) (t : Tree) : Writing Layout := do
  let f ← features
  let t := if f.has .bareDeletes then bareDelete t else t
  let t := if f.has .noRangesInDeletes then t.adjust withoutRange else t
  let tables ← g.block (t.items "tables")
  let target ← match t.field? "this" with
    | some (.node ..) => g.fieldAfter " FROM " "this" t
    | _ => pure .empty
  let others ← g.block (t.items "using")
  let rest ← ["where", "order", "limit"].mapM fun n => g.field n t
  afterNamed g t (.join .empty
    ([.ofText "DELETE", if tables.isEmpty then .empty else .ofText " " ++ tables, target,
      if others.isEmpty then .empty else .ofText " USING " ++ others] ++ rest))

/-- The word of a dialect for what is created or removed. -/
def kindWord (f : Features) (kind : String) : String :=
  if f.has .schemasAreDatabases && kind == "SCHEMA" then "DATABASE" else kind

/-- Writes a statement that removes what has been created. -/
def remove (g : Pen) (t : Tree) : Writing Layout := do
  let tables ← g.flat ", " (t.items "tables")
  let kind := kindWord (← features) ((t.text? "kind").getD "")
  return .ofText ("DROP" ++ wordIf " TEMPORARY" "temporary" t
      ++ wordIf " MATERIALIZED" "materialized" t ++ " " ++ kind
      ++ wordIf " CONCURRENTLY" "concurrently" t
      ++ (if t.holds "exists" then " IF EXISTS " else " ")) ++ tables
    ++ .ofText (wordIf " CASCADE" "cascade" t ++ wordIf " RESTRICT" "restrict" t
      ++ wordIf " CONSTRAINTS" "constraints" t ++ wordIf " PURGE" "purge" t)

/-- A definition in other words, where the dialect cannot say it as it stands, and a key that is to
be written after the columns. -/
def definition (f : Features) (t : Tree) : Except WriteFault (Tree × Option Tree) :=
  let change (trait : Trait) (r : Tree → Tree) (t : Tree) : Tree := if f.has trait then r t else t
  let t := change .noUniqueColumns Rewriting.withoutUniqueColumns t
  let t := change .temporaryViews Rewriting.asTemporaryView t
  let t := change .bareViews Rewriting.withoutViewColumns t
  let t := change .batches Rewriting.withTemporaryName t
  let (t, key) := if f.has .noTableKeys then Rewriting.withoutTableKey t else (t, none)
  if f.has .columnKeys then
    match Rewriting.withColumnKey t with
    | .ok t => .ok (t, key)
    | .error name => .error (.missingField name)
  else .ok (t, if Rewriting.isTemporary t then key else none)

/-- The word for a table that lasts for a session. -/
def temporaryWord (f : Features) (t : Tree) : String :=
  if !Rewriting.isTemporary t || f.has .batches then ""
  else if f.has .globalTemporaries then " GLOBAL TEMPORARY"
  else " TEMPORARY"

/-- Writes a definition that is not to be put in other words. -/
def plainCreate (g : Pen) (key : Option Tree) (t : Tree) : Writing Layout := do
  let f ← features
  let this ← g.field "this" t
  let key ← match key with
    | some k => pure ((← gap) ++ (← g.write k))
    | none => pure .empty
  let body ← g.field "expression" t
  let body ← if body.isEmpty then pure .empty else pure (.ofText " AS" ++ (← gap) ++ body)
  let kind := kindWord (← features) ((t.text? "kind").getD "")
  let between ← gap
  let stored :=
    if f.has .storedTemporaries && Rewriting.isTemporary t && Rewriting.created t == "TABLE" then
      between ++ .ofText "USING PARQUET"
    else .empty
  let replace := if f.has .batches then " OR ALTER" else " OR REPLACE"
  let head := "CREATE" ++ wordIf replace "replace" t ++ wordIf " UNIQUE" "unique" t
    ++ temporaryWord f t ++ " " ++ kind
    ++ wordIf " CONCURRENTLY" "concurrently" t ++ wordIf " IF NOT EXISTS" "exists" t ++ " "
  afterNamed g t (.ofText head ++ this ++ key ++ stored ++ body)

/-- Writes a definition in a batch: a table is filled by selecting into it, and what may be there
already is asked for first. -/
def batch (g : Pen) (t : Tree) : Writing Layout := do
  let f ← features
  let exists' := t.holds "exists"
  let t := t.drop "exists"
  let kind := Rewriting.created t
  let t :=
    match kind == "VIEW", t.field? "with_", t.field? "expression" with
    | true, some w, some q => (t.set "expression" (q.set "with_" w)).drop "with_"
    | _, _, _ => t
  let l ←
    if kind == "TABLE" && Rewriting.isFilled t then
      afterNamed g t (← g.write (Rewriting.selectedInto t))
    else if exists' then plainCreate g none (t.drop "replace")
    else plainCreate g none t
  if exists' && kind == "TABLE" then
    let entry ← g.write (Rewriting.catalogueEntry (Rewriting.createdTable t))
    return .ofText "IF NOT EXISTS (SELECT * FROM INFORMATION_SCHEMA.TABLES WHERE " ++ entry
      ++ .ofText (") EXEC(" ++ quotedLiteral f l.text ++ ")")
  else return l

/-- Writes a statement that creates a table or a view. -/
def create (g : Pen) (t : Tree) : Writing Layout := do
  let f ← features
  match definition f t with
  | .error e => throw e
  | .ok (t, key) => if f.has .batches then batch g t else plainCreate g key t

/-- Writes a statement that was kept as it is. -/
def command (g : Pen) (t : Tree) : Writing Layout := do
  let rest := Text.trim Text.isSpace ((t.text? "expression").getD "").toList
  return (← g.field "this" t) ++ .ofText (" " ++ String.ofList rest)

/-- Writes what is said of a key at its end. -/
def keyRemarks (g : Pen) (t : Tree) : Writing Layout := do
  let l ← g.flat " " (t.items "options")
  return if l.isEmpty then .empty else .ofText " " ++ l

/-- Writes the mark for a column that is a primary key. -/
def keyMark (g : Pen) (t : Tree) : Writing Layout := do
  if (← features).has .noColumnKeys then return .empty
  match t.data? "desc" with
  | some (.bool descending) => put ("PRIMARY KEY" ++ if descending then " DESC" else " ASC")
  | _ => return .ofText "PRIMARY KEY" ++ (← keyRemarks g t)

/-- Writes the mark for unique values. -/
def uniqueMark (g : Pen) (t : Tree) : Writing Layout := do
  return .ofText ("UNIQUE" ++ wordIf " NULLS NOT DISTINCT" "nulls" t)
    ++ (← g.fieldAfter " " "this" t) ++ (← g.fieldAfter " USING " "index_type" t)
    ++ (← keyRemarks g t)

/-- Writes a key whose values are those of another table. -/
def foreignKey (g : Pen) (t : Tree) : Writing Layout := do
  let columns ← g.flat ", " (t.items "expressions")
  return .ofText "FOREIGN KEY"
    ++ (if columns.isEmpty then .empty else .ofText " (" ++ columns ++ .ofText ")")
    ++ (← g.fieldAfter " " "reference" t) ++ (← keyRemarks g t)

/-- Writes a statement or a part of one. -/
def statement? (g : Pen) (t : Tree) (k : Kind) : Option (Writing Layout) :=
  match k with
  | .insert => some (insert g t)
  | .update => some (update g t)
  | .delete => some (delete g t)
  | .drop => some (remove g t)
  | .create => some (create g t)
  | .command => some (command g t)
  | .schema => some (schema g t)
  | .columnDef => some (columnDef g t)
  | .columnConstraint => some (columnConstraint g t)
  | .properties => some (g.flat " " (t.items "expressions"))
  | .temporaryProperty => some (put "TEMPORARY")
  | .notNullConstraint => some do
    if t.holds "allow_null" then put (if (← features).has .noNullMarks then "" else "NULL")
    else put "NOT NULL"
  | .primaryKeyConstraint => some (keyMark g t)
  | .uniqueConstraint => some (uniqueMark g t)
  | .defaultConstraint => some do return .ofText "DEFAULT " ++ (← g.field "this" t)
  | .checkConstraint => some do
    return .ofText "CHECK (" ++ (← g.field "this" t)
      ++ .ofText (")" ++ wordIf " ENFORCED" "enforced" t)
  | .primaryKey => some do
    return .ofText "PRIMARY KEY (" ++ (← g.flat ", " (t.items "expressions")) ++ .ofText ")"
      ++ (← keyRemarks g t)
  | .foreignKey => some (foreignKey g t)
  | .reference => some do
    return .ofText "REFERENCES " ++ (← g.field "this" t) ++ (← keyRemarks g t)
  | .constraint => some do
    return .ofText "CONSTRAINT " ++ (← g.field "this" t) ++ .ofText " "
      ++ (← g.flat ", " (t.items "expressions"))
  | .block => some (g.flat "; " (t.items "expressions"))
  | _ => none

/-- Whether a value is as good as none. -/
def isNothing : Json → Bool
  | .null | .bool false | .array [] | .object [] => true
  | .bool _ | .array _ | .object _ => false
  | .int i => i == 0
  | .float x => x == 0
  | .text s => s.isEmpty

/-- Writes a tree without the comments of its first node. Data other than texts cannot be written;
nodes that are no part of a statement by themselves have no text. -/
def rule (g : Pen) : Tree → Writing Layout
  | .scalar (.text s) => put s
  | .scalar v =>
    if isNothing v then return .empty else throw (.unwritable (Value.ofJson v).kindName)
  | .many ts => if ts.isEmpty then return .empty else throw (.unwritable "list")
  | .typeName _ => throw (.unwritable "DType")
  | t => inside t do
    match t.kind? with
    | none => return .empty
    | some k =>
      if k.isTextless then throw (.unwritable k.name)
      else ((term? g t k <|> query? g t k) <|> statement? g t k).getD (return .empty)

/-- The pen that writes trees nested no deeper than a number. -/
def within : (depth : Nat) → Pen
  | 0 => ⟨fun _ => throw .tooDeep⟩
  | depth + 1 => ⟨rule (within depth)⟩

end Pen

/-- How deep trees may be nested. -/
def writingLimit : Nat :=
  320

/-- The dialect that a statement is written in: some dialects leave definitions of tables to another
one. -/
def writtenIn (f : Features) (t : Tree) : Features :=
  let foreign :=
    match t.kind? with
    | some .create =>
      if Rewriting.created t == "TABLE" then !Rewriting.isFilled t
      else Rewriting.created t != "VIEW"
    | some .drop => Rewriting.created t != "VIEW"
    | _ => false
  if f.has .foreignDefinitions && foreign then Features.hive else f

/-- A statement as the dialect needs it as a whole. -/
def prepared (f : Features) (t : Tree) : Tree :=
  let t := if (t.kind?.map f.outerQueries.contains).getD false then Rewriting.withOuterQueries t
    else t
  if f.has .numericTruth then Rewriting.comparedWithZero t else t

/-- The text of a tree, and what the dialect cannot say. -/
def print (f : Features) (pretty : Bool) (t : Tree) :
    Except WriteFault (String × List String) :=
  let f := writtenIn f t
  match (Pen.within writingLimit).write (prepared f t) ⟨f, pretty, []⟩ ⟨[], 0⟩ with
  | .error e => .error e
  | .ok (l, draft) => .ok (l.trimmed, draft.notes)

end Sql
end SqlDialects
