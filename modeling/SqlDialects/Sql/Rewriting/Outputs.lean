import SqlDialects.Sql.Rewriting.Conditions
import SqlDialects.Sql.Tree.Output
import SqlDialects.Sql.Tree.Walk

/-!
# Names of columns

Dialects differ in where the columns of a query get their names, and in where those names count.

**Results.**
* `Rewriting.withInnerColumns` moves names of columns into a named query.
* `Rewriting.withRecursiveColumns` names the columns of queries that go back to themselves.
* `Rewriting.withOutputNames` names every column of a query that stands for a table.
* `Rewriting.groupedByAlias` groups rows by aliases.
* `Rewriting.withLocalAliases` and `Rewriting.withQualifiedStar` say which columns are meant.
-/

namespace SqlDialects
namespace Sql
namespace Rewriting

/-- The names of columns after the alias of a tree. -/
def aliasColumns (t : Tree) : List Tree :=
  ((t.field? "alias").map fun a => a.items "columns").getD []

mutual

/-- A query with other expressions for its columns; in a combination, its first query has them. -/
def withSelections (items : List Tree) : Tree → Tree
  | .node .select fs cs p => (Tree.node .select fs cs p).set "expressions" (.many items)
  | .node k fs cs p => .node k (withSelectionsField items fs) cs p
  | t => t

/-- The fields of a combination whose first query has other expressions. -/
def withSelectionsField (items : List Tree) : List (String × Tree) → List (String × Tree)
  | [] => []
  | (name, t) :: fs =>
    (name, if name == "this" then withSelections items t else t) :: withSelectionsField items fs

end

/-- An expression with a name for its column in place of the one it has. -/
def renamed (name item : Tree) : Tree :=
  let inner := if item.isA .aliasOf then Tree.ofOption (item.field? "this") else item
  inner.aliased (.nameOf name.label)

/-- A named query whose columns are named by its own expressions. A query for all columns of its
sources stays as it is. -/
def withInnerColumns (t : Tree) : Tree :=
  let names := (aliasColumns t).map fun name => Tree.identifier name.outputName false
  match t.field? "this", t.field? "alias" with
  | some query, some a =>
    if names.isEmpty || query.selectsAll then t
    else
      let items := query.selections
      let named := List.zipWith renamed names items ++ items.drop names.length
      (t.set "this" (withSelections named query)).set "alias" (a.drop "columns")
  | _, _ => t

/-- Named queries with names for the columns of those without any, given how many columns had no
name so far. -/
def withColumnLists : (unnamed : Nat) → List Tree → List Tree
  | _, [] => []
  | n, t :: ts =>
    match t.field? "this", t.field? "alias" with
    | some query, some a =>
      if !(aliasColumns t).isEmpty then t :: withColumnLists n ts
      else
        let (names, m) := query.selections.foldl (fun (names, m) item =>
          let s := item.aliasOrName
          if s.isEmpty then (names ++ [Tree.nameOf ("_c_" ++ toString m)], m + 1)
          else (names ++ [Tree.nameOf s], m)) (([] : List Tree), n)
        t.set "alias" (a.set "columns" (.many names)) :: withColumnLists m ts
    | _, _ => t :: withColumnLists n ts

/-- Queries that go back to themselves with names for their columns. -/
def withRecursiveColumns (t : Tree) : Tree :=
  if t.holds "recursive" then
    t.set "expressions" (.many (withColumnLists 0 (t.items "expressions")))
  else t

/-- An expression at a position with a name for its column. -/
def withOutputName (item : Tree) (n : Nat) : Tree :=
  let fallback := "_col_" ++ toString n
  if item.isA .subquery then
    if item.aliasText.isEmpty then item.set "alias" (.tableAlias (.nameOf fallback)) else item
  else if item.isA .aliasOf || item.isAllColumns then item
  else
    let s := item.outputName
    let quoted :=
      item.isA .column && ((item.field? "this").map fun u => u.holds "quoted") == some true
    let name := Tree.nameOf (if s.isEmpty then fallback else s)
    item.aliased (if quoted then name.set "quoted" (.flag true) else name)

/-- A query that stands for a table, with a name for every column, unless its alias names them. -/
def withOutputNames (t : Tree) : Tree :=
  match t.field? "this", t.field? "alias" with
  | some query, some a =>
    if a.isA .tableAlias && (a.items "columns").isEmpty && query.isA .select then
      let items := (query.items "expressions").zipIdx.map fun (item, n) => withOutputName item n
      t.set "this" (query.set "expressions" (.many items))
    else t
  | _, _ => t

/-- A query in which rows that are ordered are grouped by aliases, where there are some. -/
def groupedByAlias (t : Tree) : Tree :=
  match t.field? "group", t.field? "order" with
  | some group, some _ =>
    let aliases := ((t.items "expressions").filter fun e => e.isA .aliasOf).reverse
    let byAlias (key : Tree) : Tree :=
      if isInteger key then key
      else
        match aliases.find? fun e => (e.field? "this").any fun u => u.same false key with
        | some e => .column (.ofOption (e.field? "alias")) .absent
        | none => key
    t.set "group" (group.set "expressions" (.many ((group.items "expressions").map byAlias)))
  | _, _ => t

/-- Aliases that are in force, and whether they are in quotes. -/
abbrev Aliases := List (String × Bool)

/-- A tree in which columns that are aliases say so. -/
def localized (aliases : Aliases) (t : Tree) : Tree :=
  t.replace fun u =>
    if u.isA .column && (u.field? "table").isNone then
      (aliases.lookup u.name).map fun quoted =>
        .column (.identifier u.name (quoted || !Tree.isPlainName u.name))
          (.identifier "LOCAL" false)
    else none

/-- The alias of an expression. -/
def aliasOf? (item : Tree) : Option (String × Bool) :=
  if item.isA .aliasOf then
    (item.field? "alias").map fun a => ((a.text? "this").getD "", a.holds "quoted")
  else none

/-- Expressions in which columns that are aliases of earlier expressions say so. -/
def localizedItems : Aliases → List Tree → List Tree
  | _, [] => []
  | before, item :: items =>
    match aliasOf? item with
    | some a =>
      item.set "this" (localized before (.ofOption (item.field? "this")))
        :: localizedItems (a :: before) items
    | none => localized before item :: localizedItems before items

/-- A query in which columns that are aliases say so. -/
def withLocalAliases (t : Tree) : Tree :=
  let aliases := ((t.items "expressions").filterMap aliasOf?).reverse
  let t := ["where", "group", "having"].foldl (fun t name =>
    match t.field? name with
    | some c => t.set name (localized aliases c)
    | none => t) t
  t.set "expressions" (.many (localizedItems [] (t.items "expressions")))

/-- What a source of a query is called where its columns are meant. -/
def sourceName (source : Tree) : Tree :=
  let name := source.aliasOrName
  if source.isA .table then
    match source.field? "this" with
    | some n => if n.isA .identifier then n else .nameOf name
    | none => .nameOf name
  else .nameOf name

/-- A query in which a star among other expressions says whose columns are meant. -/
def withQualifiedStar (t : Tree) : Tree :=
  let items := t.items "expressions"
  let isBare (u : Tree) : Bool := u.isA .star
  if items.any isBare && items.any fun u => !isBare u then
    let source := (t.field? "from_").bind fun f => f.field? "this"
    let sources := source.toList ++ (t.items "joins").filterMap fun j => j.field? "this"
    let stars := sources.map fun s => Tree.column .star (sourceName s)
    if stars.isEmpty then t
    else t.set "expressions" (.many (items.flatMap fun u => if isBare u then stars else [u]))
  else t

end Rewriting
end Sql
end SqlDialects
