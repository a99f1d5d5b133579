import SqlDialects.Sql.Tree.Build
import SqlDialects.Sql.Tree.Output
import SqlDialects.Sql.Tree.Walk
import SqlDialects.Text.Case

/-!
# Windows

Windows with names, and conditions on windows, in other words. A condition on windows becomes a
condition on the rows of a query around the one it stands in.

**Rules.**
* Every column of the query inside gets a name, and each window of the condition a column of its
  own.
* Columns that only the condition uses are added to the query inside.

**Results.**
* `Rewriting.withoutWindowCondition` is a query with no condition on windows.
* `Rewriting.withInlineWindows` is a query whose windows have no names.
-/

namespace SqlDialects
namespace Sql
namespace Rewriting

/-- The names of the columns of a query. -/
def columnNames (items : List Tree) : List String :=
  (items.filter fun e => !e.aliasOrName.isEmpty).map Tree.outputName

/-- Expressions with names for those that have none. -/
def namedItems : (taken : List String) → List Tree → List Tree
  | _, [] => []
  | taken, e :: es =>
    if e.aliasOrName.isEmpty then
      let name := Tree.newName taken "_c"
      e.aliased (.nameOf name) :: namedItems (name :: taken) es
    else e :: namedItems taken es

/-- The expression of an outer query for a column of the inner one. -/
def outerItem (item : Tree) : Tree :=
  let name := item.aliasOrName
  let own := (item.field? "alias" <|> item.field? "this").filter fun u => u.isA .identifier
  match own with
  | some u => .column (.identifier name (u.holds "quoted")) .absent
  | none => if name == "*" then .star else .column (.nameOf name) .absent

/-- A tree in which aliases of expressions are replaced by these. -/
def expanded (items : List Tree) (t : Tree) : Tree :=
  t.replace fun u =>
    if u.isA .column then
      (items.find? fun e => e.isA .aliasOf && e.aliasText == u.name).bind fun e => e.field? "this"
    else none

/-- A condition with columns in place of its windows, and the expressions with those for the windows
and for other columns of the condition. -/
def withoutWindows (whole : Bool) : List Tree → (condition : Tree) → List Tree → Tree × List Tree
  | [], condition, items => (condition, items)
  | u :: us, condition, items =>
    if u.isA .window then
      let name := Tree.newName (columnNames items) "_w"
      let column := Tree.column (.nameOf name) .absent
      let condition := condition.replace fun v =>
        if v.isA .window && v.same false u then some column else none
      withoutWindows whole us condition (items ++ [(expanded items u).aliased (.nameOf name)])
    else if whole || (columnNames items).contains u.name then
      withoutWindows whole us condition items
    else withoutWindows whole us condition (items ++ [u])

mutual

/-- The windows and the columns of a condition, without those that stand in a window. -/
def outermost : Tree → List Tree
  | .node k fs cs o =>
    if k == .window || k == .column then [.node k fs cs o] else outermostFields fs
  | .many ts => outermostItems ts
  | _ => []

/-- The windows and the columns in the values of fields. -/
def outermostFields : List (String × Tree) → List Tree
  | [] => []
  | (_, t) :: fs => outermost t ++ outermostFields fs

/-- The windows and the columns in some trees. -/
def outermostItems : List Tree → List Tree
  | [] => []
  | t :: ts => outermost t ++ outermostItems ts

end

/-- A query with no condition on windows. -/
def withoutWindowCondition (t : Tree) : Tree :=
  match (t.field? "qualify").bind fun q => q.field? "this" with
  | none => t
  | some condition =>
    let items := namedItems (columnNames (t.items "expressions")) (t.items "expressions")
    let whole := items.any Tree.isAllColumns
    let candidates := outermost condition
    let (condition, inner) := withoutWindows whole candidates condition items
    let source := Tree.subquery
      ((t.drop "qualify").set "expressions" (.many inner)) (some (.nameOf "_t"))
    (Tree.fromSource source (.select (items.map outerItem))).filtered condition

/-- The parts that a window takes from the window that it is based on. -/
def windowParts : List String :=
  ["partition_by", "order", "spec"]

/-- A window with the parts of the window that it is based on, if that one has a name among some. -/
def inlined (named : List (String × Tree)) (w : Tree) : Tree :=
  match named.lookup (Text.lower w.aliasText) with
  | none => w
  | some base =>
    windowParts.foldl (fun w n =>
      match (base.field? n).filter Tree.isTrue with
      | some part => w.set n part
      | none => w) (w.set "alias" .absent)

/-- Windows with names, each with the parts of the one that it is based on. -/
def inlinedWindows (named : List (String × Tree)) : List Tree → List (String × Tree)
  | [] => named
  | w :: ws =>
    let w := inlined named w
    inlinedWindows ((Text.lower w.name, w) :: named) ws

/-- A query whose windows with names are written where they are used. -/
def withInlineWindows (t : Tree) : Tree :=
  match t.items "windows" with
  | [] => t
  | ws =>
    let named := inlinedWindows [] ws
    let rule (u : Tree) : Option Tree :=
      if u.isQuery then some u else if u.isA .window then some (inlined named u) else none
    match t.drop "windows" with
    | .node k fs cs o => .node k (Tree.replaceFields rule fs) cs o
    | t => t

end Rewriting
end Sql
end SqlDialects
