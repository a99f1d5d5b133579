import SqlDialects.Sql.Tree

/-!
# The outputs of queries

What the columns of a query are called, as far as the query itself tells.

**Results.**
* `Tree.selections` are the expressions that make up the columns of a query; those of a combination
  are the ones of its first query.
* `Tree.outputName` is the name of a column, which may be empty.
-/

namespace SqlDialects
namespace Sql
namespace Tree

mutual

/-- The name that a tree carries; a conversion has the name of its value. -/
def label : Tree → String
  | node .cast fs _ _ => labelField "this" fs
  | node .tryCast fs _ _ => labelField "this" fs
  | node .dot fs _ _ => labelField "expression" fs
  | t => t.name

/-- The name that the value of a field carries. -/
def labelField (name : String) : List (String × Tree) → String
  | [] => ""
  | (n, t) :: fs => if n == name then label t else labelField name fs

end

/-- The text of the alias of a tree. -/
def aliasText (t : Tree) : String :=
  match t.field? "alias" with
  | some (node .tableAlias fs cs p) => (node .tableAlias fs cs p).name
  | some (node .identifier fs _ _) => name.named fs
  | some (scalar (.text s)) => s
  | _ => ""

/-- The alias of a tree, or else the name that it carries. -/
def aliasOrName (t : Tree) : String :=
  if t.aliasText.isEmpty then t.label else t.aliasText

/-- The name of a column that an expression makes, which is empty for most expressions. -/
def outputName (t : Tree) : String :=
  match t.kind? with
  | some .star => "*"
  | some .column => t.name
  | some .aliasOf | some .subquery => t.aliasText
  | some .identifier | some .literal => (t.text? "this").getD ""
  | some .cast | some .tryCast | some .dot => t.label
  | some .paren => labelField "this" t.fields
  | _ => ""

/-- Whether a tree stands for all columns of its sources. -/
def isAllColumns (t : Tree) : Bool :=
  t.isA .star || (t.isA .column && (t.field? "this").any fun u => u.isA .star)

mutual

/-- The expressions that make up the columns of a query. -/
def selections : Tree → List Tree
  | node .select fs cs p => (node .select fs cs p).items "expressions"
  | node .unionOf fs _ _ => selectionsOfField fs
  | node .exceptOf fs _ _ => selectionsOfField fs
  | node .intersectOf fs _ _ => selectionsOfField fs
  | node .subquery fs _ _ => selectionsOfField fs
  | _ => []

/-- The expressions that make up the columns of the query in the first place. -/
def selectionsOfField : List (String × Tree) → List Tree
  | [] => []
  | (n, t) :: fs => if n == "this" then selections t else selectionsOfField fs

end

mutual

/-- Whether a query has all columns of its sources among its own. -/
def selectsAll : Tree → Bool
  | node .select fs cs p => ((node .select fs cs p).items "expressions").any isAllColumns
  | node .unionOf fs _ _ => selectsAllField fs
  | node .exceptOf fs _ _ => selectsAllField fs
  | node .intersectOf fs _ _ => selectsAllField fs
  | node .subquery fs _ _ => selectsAllField fs
  | _ => false

/-- Whether a part of a query has all columns of its sources. -/
def selectsAllField : List (String × Tree) → Bool
  | [] => false
  | (n, t) :: fs =>
    ((n == "this" || n == "expression") && selectsAll t) || selectsAllField fs

end

/-- A name that is not taken: some letters, or those with the first number from two on. -/
def newName (taken : List String) (base : String) : String :=
  if !taken.contains base then base
  else
    let numbered := (List.range (taken.length + 1)).map fun n => base ++ "_" ++ toString (n + 2)
    (numbered.find? fun s => !taken.contains s).getD base

end Tree
end Sql
end SqlDialects
