import SqlDialects.Sql.Tree
import SqlDialects.Value.Basic

/-!
# Trees as records

A tree as a flat list of records, which is how trees are exchanged.

**Rules.**
* Records stand in preorder and are counted from zero. A record names the record that it belongs to
  and the field, and says whether the field holds a list.
* The record of a node has its kind, the comments and the place, and for a conversion the records of
  its type. All other records have a value.
* A field without a value has no record, but a missing item of a list has one.

**Results.**
* `dump` gives the records of a tree.
-/

namespace SqlDialects
namespace Sql
namespace Exchange

/-- Entries of a record. -/
abbrev Entries := List (Value × Value)

/-- An entry of a record. -/
def entry (name : String) (v : Value) : Value × Value :=
  (.text name, v)

/-- What links a record to the one that it belongs to. -/
def link (parent : Nat) (field : String) (listed : Bool) : Entries :=
  [entry "i" (.int parent), entry "k" (.text field)]
    ++ if listed then [entry "a" (.bool true)] else []

/-- The entries of a place. -/
def placeEntries (p : Place) : Entries :=
  [entry "line" (.int p.line), entry "col" (.int p.column), entry "start" (.int p.start),
    entry "end" (.int p.stop)]

/-- How a node came about, as a value. -/
def originValue (o : Origin) : Value :=
  .dict ((o.spelling.map fun s => entry "name" (.text s)).toList
    ++ ((o.place.map placeEntries).getD []) ++ if o.leading then [entry "top" (.bool true)] else [])

/-- The entries that follow the kind of a node. -/
def remarks (comments : List String) (origin : Option Origin) : Entries :=
  (if comments.isEmpty then [] else [entry "o" (.list (comments.map .text))])
    ++ match origin with
      | some o => [entry "m" (originValue o)]
      | none => []

/-- The kind that stands for the name of a type. -/
def typeKind : String :=
  "DataType.Type"

mutual

/-- The records of a tree whose first record has a number and some entries. -/
def records (n : Nat) (first : Entries) : Tree → List Value
  | .node k fs cs p =>
    let type := if k.isCast then typeEntry fs else []
    .dict (first ++ [entry "c" (.text k.path)] ++ type ++ remarks cs p)
      :: fieldRecords n (n + 1) fs
  | .many _ => []
  | .scalar v => [.dict (first ++ [entry "v" (.ofJson v)])]
  | .typeName s => [.dict (first ++ [entry "c" (.text typeKind), entry "v" (.text s)])]

/-- The type of a conversion as an entry. -/
def typeEntry : List (String × Tree) → Entries
  | [] => []
  | (name, t) :: fs =>
    if name == "to" then [entry "t" (.list (records 0 [] t))] else typeEntry fs

/-- The records of the fields of a node, numbered from `n` on. -/
def fieldRecords (parent n : Nat) : List (String × Tree) → List Value
  | [] => []
  | (name, .many ts) :: fs =>
    let rs := itemRecords parent n name ts
    rs ++ fieldRecords parent (n + rs.length) fs
  | (name, t) :: fs =>
    let rs := if t.isAbsent then [] else records n (link parent name false) t
    rs ++ fieldRecords parent (n + rs.length) fs

/-- The records of the items of a list. -/
def itemRecords (parent n : Nat) (name : String) : List Tree → List Value
  | [] => []
  | t :: ts =>
    let rs := records n (link parent name true) t
    rs ++ itemRecords parent (n + rs.length) name ts

end

/-- The records of a tree. -/
def dump (t : Tree) : Value :=
  .list (records 0 [] t)

end Exchange
end Sql
end SqlDialects
