import SqlDialects.Sql.Tree
import SqlDialects.Text.Case

/-!
# Walking through trees

Changes and searches that reach every node of a tree.

**Results.**
* `Tree.replace` puts trees in place of others, from the top down.
* `Tree.adjust` changes every node, from the leaves up.
* `Tree.search` lists the nodes that pass a test, outer ones before inner ones.
* `Tree.same` compares what trees say, whatever their comments and places.
-/

namespace SqlDialects
namespace Sql
namespace Tree

mutual

/-- A tree with other trees in place of those that a rule replaces. What is put in place of a tree
is left alone. -/
def replace (rule : Tree → Option Tree) (t : Tree) : Tree :=
  match rule t with
  | some t' => t'
  | none =>
    match t with
    | node k fs cs p => node k (replaceFields rule fs) cs p
    | many ts => many (replaceItems rule ts)
    | t => t

/-- Fields with trees replaced in their values. -/
def replaceFields (rule : Tree → Option Tree) : List (String × Tree) → List (String × Tree)
  | [] => []
  | (name, t) :: fs => (name, replace rule t) :: replaceFields rule fs

/-- Trees with trees replaced in them. -/
def replaceItems (rule : Tree → Option Tree) : List Tree → List Tree
  | [] => []
  | t :: ts => replace rule t :: replaceItems rule ts

end

mutual

/-- A tree with all its nodes changed, inner ones before outer ones. -/
def adjust (change : Tree → Tree) : Tree → Tree
  | node k fs cs p => change (node k (adjustFields change fs) cs p)
  | many ts => many (adjustItems change ts)
  | t => t

/-- Fields with all nodes in their values changed. -/
def adjustFields (change : Tree → Tree) : List (String × Tree) → List (String × Tree)
  | [] => []
  | (name, t) :: fs => (name, adjust change t) :: adjustFields change fs

/-- Trees with all their nodes changed. -/
def adjustItems (change : Tree → Tree) : List Tree → List Tree
  | [] => []
  | t :: ts => adjust change t :: adjustItems change ts

end

mutual

/-- The nodes that pass a test, an outer one before those in it. -/
def search (p : Tree → Bool) (t : Tree) : List Tree :=
  match t with
  | node k fs cs origin =>
    (if p (node k fs cs origin) then [node k fs cs origin] else []) ++ searchFields p fs
  | many ts => searchItems p ts
  | _ => []

/-- The nodes in the values of fields that pass a test. -/
def searchFields (p : Tree → Bool) : List (String × Tree) → List Tree
  | [] => []
  | (_, t) :: fs => search p t ++ searchFields p fs

/-- The nodes in some trees that pass a test. -/
def searchItems (p : Tree → Bool) : List Tree → List Tree
  | [] => []
  | t :: ts => search p t ++ searchItems p ts

end

/-- The nodes of a kind in a tree. -/
def searchKind (k : Kind) (t : Tree) : List Tree :=
  t.search fun u => u.isA k

/-- Whether some node in a tree is of a kind. -/
def contains (k : Kind) (t : Tree) : Bool :=
  !(t.searchKind k).isEmpty

/-- Whether a value is as good as absent where trees are compared. -/
def isVoid : Tree → Bool
  | scalar .null | scalar (.bool false) => true
  | many [] => true
  | _ => false

/-- Whether case matters in the texts of a node. -/
def mindsCase (k : Kind) : Bool :=
  k == .identifier || k == .literal

mutual

/-- Whether two trees say the same. Comments, places and the order of fields do not matter; data
that no statement is made of are the same as nothing. -/
def same (exact : Bool) (a b : Tree) : Bool :=
  match a with
  | node k fs _ _ =>
    b.kind? == some k && sameFields (mindsCase k) fs b
      && (fs.filter fun f => !f.2.isVoid).length
        == (b.fields.filter fun f => !f.2.isVoid).length
  | many ts =>
    match b with
    | many us => sameItems exact ts us
    | _ => false
  | scalar (.text s) =>
    match b with
    | scalar (.text u) => if exact then s == u else Text.lower s == Text.lower u
    | _ => false
  | scalar (.bool v) =>
    match b with
    | scalar (.bool w) => v == w
    | _ => false
  | scalar (.int v) =>
    match b with
    | scalar (.int w) => v == w
    | _ => false
  | scalar _ => false
  | typeName s =>
    match b with
    | typeName u => s == u
    | _ => false

/-- Whether the values of fields are the same in a node. -/
def sameFields (exact : Bool) : List (String × Tree) → Tree → Bool
  | [], _ => true
  | (name, t) :: fs, b =>
    (if t.isVoid then true
      else (b.fields.lookup name).any fun u => !u.isVoid && same exact t u)
      && sameFields exact fs b

/-- Whether two lists of trees are the same. -/
def sameItems (exact : Bool) : List Tree → List Tree → Bool
  | [], us => us.isEmpty
  | t :: ts, us =>
    match us with
    | [] => false
    | u :: us => same exact t u && sameItems exact ts us

end

end Tree
end Sql
end SqlDialects
