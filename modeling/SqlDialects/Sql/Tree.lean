import SqlDialects.Json.Basic
import SqlDialects.Sql.Kind
import SqlDialects.Sql.Token

/-!
# Syntax trees

Trees as payloads carry them: nodes of a kind with named fields, whose values are trees, lists of
trees, plain data or names of types. Fields keep the order in which they were set.

**Rules.**
* A field whose value is null counts as absent; it only keeps a place in the order.
* A node carries the comments that belong to it and may say how it came about: the place of the
  token it was made from, and the spelling of that token where dialects tell spellings apart.
-/

namespace SqlDialects
namespace Sql

/-- How a node came about; nothing at all may be known of it. -/
structure Origin where
  /-- The place of the token that it was made from. -/
  place : Option Place
  /-- How the token was spelled, if that is kept. -/
  spelling : Option String
  /-- Whether it is a number of rows that stood before the expressions of its query. -/
  leading : Bool
  /-- What goes wrong where its comments are written, if one of them is no text. -/
  badComment : Option String
deriving DecidableEq, Repr, Inhabited

/-- A syntax tree, or a part of one. -/
inductive Tree where
  | node (kind : Kind) (fields : List (String × Tree)) (comments : List String)
    (origin : Option Origin)
  | many (items : List Tree)
  | scalar (v : Json)
  | typeName (name : String)
deriving Inhabited

namespace Tree

/-- The absent value. -/
def absent : Tree :=
  scalar .null

/-- Whether a value counts as absent. -/
def isAbsent : Tree → Bool
  | scalar .null => true
  | _ => false

/-- A text. -/
def text (s : String) : Tree :=
  scalar (.text s)

/-- A truth value. -/
def flag (b : Bool) : Tree :=
  scalar (.bool b)

/-- A tree that may be missing. -/
def ofOption (t : Option Tree) : Tree :=
  t.getD absent

/-- A node of a kind with some fields. -/
def of (kind : Kind) (fields : List (String × Tree)) : Tree :=
  node kind fields [] none

/-- The kind of a node. -/
def kind? : Tree → Option Kind
  | node k _ _ _ => some k
  | _ => none

/-- Whether a tree is a node of a kind. -/
def isA (k : Kind) (t : Tree) : Bool :=
  t.kind? == some k

/-- The fields of a node. -/
def fields : Tree → List (String × Tree)
  | node _ fs _ _ => fs
  | _ => []

/-- The comments of a node. -/
def comments : Tree → List String
  | node _ _ cs _ => cs
  | _ => []

/-- The value of a field, unless it is absent. -/
def field? (name : String) (t : Tree) : Option Tree :=
  (t.fields.lookup name).filter fun v => !v.isAbsent

/-- The items of a field that holds a list; a text is a list of its characters. -/
def items (name : String) (t : Tree) : List Tree :=
  match t.field? name with
  | some (many ts) => ts
  | some (scalar (.text s)) => s.toList.map fun c => text c.toString
  | _ => []

/-- The plain data in a field. -/
def data? (name : String) (t : Tree) : Option Json :=
  match t.field? name with
  | some (scalar v) => some v
  | _ => none

/-- The text in a field. -/
def text? (name : String) (t : Tree) : Option String :=
  match t.data? name with
  | some (.text s) => some s
  | _ => none

/-- Whether a value counts as true. -/
def isTrue : Tree → Bool
  | many ts => !ts.isEmpty
  | scalar .null => false
  | scalar (.bool b) => b
  | scalar (.int i) => i != 0
  | scalar (.text s) => !s.isEmpty
  | _ => true

/-- Whether a field holds a true value. -/
def holds (name : String) (t : Tree) : Bool :=
  (t.field? name).any isTrue

/-- The node with a field set: a field that is there keeps its place, a new one goes to the end. -/
def set (t : Tree) (name : String) (value : Tree) : Tree :=
  match t with
  | node k fs cs p => node k (Json.setMember name value fs) cs p
  | t => t

/-- The node without a field. -/
def drop (name : String) : Tree → Tree
  | node k fs cs p => node k (fs.filter fun f => f.1 != name) cs p
  | t => t

/-- The node with an item added to a field that holds a list. -/
def push (t : Tree) (name : String) (value : Tree) : Tree :=
  t.set name (many (t.items name ++ [value]))

/-- The node with comments after those it has. -/
def addComments (more : List String) : Tree → Tree
  | node k fs cs p => node k fs (cs ++ more) p
  | t => t

/-- The node with some comments in place of its own. -/
def withComments (cs : List String) : Tree → Tree
  | node k fs _ p => node k fs cs p
  | t => t

/-- How a node came about. -/
def origin? : Tree → Option Origin
  | node _ _ _ o => o
  | _ => none

/-- The node at a place. -/
def atPlace (p : Place) : Tree → Tree
  | node k fs cs _ => node k fs cs (some ⟨some p, none, false, none⟩)
  | t => t

/-- The node made from a token at a place, whose spelling is kept. -/
def spelled (p : Place) (s : String) : Tree → Tree
  | node k fs cs _ => node k fs cs (some ⟨some p, some s, false, none⟩)
  | t => t

/-- The node as a number of rows that stood before the expressions of its query. -/
def leading : Tree → Tree
  | node k fs cs _ => node k fs cs (some ⟨none, none, true, none⟩)
  | t => t

/-- Whether a node is a number of rows that stood before the expressions of its query. -/
def isLeading (t : Tree) : Bool :=
  t.origin?.any Origin.leading

/-- The node, which says that nothing is known of how it came about unless it says more. -/
def examined : Tree → Tree
  | node k fs cs o => node k fs cs (some (o.getD ⟨none, none, false, none⟩))
  | t => t

/-- The name that a node carries: its own, or that of what it stands for. -/
def name : Tree → String
  | t =>
    match t.field? "this" with
    | some (scalar (.text s)) => s
    | some (node .identifier fs _ _) => named fs
    | some (node .literal fs _ _) => named fs
    | some (node .var fs _ _) => named fs
    | some (node .star _ _ _) => "*"
    | some (node .null _ _ _) => "NULL"
    | _ => ""
where
  /-- The text of a name or a literal. -/
  named (fs : List (String × Tree)) : String :=
    match fs.lookup "this" with
    | some (scalar (.text s)) => s
    | _ => ""

/-- Whether a tree is a query. -/
def isQuery (t : Tree) : Bool :=
  (t.kind?.map Kind.isQuery).getD false

/-- Whether a tree is a function call or a call over a window. -/
def isCall (t : Tree) : Bool :=
  (t.kind?.map fun k => k.isFunction || k == .window).getD false

mutual

/-- A query without parentheses around it that have no other use. -/
def unwrapped : Tree → Tree
  | node .subquery fs cs o =>
    if fs.all fun f => f.1 == "this" || !f.2.isTrue then wrappedIn (node .subquery fs cs o) fs
    else node .subquery fs cs o
  | t => t

/-- The unwrapped query among the fields of parentheses, which stand for themselves if there is
none. -/
def wrappedIn (around : Tree) : List (String × Tree) → Tree
  | [] => around
  | (name, t) :: fs => if name == "this" then unwrapped t else wrappedIn around fs

end

/-- The fields that a node has to have and that it lacks; an empty list counts as lacking. -/
def missing (t : Tree) : List String :=
  match t.kind? with
  | none => []
  | some k => k.required.filter fun f =>
    match t.field? f with
    | none => true
    | some (many ts) => ts.isEmpty
    | some _ => false

end Tree
end Sql
end SqlDialects
