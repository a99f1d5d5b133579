import SqlDialects.Engine.Basic

/-!
# SQL libraries

What an engine is built on: a library that knows some dialects by names of its own, parses,
renders, and turns its trees into data and back. It reports failures of its own classes.

A dialect that is selected is given by its name in the library; the empty name is the library's
base dialect, which is always there.
-/

namespace SqlDialects

/-- What a library hands out where a tree is expected: a tree, or a value that is none. An empty
statement is the absent value. -/
inductive Node (ε : Type) where
  | tree (e : ε)
  | other (v : Value)

/-- A node as a tree, if it is one. -/
def Node.tree? {ε : Type} : Node ε → Option ε
  | tree e => some e
  | other _ => none

/-- Whether a node stands for an empty statement. -/
def Node.isEmpty {ε : Type} : Node ε → Bool
  | other .null => true
  | _ => false

/-- A SQL library; its trees are of the kind `ε`. -/
structure Library (τ ε : Type) where
  version : String
  /-- Whether there is a dialect of a name. -/
  hasDialect : (name : String) → Task τ Bool
  /-- Parses all statements. A parser either stops at the first error or collects errors. -/
  parse : (dialect sql : String) → (collect : Bool) → Task τ (List (Node ε))
  parseOne : (dialect sql : String) → Task τ (Node ε)
  render : ε → (dialect : String) → (pretty : Bool) → UnsupportedLevel → Task τ String
  dump : Node ε → Task τ Value
  load : Json → Task τ (Node ε)
  /-- The name of the kind of a tree. -/
  treeKind : ε → String

end SqlDialects
