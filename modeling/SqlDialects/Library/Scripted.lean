import SqlDialects.Engine.Script
import SqlDialects.Library.Basic

/-!
# Scripted libraries

A library whose dialects and answers are written down beforehand, and which keeps a list of the
calls it gets. Its trees are tags.
-/

namespace SqlDialects
namespace ScriptedLibrary

/-- The methods of a library; every tree is rendered by a method of its own. -/
inductive Method where
  | parse
  | parseOne
  | render (tag : String)
  | load
  | dump
deriving DecidableEq, Repr

/-- A call that a library has received. -/
inductive Call where
  | lookup (name : String)
  | parse (dialect sql : String) (collect : Bool)
  | parseOne (dialect sql : String)
  | render (tag dialect : String) (pretty : Bool) (level : UnsupportedLevel)
  | load (data : Json)
  | dump (node : Value)

/-- The state of a scripted library. -/
structure State where
  script : Scripted.Script Method
  calls : List Call

/-- The value that stands for a tree. -/
def treeValue (tag : String) : Value :=
  .dict [(.text "expr", .text tag)]

/-- A value as a node. -/
def nodeOf : Value → Node String
  | .dict [(.text "expr", .text tag)] => .tree tag
  | v => .other v

/-- A node as a value. -/
def valueOf : Node String → Value
  | .tree tag => treeValue tag
  | .other v => v

/-- Writes a call down. -/
def note (c : Call) : Task State Unit :=
  Task.onState fun s => ((), { s with calls := s.calls ++ [c] })

/-- Writes a call down and gives the next answer of a method, or its default. -/
def answer (m : Method) (c : Call) (fallback : Value) : Task State Value := do
  note c
  let a ← Task.onState fun s =>
    let (a, script) := Scripted.nextOr m fallback s.script
    (a, { s with script := script })
  Task.ofExcept a

/-- The library of a version, with the dialects of some names, or of any name. -/
def library (version : String) (available : Option (List String)) : Library State String :=
  { version := version
    hasDialect := fun name => do
      note (.lookup name)
      return (available.map fun names => names.contains name).getD true
    parse := fun dialect sql collect => do
      let v ← answer .parse (.parse dialect sql collect) (.list [treeValue "s"])
      return (Scripted.asList v).map nodeOf
    parseOne := fun dialect sql => do
      return nodeOf (← answer .parseOne (.parseOne dialect sql) (treeValue "s"))
    render := fun tag dialect pretty level => do
      let v ← answer (.render tag) (.render tag dialect pretty level) (.text ("<" ++ tag ++ ">"))
      return v.display
    dump := fun n => answer .dump (.dump (valueOf n)) (.list [])
    load := fun data => do
      return nodeOf (← answer .load (.load data) (treeValue "s"))
    treeKind := fun _ => "Expression" }

end ScriptedLibrary
end SqlDialects
