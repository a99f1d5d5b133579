import SqlDialects.Engine.Basic
import SqlDialects.Engine.Script

/-!
# Scripted engines

An engine whose answers are written down beforehand, and which keeps a list of the calls it gets.

**Rules.**
* A method without answers has a default.
* A call is written down before its answer is given, also if the answer is a failure.

**Results.**
* `Scripted.engine` is the engine of a script. `Scripted.State.calls` lists the calls in order.
-/

namespace SqlDialects
namespace Scripted

/-- The methods of an engine. -/
inductive Method where
  | transpile
  | parse
  | parseOne
  | generate
  | validate
  | dump
  | load
deriving DecidableEq, Repr

/-- The name of a method. -/
def Method.label : Method → String
  | transpile => "transpile"
  | parse => "parse"
  | parseOne => "parse_one"
  | generate => "generate"
  | validate => "validate"
  | dump => "dump"
  | load => "load"

/-- A call that an engine has received. -/
inductive Call where
  | version
  | transpile (sql : String) (source target : Dialect)
  | parse (sql : String) (dialect : Dialect)
  | parseOne (sql : String) (dialect : Dialect)
  | generate (tree : Value) (dialect : Dialect) (pretty : Bool)
  | validate (sql : String) (dialect : Dialect)
  | dump
  | load (data : Json)

/-- The state of a scripted engine. -/
structure State where
  script : Script Method
  calls : List Call

/-- Writes a call down. -/
def note (c : Call) : Task State Unit :=
  Task.onState fun s => ((), { s with calls := s.calls ++ [c] })

/-- Writes a call down and gives the next answer of a method, or its default. -/
def answer (m : Method) (c : Call) (fallback : Value) : Task State Value := do
  note c
  let a ← Task.onState fun s =>
    let (a, script) := nextOr m fallback s.script
    (a, { s with script := script })
  Task.ofExcept a

/-- The engine of a version; its script is in the state. -/
def engine (version : String) (report : Value → Except Failure Report) : Engine State Value :=
  { kind := "FakeEngine"
    level := none
    version := do note .version; return version
    transpile := fun sql source target => do
      let v ← answer .transpile (.transpile sql source target) (.list [])
      return (asList v).map Value.display
    parse := fun sql d => do
      let v ← answer .parse (.parse sql d) (.list [])
      return asList v
    parseOne := fun sql d => answer .parseOne (.parseOne sql d) .null
    generate := fun t d pretty => do
      let v ← answer .generate (.generate t d pretty) (.text "")
      return v.display
    validate := fun sql d => do
      let v ← answer .validate (.validate sql d) (.dict [(.text "valid", .bool true)])
      Task.ofExcept (report v)
    dump := fun t => answer .dump .dump t
    load := fun data => answer .load (.load data) (.ofJson data) }

/-- The factory of engines that follow a script from its start. -/
def factory (version : String) (script : Script Method) (report : Value → Except Failure Report) :
    Task State (Engine State Value) := do
  Task.onState fun s => ((), { s with script := script })
  return engine version report

end Scripted
end SqlDialects
