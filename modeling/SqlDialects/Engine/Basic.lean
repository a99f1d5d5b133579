import SqlDialects.Diagnostics.Basic
import SqlDialects.Dialect.Basic
import SqlDialects.Log.Record
import SqlDialects.Settings.Basic

/-!
# Engines

What parses and renders SQL behind the bridge. Nothing outside an engine looks into its syntax
trees; they leave it only through `dump` and come back through `load`.

**Model.**
* An engine works on a state of its own kind `σ` and on trees of its own kind `α`.
* A `Task` reads and changes the state, logs records and gives a value or a failure. A failure
  keeps the state and the records of what came before it.
-/

namespace SqlDialects

/-- What a task works on: the engine's state, and the records it has logged. -/
structure Scene (σ : Type) where
  state : σ
  records : List Log.Record

/-- What an engine does. -/
abbrev Task (σ : Type) := ExceptT Failure (StateM (Scene σ))

namespace Task

variable {σ β : Type}

/-- Logs a record. -/
def log (r : Log.Record) : Task σ Unit :=
  modify fun s => { s with records := s.records ++ [r] }

/-- Works on the state. -/
def onState (f : σ → β × σ) : Task σ β :=
  modifyGet fun s => let (b, state) := f s.state; (b, { s with state := state })

/-- The outcome as a value, so that a failure can be looked at. -/
def outcome (t : Task σ β) : Task σ (Except Failure β) :=
  ExceptT.lift (ExceptT.run t)

/-- Gives the value or fails. -/
def ofExcept (e : Except Failure β) : Task σ β :=
  ExceptT.mk (pure e)

end Task

/-- A SQL engine. -/
structure Engine (σ α : Type) where
  /-- The name of the engine's kind. -/
  kind : String
  /-- What its renderer does with unsupported constructs, if it has such a level. -/
  level : Option UnsupportedLevel
  version : Task σ String
  /-- Carries statements from a dialect to another, in order. -/
  transpile : (sql : String) → (source target : Dialect) → Task σ (List String)
  /-- The trees of all statements that are not empty. -/
  parse : (sql : String) → Dialect → Task σ (List α)
  /-- The tree of a single statement. -/
  parseOne : (sql : String) → Dialect → Task σ α
  /-- The text of a tree, on one line or laid out. -/
  generate : (tree : α) → Dialect → (pretty : Bool) → Task σ String
  /-- Checks a text and reports what is wrong with it. -/
  validate : (sql : String) → Dialect → Task σ Report
  /-- A tree as plain data. -/
  dump : (tree : α) → Task σ Value
  /-- The tree that data describe. -/
  load : (data : Json) → Task σ α

/-- What makes engines: a task, so that it may succeed at one time and fail at another. -/
abbrev Factory (σ α : Type) := Task σ (Engine σ α)

/-- The engine with its trees seen as trees of a larger kind. A tree that is not one of its own is
handed to `strange`, which says what becomes of it. -/
def Engine.lift {σ α β : Type} (e : Engine σ α) (into : α → β) (back? : β → Option α)
    (strange : {γ : Type} → β → Task σ γ) : Engine σ β :=
  { kind := e.kind
    level := e.level
    version := e.version
    transpile := e.transpile
    parse := fun sql d => do return (← e.parse sql d).map into
    parseOne := fun sql d => do return into (← e.parseOne sql d)
    generate := fun t d pretty =>
      match back? t with
      | some a => e.generate a d pretty
      | none => strange t
    validate := e.validate
    dump := fun t =>
      match back? t with
      | some a => e.dump a
      | none => strange t
    load := fun data => do return into (← e.load data) }

end SqlDialects
