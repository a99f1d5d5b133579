import SqlDialects.Engine.Basic
import SqlDialects.Failure.Registry
import SqlDialects.Log.Journal
import SqlDialects.Settings.Loading

/-!
# The state of a session

What lives as long as a session: the registered error classes, the engine in use and the factory
that makes engines, the cached settings, the environment, the log, and the output of the command line.

**Rules.**
* An engine is made when one is first needed and kept until another factory is registered or the
  engine is forgotten. Without a registered factory the standard engine is made, with the
  unsupported level of the cached settings.
* Settings are loaded when they are first needed and kept until they are forgotten.
* A step that fails keeps neither an engine nor settings.

**Results.**
* `Action` is what runs in a session; `Action.run` gives its outcome and the state after it.
-/

namespace SqlDialects

/-- The engine in use; no two engines that are made have one number. -/
structure Served (σ α : Type) where
  engine : Engine σ α
  number : Nat

/-- Settings in use; no two settings that are loaded have one number. -/
structure Cached where
  settings : Settings
  number : Nat

/-- The engine that serves when no factory is registered. -/
structure StandardEngine (σ α : Type) where
  version : String
  make : UnsupportedLevel → Engine σ α

/-- The output of the command line. -/
structure Output where
  /-- Whether results are written as JSON, as the last command line has it. -/
  json : Bool
  /-- What the last run has written. -/
  written : String

/-- The output after more has been written. -/
def Output.append (o : Output) (s : String) : Output :=
  { o with written := o.written ++ s }

/-- The state of a session. Engines work on the state `world`. -/
structure Session (σ α : Type) where
  standard : StandardEngine σ α
  /-- The code of hosts' classes. -/
  hosts : HostClasses
  errors : Option ErrorRegistry
  factory : Option (Factory σ α)
  engine : Option (Served σ α)
  settings : Option Cached
  environment : List (String × String)
  file : Option String
  journal : Log.Journal
  output : Output
  world : σ
  /-- How many engines have been made. -/
  enginesMade : Nat
  /-- How many settings have been kept. -/
  settingsKept : Nat
  /-- How often registered factories have run. -/
  factoryRuns : Nat

/-- The state of a session that has done nothing yet. -/
def Session.start {σ α : Type} (standard : StandardEngine σ α) (world : σ) (now : Value) :
    Session σ α :=
  { standard := standard
    hosts := .plain
    errors := some .standard
    factory := none
    engine := none
    settings := none
    environment := []
    file := none
    journal := .start now
    output := ⟨false, ""⟩
    world := world
    enginesMade := 0
    settingsKept := 0
    factoryRuns := 0 }

/-- What runs in a session. A failure keeps the state that was reached. -/
abbrev Action (σ α : Type) := ExceptT Failure (StateM (Session σ α))

namespace Action

variable {σ α β : Type}

/-- The outcome of an action and the state after it. -/
def run (a : Action σ α β) (p : Session σ α) : Except Failure β × Session σ α :=
  (ExceptT.run a) p

/-- The outcome as a value, so that a failure can be looked at. -/
def outcome (a : Action σ α β) : Action σ α (Except Failure β) :=
  ExceptT.lift (ExceptT.run a)

/-- Gives the value or fails. -/
def ofExcept (e : Except Failure β) : Action σ α β :=
  ExceptT.mk (pure e)

/-- Logs a record. -/
def log (r : Log.Record) : Action σ α Unit :=
  modify fun p => { p with journal := p.journal.log r }

/-- Lets the engine's side work: on its state, logging its records. -/
def engineTask (t : Task σ β) : Action σ α β := do
  let p ← get
  let (outcome, scene) := (ExceptT.run t) ⟨p.world, []⟩
  set { p with world := scene.state, journal := p.journal.logAll scene.records }
  ofExcept outcome

/-! ## Error classes -/

/-- Installs a registry of error classes. -/
def registerErrors (r : ErrorRegistry) : Action σ α Unit := do
  let p ← get
  let installed ← ofExcept (ErrorRegistry.install p.errors r)
  set { p with errors := some installed }
  if p.errors.isNone then
    log (.plain "polyglot_bridge.errors" Log.debug
      ("Registered error classes rooted at " ++ r.base.label))

/-- Forgets the registry of error classes. -/
def resetErrors : Action σ α Unit :=
  modify fun p => { p with errors := none }

/-- What callers see of a failure that an engine reports. -/
def translated (kind : FaultKind) (message : String) : Action σ α Failure := do
  let p ← get
  if p.errors.isNone then
    log (.plain "polyglot_bridge.errors" Log.warning
      "Error classes not registered; falling back to RuntimeError")
  ofExcept (translate p.hosts p.errors kind message)

/-- What callers see of malformed interchange text. -/
def malformed (message : String) : Action σ α Failure := do
  return boundaryFailure (← get).errors message

/-! ## Settings -/

/-- Loads settings, with overrides. -/
def loadSettings (overrides : List (String × Value)) : Action σ α Settings := do
  let p ← get
  let s ← ofExcept (Settings.load ⟨overrides, p.environment, p.file⟩)
  modify fun p => { p with journal := p.journal.logAll s.loadingRecords }
  return s

/-- The settings in use, with their number. -/
def cachedSettings : Action σ α Cached := do
  match (← get).settings with
  | some c => return c
  | none =>
    let s ← loadSettings []
    let p ← get
    let c : Cached := ⟨s, p.settingsKept⟩
    set { p with settings := some c, settingsKept := p.settingsKept + 1 }
    return c

/-- The settings in use. -/
def settings : Action σ α Settings := do
  return (← cachedSettings).settings

/-- Forgets the settings in use. -/
def resetSettings : Action σ α Unit :=
  modify fun p => { p with settings := none }

/-! ## The engine -/

/-- Makes engines with a factory from now on; an engine in use is given up. -/
def registerEngine (f : Factory σ α) : Action σ α Unit :=
  modify fun p => { p with factory := some f, engine := none }

/-- Forgets the engine in use and the factory. -/
def resetEngine : Action σ α Unit :=
  modify fun p => { p with factory := none, engine := none }

/-- Makes an engine: with the registered factory, or the standard one. -/
def makeEngine : Action σ α (Engine σ α) := do
  let p ← get
  match p.factory with
  | some f =>
    set { p with factoryRuns := p.factoryRuns + 1 }
    engineTask f
  | none => return p.standard.make (← settings).unsupportedLevel

/-- The engine in use, with its number. -/
def servedEngine : Action σ α (Served σ α) := do
  match (← get).engine with
  | some s => return s
  | none =>
    let e ← makeEngine
    let p ← get
    let s : Served σ α := ⟨e, p.enginesMade⟩
    set { p with engine := some s, enginesMade := p.enginesMade + 1 }
    return s

/-- The engine in use. -/
def engine : Action σ α (Engine σ α) := do
  return (← servedEngine).engine

/-- The version of the engine that serves or would serve. The version of the standard engine is
known without making it, so settings play no part in it. -/
def engineVersion : Action σ α String := do
  let p ← get
  if p.engine.isSome || p.factory.isSome then
    let e ← engine
    engineTask e.version
  else return p.standard.version

/-! ## Logging and the environment -/

/-- Sends log records to a sink, as settings ask for. -/
def configureLogging (s : Settings) (sink : Log.Sink) : Action σ α Unit :=
  let layout := if s.structuredLogging then Log.Layout.json else Log.Layout.text
  modify fun p => { p with journal := p.journal.configure layout sink s.level }

/-- Sets a variable of the environment, or removes it. -/
def setVariable (name : String) (value : Option String) : Action σ α Unit :=
  modify fun p =>
    let rest := p.environment.filter fun b => b.1 != name
    match value with
    | none => { p with environment := rest }
    | some v =>
      if p.environment.any fun b => b.1 == name then
        { p with environment := p.environment.map fun b => if b.1 == name then (name, v) else b }
      else { p with environment := rest ++ [(name, v)] }

end Action
end SqlDialects
