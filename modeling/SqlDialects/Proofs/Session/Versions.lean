import SqlDialects.Library.Engine
import SqlDialects.Library.Scripted
import SqlDialects.Proofs.Session.Lifecycle

/-!
# The version of the engine

The version is asked of the engine in use, or of the one that the registered factory makes.  Where
there is neither, the version of the standard engine is given without making it.  That must not be
noticed: it is the version of the engine that would be made, and nothing is left behind.

**Input.**  A session that starts without an engine and without a factory, and any steps.  The
standard engine has one version at every level (`StandardEngine.Versioned`), as that of a library
has.

**Invariant.**  Where no factory is registered, an engine in use is a standard one
(`Run.standard_of_unregistered`).

**Results.**
* `Run.run_engineVersion_of_unregistered`: the version is then that of the standard engine, and the
  session stays as it is.
* `Run.run_engineVersion_of_obtained`: the version is that of the engine that would be obtained.
* `Run.versions`: both together, for any run.
-/

namespace SqlDialects

variable {σ α : Type}

/-- Engines of every level have the version that is known without making them. -/
def StandardEngine.Versioned (standard : StandardEngine σ α) : Prop :=
  ∀ level, (standard.make level).version = pure standard.version

theorem Library.versioned_engine
    {τ ε : Type}
    (lib : Library τ ε) :
    StandardEngine.Versioned ⟨lib.version, lib.engine⟩ :=
  fun _ => rfl

namespace Action

/-- A version that is known without any work is given without a trace. -/
theorem run_engineVersion_of_inUse
    {p : Session σ α} {s : Served σ α} {v : String}
    (hengine : p.engine = some s)
    (hversion : s.engine.version = pure v) :
    run engineVersion p = (.ok v, p) := by
  have hasks : Step.asks .version p = true := by simp [Step.asks, hengine]
  rw [Step.run_engineVersion_of_asks hasks, run_bind_of_ok (run_engine_of_served hengine), hversion]
  rfl

/-- With neither an engine nor a factory a standard engine is made, if any. -/
theorem standard_of_run_engine
    {p q : Session σ α} {e : Engine σ α}
    (hengine : p.engine = none)
    (hfactory : p.factory = none)
    (hrun : run engine p = (.ok e, q)) :
    ∃ level, e = p.standard.make level := by
  obtain ⟨number, hserves⟩ := run_engine_serves hrun
  have hobtaining := obtaining_engine p
  rw [served?_of_ok hrun, hserves] at hobtaining
  cases hobtaining with
  | inUse s hs hq =>
      rw [hengine] at hs
      cases hs
  | built f e scene hnone hf hbuilt hq =>
      rw [hfactory] at hf
      cases hf
  | standard c hnone hf hsettings hq =>
      exact ⟨c.settings.unsupportedLevel, rfl⟩

end Action

namespace Run

variable {start : Session σ α} {steps : List (Step σ α)}

theorem standard_of_unregistered
    (hengine : start.engine = none)
    (hfactory : start.factory = none)
    {k : Nat} {s : Served σ α}
    (hs : (moment start steps k).engine = some s)
    (hnone : (moment start steps k).factory = none) :
    ∃ level, s.engine = start.standard.make level := by
  obtain ⟨m, hm, hundisturbed, hbuilds⟩ := exists_building hengine hfactory hs
  have hregistered : registered (steps.take m) = none := by
    rw [← registered_of_undisturbed (Nat.le_of_lt hm) hundisturbed, ← factory_moment hfactory k,
      hnone]
  have hbuilt := hbuilds.built
  rw [hregistered] at hbuilt
  obtain ⟨c, -, hmade⟩ := hbuilt
  exact ⟨c.settings.unsupportedLevel, hmade⟩

theorem run_engineVersion_of_unregistered
    (hengine : start.engine = none)
    (hfactory : start.factory = none)
    (hversioned : start.standard.Versioned)
    {k : Nat}
    (hnone : (moment start steps k).factory = none) :
    Action.run Action.engineVersion (moment start steps k) =
      (.ok start.standard.version, moment start steps k) := by
  cases hs : (moment start steps k).engine with
  | some s =>
      obtain ⟨level, hmade⟩ := standard_of_unregistered hengine hfactory hs hnone
      exact Action.run_engineVersion_of_inUse hs (by rw [hmade, hversioned])
  | none =>
      have hasks : Step.asks .version (moment start steps k) = false := by
        simp [Step.asks, hs, hnone]
      rw [Step.run_engineVersion_of_not_asks hasks, standard_moment]

theorem run_engineVersion_of_obtained
    (hversioned : start.standard.Versioned)
    {k : Nat} {e : Engine σ α} {q : Session σ α} {v : String}
    (hrun : Action.run Action.engine (moment start steps k) = (.ok e, q))
    (hv : e.version.Gives v) :
    (Action.run Action.engineVersion (moment start steps k)).1 = .ok v := by
  cases hasks : Step.asks .version (moment start steps k) with
  | true =>
      rw [Step.run_engineVersion_of_asks hasks, Action.run_bind_of_ok hrun, Action.run_engineTask]
      exact hv q.scene
  | false =>
      obtain ⟨hnone, hfactory⟩ : (moment start steps k).engine = none ∧
          (moment start steps k).factory = none := by
        simpa [Step.asks] using hasks
      obtain ⟨level, rfl⟩ := Action.standard_of_run_engine hnone hfactory hrun
      have hknown := hv q.scene
      rw [standard_moment, hversioned, Task.run_pure] at hknown
      rw [Step.run_engineVersion_of_not_asks hasks, standard_moment]
      exact hknown

/-- What the version is after some steps, and what asking for it does. -/
structure Versions (start : Session σ α) (steps : List (Step σ α)) : Prop where
  /-- It is the version of the engine that would be obtained. -/
  agrees : ∀ {e : Engine σ α} {q : Session σ α} {v : String},
    Action.run Action.engine (start.after steps) = (.ok e, q) →
    e.version.Gives v →
    (Action.run Action.engineVersion (start.after steps)).1 = .ok v
  /-- Where no factory is registered it is that of the standard engine, and nothing changes. -/
  unregistered : (start.after steps).factory = none →
    Action.run Action.engineVersion (start.after steps) =
      (.ok start.standard.version, start.after steps)
  /-- There it makes no difference to later steps whether it has been asked for. -/
  unnoticed : (start.after steps).factory = none →
    ∀ later, start.after (steps ++ .version :: later) = start.after (steps ++ later)

/--
A session starts without an engine and without a factory.  Whatever steps are then taken, be they
refused or not, the version that is given is the version of the engine that would be obtained.
Where no factory is registered it is given in any environment, and nothing shows afterwards that it
has been asked for.
-/
theorem versions
    (start : Session σ α)
    (steps : List (Step σ α))
    (hengine : start.engine = none)
    (hfactory : start.factory = none)
    (hversioned : start.standard.Versioned) :
    Versions start steps := by
  have hmoment : start.after steps = moment start steps steps.length := by
    rw [moment, List.take_length]
  have hunregistered : (start.after steps).factory = none →
      Action.run Action.engineVersion (start.after steps) =
        (.ok start.standard.version, start.after steps) := by
    rw [hmoment]
    exact run_engineVersion_of_unregistered hengine hfactory hversioned
  constructor
  · intro e q v hrun hv
    rw [hmoment] at hrun ⊢
    exact run_engineVersion_of_obtained hversioned hrun hv
  · exact hunregistered
  · intro hnone later
    have hasked : Step.perform .version (start.after steps) = start.after steps :=
      congrArg Prod.snd (hunregistered hnone)
    rw [Session.after, Session.after, List.foldl_append, List.foldl_append, List.foldl_cons]
    exact congrArg (later.foldl fun p st => st.perform p) hasked

/-- A session whose standard engine is that of a library. -/
def bare : Session ScriptedLibrary.State (Node String) :=
  Session.start ⟨"1.0", (ScriptedLibrary.library "1.0" none).engine⟩ ⟨[], []⟩ .null

/-- Settings do not load, so that the engine is refused. -/
def barredRun : List (Step ScriptedLibrary.State (Node String)) :=
  [.setVariable "POLYGLOT_UNSUPPORTED_LEVEL" (some "sometimes"), .obtain, .resetSettings]

/-- A factory that makes engines of another version. -/
def newer : Task ScriptedLibrary.State (Engine ScriptedLibrary.State (Node String)) :=
  return (ScriptedLibrary.library "2.0" none).engine .warn

/-- The factory is registered after the engine has been refused. -/
def replacedRun : List (Step ScriptedLibrary.State (Node String)) :=
  barredRun ++ [.register newer]

theorem versions_bare :
    bare.engine = none ∧
    bare.factory = none ∧
    bare.standard.Versioned ∧
    (Action.served? (bare.after barredRun)).isNone = true ∧
    Action.run Action.engineVersion (bare.after barredRun) = (.ok "1.0", bare.after barredRun) ∧
    (Action.run Action.engineVersion (bare.after replacedRun)).1 = .ok "2.0" := by
  have hversioned : bare.standard.Versioned :=
    Library.versioned_engine (ScriptedLibrary.library "1.0" none)
  exact ⟨rfl, rfl, hversioned, by decide +kernel,
    (versions bare barredRun rfl rfl hversioned).unregistered rfl,
    (versions bare replacedRun rfl rfl hversioned).agrees rfl fun _ => rfl⟩

end Run
end SqlDialects
