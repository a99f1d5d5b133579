import SqlDialects.Proofs.Session.Resolution

/-!
# The engine that serves

What obtaining the engine does to a session, in each of the four ways in which it can go: the
engine in use, the registered factory, the standard engine with settings in use, and the standard
engine with settings that are yet to be loaded.

**Results.**
* `Action.run_engine_keeps`: the registered error classes stay, and so does the output.
* `Action.run_engine_serves`: an engine that has been obtained is in use from then on.
* `Action.run_engine_beside`: neither the log nor the output plays a part in it, so an operation that
  logs before it asks for the engine gets the same one (`Action.run_transpile_of_serves`).
* `Action.run_parse_of_serves` and its like: what is left of an operation when its names are resolved
  and the engine is there.
-/

namespace SqlDialects

namespace Session

variable {σ α : Type}

/-- The session with a new engine in use. -/
def serving (p : Session σ α) (e : Engine σ α) : Session σ α :=
  { p with engine := some ⟨e, p.enginesMade⟩, enginesMade := p.enginesMade + 1 }

/-- The session with settings that have been loaded in use. -/
def keeping (p : Session σ α) (s : Settings) : Session σ α :=
  { p with
    journal := p.journal.logAll s.loadingRecords
    settings := some ⟨s, p.settingsKept⟩
    settingsKept := p.settingsKept + 1 }

/-- The session in which a registered factory has run. -/
def afterFactory (p : Session σ α) (s : Scene σ) : Session σ α :=
  { p with factoryRuns := p.factoryRuns + 1 }.resume s

/-- The session has an engine in use, and it is this one. -/
def Serves (p : Session σ α) (e : Engine σ α) : Prop :=
  ∃ n, p.engine = some ⟨e, n⟩

end Session

namespace Action

variable {σ α β : Type}

theorem run_engine_of_served
    {p : Session σ α} {s : Served σ α}
    (h : p.engine = some s) :
    run engine p = (.ok s.engine, p) := by
  simp [engine, servedEngine, run_bind, h]

theorem run_engine_of_serves
    {p : Session σ α} {e : Engine σ α}
    (h : p.Serves e) :
    run engine p = (.ok e, p) := by
  obtain ⟨n, hn⟩ := h
  rw [run_engine_of_served hn]

/-- A registered factory builds the engine, or fails. -/
theorem run_engine_of_factory
    {p : Session σ α} {f : Factory σ α}
    (hengine : p.engine = none)
    (hfactory : p.factory = some f) :
    run engine p =
      match Task.run f p.scene with
      | (.ok e, s) => (.ok e, (p.afterFactory s).serving e)
      | (.error x, s) => (.error x, p.afterFactory s) := by
  cases p
  cases hengine
  cases hfactory
  simp only [engine, servedEngine, makeEngine, run_bind, run_get, run_set, run_engineTask,
    Session.scene]
  generalize Task.run f _ = result
  rcases result with ⟨_ | e, s⟩
  · rfl
  · rfl

/-- The standard engine has the level of the settings in use. -/
theorem run_engine_of_settings
    {p : Session σ α} {c : Cached}
    (hengine : p.engine = none)
    (hfactory : p.factory = none)
    (hsettings : p.settings = some c) :
    run engine p =
      (.ok (p.standard.make c.settings.unsupportedLevel),
        p.serving (p.standard.make c.settings.unsupportedLevel)) := by
  cases p
  cases hengine
  cases hfactory
  cases hsettings
  simp only [engine, servedEngine, makeEngine, settings, cachedSettings, run_bind, run_get,
    run_pure, run_set]
  rfl

/-- Without settings in use they are loaded first; if they do not validate, nothing changes. -/
theorem run_engine_of_environment
    {p : Session σ α}
    (hengine : p.engine = none)
    (hfactory : p.factory = none)
    (hsettings : p.settings = none) :
    run engine p =
      match Settings.load ⟨[], p.environment, p.file⟩ with
      | .ok s =>
        (.ok (p.standard.make s.unsupportedLevel),
          (p.keeping s).serving (p.standard.make s.unsupportedLevel))
      | .error f => (.error f, p) := by
  cases p
  cases hengine
  cases hfactory
  cases hsettings
  simp only [engine, servedEngine, makeEngine, settings, cachedSettings, loadSettings, run_bind,
    run_get, run_ofExcept]
  generalize Settings.load ⟨[], _, _⟩ = loaded
  cases loaded with
  | error f =>
      rfl
  | ok s =>
      simp only [run_modify, run_pure, run_set]
      rfl

/-- The registered error classes stay, the code of hosts' classes and the output. -/
theorem run_engine_keeps (p : Session σ α) :
    (run engine p).2.errors = p.errors ∧ (run engine p).2.hosts = p.hosts ∧
      (run engine p).2.output = p.output := by
  cases hengine : p.engine with
  | some s =>
      rw [run_engine_of_served hengine]
      exact ⟨rfl, rfl, rfl⟩
  | none =>
      cases hfactory : p.factory with
      | some f =>
          rw [run_engine_of_factory hengine hfactory]
          rcases Task.run f p.scene with ⟨_ | e, s⟩ <;> exact ⟨rfl, rfl, rfl⟩
      | none =>
          cases hsettings : p.settings with
          | some c =>
              rw [run_engine_of_settings hengine hfactory hsettings]
              exact ⟨rfl, rfl, rfl⟩
          | none =>
              rw [run_engine_of_environment hengine hfactory hsettings]
              cases Settings.load ⟨[], p.environment, p.file⟩ <;> exact ⟨rfl, rfl, rfl⟩

section Keeps

variable {p q : Session σ α} {r : Except Failure (Engine σ α)}

theorem errors_of_run_engine
    (h : run engine p = (r, q)) :
    q.errors = p.errors := by
  rw [← (run_engine_keeps p).1, h]

theorem hosts_of_run_engine
    (h : run engine p = (r, q)) :
    q.hosts = p.hosts := by
  rw [← (run_engine_keeps p).2.1, h]

end Keeps

/-- An engine that has been obtained is in use from then on. -/
theorem run_engine_serves
    {p q : Session σ α} {e : Engine σ α}
    (h : run engine p = (.ok e, q)) :
    q.Serves e := by
  cases hengine : p.engine with
  | some s =>
      rw [run_engine_of_served hengine] at h
      cases h
      exact ⟨s.number, hengine⟩
  | none =>
      cases hfactory : p.factory with
      | some f =>
          rw [run_engine_of_factory hengine hfactory] at h
          generalize Task.run f p.scene = result at h
          rcases result with ⟨_ | e', s⟩
          · cases h
          · cases h
            exact ⟨_, rfl⟩
      | none =>
          cases hsettings : p.settings with
          | some c =>
              rw [run_engine_of_settings hengine hfactory hsettings] at h
              cases h
              exact ⟨_, rfl⟩
          | none =>
              rw [run_engine_of_environment hengine hfactory hsettings] at h
              generalize Settings.load ⟨[], p.environment, p.file⟩ = loaded at h
              cases loaded with
              | error f =>
                  cases h
              | ok s =>
                  cases h
                  exact ⟨_, rfl⟩

/-- Neither the log nor the output plays a part in obtaining the engine. -/
theorem run_engine_beside
    (p : Session σ α)
    (o : Output)
    (j : Log.Journal) :
    ∃ j', run engine (p.beside o j) =
      ((run engine p).1, (run engine p).2.beside o j') := by
  cases hengine : p.engine with
  | some s =>
      rw [run_engine_of_served (p := p.beside o j) hengine, run_engine_of_served hengine]
      exact ⟨j, rfl⟩
  | none =>
      cases hfactory : p.factory with
      | some f =>
          have hscene : (p.beside o j).scene = p.scene := rfl
          rw [run_engine_of_factory (p := p.beside o j) hengine hfactory,
            run_engine_of_factory hengine hfactory, hscene]
          rcases Task.run f p.scene with ⟨_ | e, s⟩
          · exact ⟨_, rfl⟩
          · exact ⟨_, rfl⟩
      | none =>
          cases hsettings : p.settings with
          | some c =>
              rw [run_engine_of_settings (p := p.beside o j) hengine hfactory hsettings,
                run_engine_of_settings hengine hfactory hsettings]
              exact ⟨j, rfl⟩
          | none =>
              rw [run_engine_of_environment (p := p.beside o j) hengine hfactory hsettings,
                run_engine_of_environment hengine hfactory hsettings]
              have henv : (⟨[], (p.beside o j).environment, (p.beside o j).file⟩ :
                  Settings.Sources) = ⟨[], p.environment, p.file⟩ := rfl
              rw [henv]
              cases Settings.load ⟨[], p.environment, p.file⟩ with
              | error f => exact ⟨j, rfl⟩
              | ok s => exact ⟨_, rfl⟩

theorem run_engine_withJournal
    (p : Session σ α)
    (j : Log.Journal) :
    ∃ j', run engine (p.withJournal j) =
      ((run engine p).1, (run engine p).2.withJournal j') := by
  obtain ⟨j', hj'⟩ := run_engine_beside p p.output j
  have hsame : (run engine p).2.beside p.output j' = (run engine p).2.withJournal j' := by
    rw [← (run_engine_keeps p).2.2]
    rfl
  exact ⟨j', by rw [← hsame]; exact hj'⟩

/-! ## Operations whose names resolve -/

section Operations

variable {dialect : String} {d : Dialect} {p q : Session σ α} {e : Engine σ α}

/-- An operation on one dialect goes on with the dialect and the engine. -/
theorem run_resolve_engine_bind
    (hd : Dialect.resolve? dialect = some d)
    (hserves : run engine p = (.ok e, q))
    (f : Dialect → Engine σ α → Action σ α β) :
    run (resolve dialect >>= fun d => engine >>= f d) p = run (f d e) q := by
  rw [run_resolve_bind_of_some hd, run_bind_of_ok hserves]

theorem run_parse_of_serves
    (sql : String)
    (hd : Dialect.resolve? dialect = some d)
    (hserves : run engine p = (.ok e, q)) :
    run (parse sql dialect) p =
      run (translating "parse" (engineTask (e.parse sql d)) >>= toPayloadMany e) q :=
  run_resolve_engine_bind hd hserves _

theorem run_parseOne_of_serves
    (sql : String)
    (hd : Dialect.resolve? dialect = some d)
    (hserves : run engine p = (.ok e, q)) :
    run (parseOne sql dialect) p =
      run (translating "parse_one" (engineTask (e.parseOne sql d)) >>= toPayload e) q :=
  run_resolve_engine_bind hd hserves _

theorem run_generate_of_serves
    (payload : String)
    (hd : Dialect.resolve? dialect = some d)
    (hserves : run engine p = (.ok e, q)) :
    run (generate payload dialect) p =
      run (fromPayload e payload >>= fun tree =>
        translating "generate" (engineTask (e.generate tree d false))) q :=
  run_resolve_engine_bind hd hserves _

theorem run_format_of_serves
    (sql : String)
    (hd : Dialect.resolve? dialect = some d)
    (hserves : run engine p = (.ok e, q)) :
    run (format sql dialect) p =
      run (translating "format" (engineTask (e.parse sql d) >>= generateAll e d) >>= fun texts =>
        pure (statementSeparator.intercalate texts)) q :=
  run_resolve_engine_bind hd hserves _

end Operations

/-- Between dialects that resolve, an operation logs first and then asks for the engine. -/
theorem run_transpile_of_resolved
    (sql : String)
    {source target : String} {d d' : Dialect}
    (hd : Dialect.resolve? source = some d)
    (hd' : Dialect.resolve? target = some d')
    (p : Session σ α) :
    ∃ j, run (transpile sql source target) p =
      run (translating "transpile" (engine >>= fun e => engineTask (e.transpile sql d d')))
        (p.withJournal j) := by
  rw [transpile, run_resolve_bind_of_some hd, run_resolve_bind_of_some hd', run_bind, run_log]
  exact ⟨_, rfl⟩

/-- Between dialects that resolve, what is translated is the work of the engine that serves. -/
theorem run_transpile_of_serves
    (sql : String)
    {source target : String} {d d' : Dialect} {p q : Session σ α} {e : Engine σ α}
    (hd : Dialect.resolve? source = some d)
    (hd' : Dialect.resolve? target = some d')
    (hserves : run engine p = (.ok e, q)) :
    ∃ (a : Action σ α (List String)) (p' : Session σ α) (j : Log.Journal),
      run (transpile sql source target) p = run (translating "transpile" a) p' ∧
      run a p' = run (engineTask (e.transpile sql d d')) (q.withJournal j) := by
  obtain ⟨j₀, hrun⟩ := run_transpile_of_resolved sql hd hd' p
  obtain ⟨j, hj⟩ := run_engine_withJournal p j₀
  rw [hserves] at hj
  exact ⟨_, _, j, hrun, run_bind_of_ok hj _⟩

end Action
end SqlDialects
