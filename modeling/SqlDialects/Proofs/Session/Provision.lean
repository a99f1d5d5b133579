import Mathlib.Order.Monotone.Basic
import SqlDialects.Proofs.Session.Confinement

/-!
# What provides the engine

The part of a session that decides which engine serves, and what the steps that a host may take do
to it.

**View.**  `Obtaining` lists the ways in which obtaining the engine can go.  A step asks if it has
the engine handed out (`Step.asks`), and it governs if it registers a factory or forgets the engine
(`Step.governs`).  A step that fails leaves a session as well.

**Results.**
* `Action.obtaining_engine`: there are no other ways.
* `Step.effect`: a step has the engine obtained, or governs, or leaves the provision as it is.
-/

namespace SqlDialects

variable {σ α : Type}

/-- The part of a session that decides which engine serves. -/
structure Provision (σ α : Type) where
  standard : StandardEngine σ α
  factory : Option (Factory σ α)
  engine : Option (Served σ α)
  enginesMade : Nat
  factoryRuns : Nat

/-- The part of a session that decides which engine serves. -/
def Session.provision (p : Session σ α) : Provision σ α :=
  ⟨p.standard, p.factory, p.engine, p.enginesMade, p.factoryRuns⟩

/-- What obtaining the engine does from one session to another, and the engine that is obtained. -/
inductive Obtaining (p q : Session σ α) : Option (Served σ α) → Prop where
  | inUse (s : Served σ α)
      (hengine : p.engine = some s)
      (hq : q.provision = p.provision) : Obtaining p q (some s)
  | built (f : Factory σ α) (e : Engine σ α) (scene : Scene σ)
      (hengine : p.engine = none)
      (hfactory : p.factory = some f)
      (hrun : Task.run f p.scene = (.ok e, scene))
      (hq : q.provision = { p.provision with
        engine := some ⟨e, p.enginesMade⟩
        enginesMade := p.enginesMade + 1
        factoryRuns := p.factoryRuns + 1 }) : Obtaining p q (some ⟨e, p.enginesMade⟩)
  | refused (f : Factory σ α) (x : Failure) (scene : Scene σ)
      (hengine : p.engine = none)
      (hfactory : p.factory = some f)
      (hrun : Task.run f p.scene = (.error x, scene))
      (hq : q.provision = { p.provision with factoryRuns := p.factoryRuns + 1 }) :
      Obtaining p q none
  | standard (c : Cached)
      (hengine : p.engine = none)
      (hfactory : p.factory = none)
      (hsettings : q.settings = some c)
      (hq : q.provision = { p.provision with
        engine := some ⟨p.standard.make c.settings.unsupportedLevel, p.enginesMade⟩
        enginesMade := p.enginesMade + 1 }) :
      Obtaining p q (some ⟨p.standard.make c.settings.unsupportedLevel, p.enginesMade⟩)
  | unset
      (hengine : p.engine = none)
      (hfactory : p.factory = none)
      (hq : q.provision = p.provision) : Obtaining p q none

namespace Obtaining

variable {p q : Session σ α} {r : Option (Served σ α)}

theorem standard_eq (h : Obtaining p q r) :
    q.standard = p.standard := by
  cases h <;> exact congrArg Provision.standard ‹q.provision = _›

theorem factory_eq (h : Obtaining p q r) :
    q.factory = p.factory := by
  cases h <;> exact congrArg Provision.factory ‹q.provision = _›

/-- The engine that is obtained is in use afterwards; none is if none is obtained. -/
theorem engine_eq (h : Obtaining p q r) :
    q.engine = r := by
  cases h with
  | inUse s hengine hq =>
      exact (congrArg Provision.engine hq).trans hengine
  | refused f x scene hengine hfactory hrun hq | unset hengine hfactory hq =>
      exact (congrArg Provision.engine hq).trans hengine
  | built f e scene hengine hfactory hrun hq | standard c hengine hfactory hsettings hq =>
      exact congrArg Provision.engine hq

theorem enginesMade_le (h : Obtaining p q r) :
    p.enginesMade ≤ q.enginesMade := by
  cases h with
  | inUse s hengine hq | refused f x scene hengine hfactory hrun hq | unset hengine hfactory hq =>
      exact (congrArg Provision.enginesMade hq).ge
  | built f e scene hengine hfactory hrun hq | standard c hengine hfactory hsettings hq =>
      exact (Nat.le_succ _).trans (congrArg Provision.enginesMade hq).ge

theorem factoryRuns_of_none
    (h : Obtaining p q r)
    (hfactory : p.factory = none) :
    q.factoryRuns = p.factoryRuns := by
  cases h with
  | inUse s hengine hq | standard c hengine hnone hsettings hq | unset hengine hnone hq =>
      exact congrArg Provision.factoryRuns hq
  | built f e scene hengine hf hrun hq | refused f x scene hengine hf hrun hq =>
      rw [hfactory] at hf
      cases hf

/-- An engine in use is the one that is obtained. -/
theorem of_inUse
    {s : Served σ α}
    (h : Obtaining p q r)
    (hs : p.engine = some s) :
    r = some s ∧ q.provision = p.provision := by
  cases h with
  | inUse s' hengine hq =>
      exact ⟨hengine ▸ hs, hq⟩
  | built f e scene hengine hfactory hrun hq | refused f x scene hengine hfactory hrun hq
  | standard c hengine hfactory hsettings hq | unset hengine hfactory hq =>
      rw [hengine] at hs
      cases hs

/-- What is confined leaves what the engine was obtained from. -/
theorem reworked
    (h : Obtaining p q r)
    (w : σ)
    (j : Log.Journal) :
    Obtaining p (q.reworked w j) r := by
  cases h with
  | inUse s hengine hq => exact .inUse s hengine hq
  | built f e scene hengine hfactory hrun hq => exact .built f e scene hengine hfactory hrun hq
  | refused f x scene hengine hfactory hrun hq => exact .refused f x scene hengine hfactory hrun hq
  | standard c hengine hfactory hsettings hq => exact .standard c hengine hfactory hsettings hq
  | unset hengine hfactory hq => exact .unset hengine hfactory hq

end Obtaining

namespace Action

/-- The engine that is obtained, with its number, if obtaining it succeeds. -/
def served? (p : Session σ α) : Option (Served σ α) :=
  (run servedEngine p).1.toOption

theorem run_engine_eq (p : Session σ α) :
    run engine p = ((run servedEngine p).1.map Served.engine, (run servedEngine p).2) := by
  rw [engine, run_bind]
  rcases run servedEngine p with ⟨_ | s, q⟩ <;> rfl

/-- An engine that is obtained is in use afterwards, under its number. -/
theorem run_servedEngine_engine
    {p q : Session σ α} {s : Served σ α}
    (h : run servedEngine p = (.ok s, q)) :
    q.engine = some s := by
  cases hengine : p.engine with
  | some s' =>
      simp only [servedEngine, run_bind, run_get, hengine, run_pure] at h
      cases h
      exact hengine
  | none =>
      simp only [servedEngine, run_bind, run_get, hengine] at h
      generalize run makeEngine p = made at h
      rcases made with ⟨_ | e, p'⟩
      · cases h
      · cases h
        rfl

theorem served?_of_ok
    {p q : Session σ α} {e : Engine σ α}
    (h : run engine p = (.ok e, q)) :
    served? p = q.engine := by
  rw [run_engine_eq] at h
  rw [served?]
  rcases hs : run servedEngine p with ⟨f | s, p'⟩
  · rw [hs] at h
    cases h
  · rw [hs] at h
    cases h
    exact (run_servedEngine_engine hs).symm

theorem served?_of_error
    {p q : Session σ α} {f : Failure}
    (h : run engine p = (.error f, q)) :
    served? p = none := by
  rw [run_engine_eq] at h
  rw [served?]
  rcases hs : run servedEngine p with ⟨f' | s, p'⟩
  · rfl
  · rw [hs] at h
    cases h

theorem exists_run_engine_of_served?
    {p : Session σ α} {s : Served σ α}
    (h : served? p = some s) :
    ∃ q, run engine p = (.ok s.engine, q) ∧ q.engine = some s := by
  rw [served?] at h
  rcases hs : run servedEngine p with ⟨f | s', q⟩
  · rw [hs] at h
    cases h
  · rw [hs] at h
    cases h
    exact ⟨q, by rw [run_engine_eq, hs]; rfl, run_servedEngine_engine hs⟩

theorem exists_run_engine_of_served?_none
    {p : Session σ α}
    (h : served? p = none) :
    ∃ f q, run engine p = (.error f, q) := by
  rw [served?] at h
  rcases hs : run servedEngine p with ⟨f | s', q⟩
  · exact ⟨f, q, by rw [run_engine_eq, hs]; rfl⟩
  · rw [hs] at h
    cases h

/-- Obtaining the engine goes one of the five ways. -/
theorem obtaining_engine (p : Session σ α) :
    Obtaining p (run engine p).2 (served? p) := by
  cases hengine : p.engine with
  | some s =>
      have hrun := run_engine_of_served hengine
      rw [served?_of_ok hrun, hrun, hengine]
      exact .inUse s hengine rfl
  | none =>
      cases hfactory : p.factory with
      | some f =>
          have hrun := run_engine_of_factory hengine hfactory
          rcases htask : Task.run f p.scene with ⟨x | e, scene⟩
          · rw [htask] at hrun
            rw [served?_of_error hrun, hrun]
            exact .refused f x scene hengine hfactory htask rfl
          · rw [htask] at hrun
            rw [served?_of_ok hrun, hrun]
            exact .built f e scene hengine hfactory htask rfl
      | none =>
          cases hsettings : p.settings with
          | some c =>
              have hrun := run_engine_of_settings hengine hfactory hsettings
              rw [served?_of_ok hrun, hrun]
              exact .standard c hengine hfactory hsettings rfl
          | none =>
              have hrun := run_engine_of_environment hengine hfactory hsettings
              cases hload : Settings.load ⟨[], p.environment, p.file⟩ with
              | error f =>
                  rw [hload] at hrun
                  rw [served?_of_error hrun, hrun]
                  exact .unset hengine hfactory rfl
              | ok s =>
                  rw [hload] at hrun
                  rw [served?_of_ok hrun, hrun]
                  exact .standard ⟨s, p.settingsKept⟩ hengine hfactory rfl rfl

end Action

/-! ## Steps -/

/-- What may happen in a session, as far as its engine is concerned. -/
inductive Step (σ α : Type) where
  | register (f : Factory σ α)
  | obtain
  | version
  | operate (op : Operation)
  | resetEngine
  | resetSettings
  | setVariable (name : String) (value : Option String)
  | setFile (file : Option String)

namespace Step

/-- The session after a step, whether the step fails or not. -/
def perform (st : Step σ α) (p : Session σ α) : Session σ α :=
  match st with
  | register f => (Action.run (Action.registerEngine f) p).2
  | obtain => (Action.run Action.engine p).2
  | version => (Action.run Action.engineVersion p).2
  | operate op => (Action.run op.action p).2
  | resetEngine => (Action.run Action.resetEngine p).2
  | resetSettings => (Action.run Action.resetSettings p).2
  | setVariable name value => (Action.run (Action.setVariable name value) p).2
  | setFile file => { p with file := file }

/-- Whether a step decides who makes the engine from then on. -/
def governs : Step σ α → Bool
  | register _ => true
  | resetEngine => true
  | _ => false

/-- The factory that a step registers. -/
def factory? : Step σ α → Option (Factory σ α)
  | register f => some f
  | _ => none

/-- Whether a step has the engine handed out: it asks for it outright, or for the version where it
is not that of the standard engine, or it is an operation whose dialects are known. -/
def asks (st : Step σ α) (p : Session σ α) : Bool :=
  match st with
  | obtain => true
  | version => p.engine.isSome || p.factory.isSome
  | operate op => op.dialects.all fun name => (Dialect.resolve? name).isSome
  | _ => false

/-- The engine that a step obtains, if it asks for it and is not refused. -/
def obtains (st : Step σ α) (p : Session σ α) : Option (Served σ α) :=
  if st.asks p then Action.served? p else none

theorem asks_operate_iff (op : Operation) (p : Session σ α) :
    asks (.operate op) p = true ↔ ∀ name ∈ op.dialects, Dialect.resolve? name ≠ none := by
  simp [asks, Option.isSome_iff_ne_none]

/-- An operation whose names resolve obtains the engine; what it does then is confined. -/
theorem perform_operate
    {op : Operation} {p : Session σ α}
    (hnames : ∀ name ∈ op.dialects, Dialect.resolve? name ≠ none) :
    ∃ w j, perform (.operate op) p = ((Action.run Action.engine p).2).reworked w j := by
  rcases hserves : Action.run Action.engine p with ⟨f | e, q⟩
  · obtain ⟨g, j, hrun, -⟩ := Operation.run_of_unobtained hnames hserves
    exact ⟨q.world, j, by rw [perform, hrun]; rfl⟩
  · obtain ⟨j, hrun⟩ := Operation.run_of_obtained hnames hserves
    obtain ⟨w, j', hleft⟩ := (Operation.confined_onEngine e op).run_eq (q.withJournal j)
    exact ⟨w, j', by rw [perform, hrun, hleft]; rfl⟩

/-- An operation one of whose names stands for no dialect leaves the session as it was. -/
theorem perform_operate_of_unresolved
    {op : Operation} {p : Session σ α}
    (hnames : ¬ ∀ name ∈ op.dialects, Dialect.resolve? name ≠ none) :
    perform (.operate op) p = p := by
  push Not at hnames
  obtain ⟨before, name, after, hsplit, hbefore, hname⟩ :=
    Operation.exists_first_unresolved op.dialects hnames
  rw [perform, Operation.run_of_first_unresolved op p hsplit hbefore hname]

/-- The version of an engine that serves or would be made by a factory is asked of the engine. -/
theorem run_engineVersion_of_asks
    {p : Session σ α}
    (h : asks .version p = true) :
    Action.run Action.engineVersion p =
      Action.run (Action.engine >>= fun e => Action.engineTask e.version) p := by
  rw [Action.engineVersion, Action.run_bind, Action.run_get]
  change Action.run (if asks .version p = true then _ else _) p = _
  rw [h]
  rfl

/-- Otherwise it is that of the standard engine, and nothing is made. -/
theorem run_engineVersion_of_not_asks
    {p : Session σ α}
    (h : asks .version p = false) :
    Action.run Action.engineVersion p = (.ok p.standard.version, p) := by
  rw [Action.engineVersion, Action.run_bind, Action.run_get]
  change Action.run (if asks .version p = true then _ else _) p = _
  rw [h]
  rfl

theorem perform_version
    {p : Session σ α}
    (h : asks .version p = true) :
    ∃ w j, perform .version p = ((Action.run Action.engine p).2).reworked w j := by
  rw [perform, run_engineVersion_of_asks h]
  rcases hserves : Action.run Action.engine p with ⟨f | e, q⟩
  · exact ⟨q.world, q.journal, by rw [Action.run_bind_of_error hserves]; rfl⟩
  · obtain ⟨w, j, hleft⟩ := (Action.confined_engineTask e.version).run_eq q
    exact ⟨w, j, by rw [Action.run_bind_of_ok hserves, hleft]⟩

/-- Setting a variable changes the environment and nothing else. -/
theorem perform_setVariable
    (name : String)
    (value : Option String)
    (p : Session σ α) :
    ∃ environment, perform (.setVariable name value) p = { p with environment := environment } := by
  rw [perform, Action.setVariable, Action.run_modify]
  cases value with
  | none =>
      exact ⟨_, rfl⟩
  | some v =>
      dsimp only
      split
      · exact ⟨_, rfl⟩
      · exact ⟨_, rfl⟩

/-- What a step does to the provision. -/
inductive Effect (st : Step σ α) (p q : Session σ α) : Prop where
  | asked
      (hgoverns : st.governs = false)
      (hasks : st.asks p = true)
      (h : Obtaining p q (st.obtains p))
  | governed
      (hgoverns : st.governs = true)
      (hasks : st.asks p = false)
      (hq : q.provision = { p.provision with factory := st.factory?, engine := none })
  | idle
      (hgoverns : st.governs = false)
      (hasks : st.asks p = false)
      (hq : q.provision = p.provision)

theorem effect_of_asks
    {st : Step σ α} {p : Session σ α}
    (hgoverns : st.governs = false)
    (hasks : st.asks p = true)
    (h : ∃ w j, st.perform p = ((Action.run Action.engine p).2).reworked w j) :
    Effect st p (st.perform p) := by
  obtain ⟨w, j, h⟩ := h
  refine .asked hgoverns hasks ?_
  rw [h, obtains, if_pos hasks]
  exact (Action.obtaining_engine p).reworked w j

/-- Every step has the engine obtained, or governs, or leaves the provision as it is. -/
theorem effect (st : Step σ α) (p : Session σ α) :
    Effect st p (st.perform p) := by
  cases st with
  | register f =>
      exact .governed rfl rfl rfl
  | resetEngine =>
      exact .governed rfl rfl rfl
  | obtain =>
      exact effect_of_asks rfl rfl ⟨_, _, rfl⟩
  | version =>
      cases h : asks .version p with
      | true =>
          exact effect_of_asks rfl h (perform_version h)
      | false =>
          refine .idle rfl h ?_
          rw [perform, run_engineVersion_of_not_asks h]
  | operate op =>
      cases h : asks (.operate op) p with
      | true =>
          exact effect_of_asks rfl h (perform_operate ((asks_operate_iff op p).mp h))
      | false =>
          refine .idle rfl h ?_
          rw [perform_operate_of_unresolved]
          rw [← asks_operate_iff op p, h]
          simp
  | resetSettings =>
      exact .idle rfl rfl rfl
  | setVariable name value =>
      obtain ⟨environment, hset⟩ := perform_setVariable name value p
      exact .idle rfl rfl (by rw [hset]; rfl)
  | setFile file =>
      exact .idle rfl rfl rfl

end Step

end SqlDialects
