import SqlDialects.Proofs.Session.Lifecycle
import SqlDialects.Proofs.Session.Snapshots

/-!
# When the engine is not obtained

The engine is built in steps that go through one another: without an engine in use a factory is run,
or else the settings are consulted, which may have to be loaded.  A step that fails must not leave
anything behind that spoils the next attempt.

**Input.**  Any session, whatever has happened in it, and any failure to obtain its engine.

**View.**  `Denied` says why the engine is not obtained and which session is left.  `Mended` is
whatever may happen afterwards: steps, none of which obtains an engine, and changes in the world of
the factories.

**Results.**
* `Action.denied_iff`: the engine is not obtained for one of two reasons and for no other.
* `Mended.awaiting`: until an engine is obtained none is in use, and no settings are in use that
  were not so before.
* `Session.recovery`: a failure leaves all but the world of the factories as it was, so the next
  call gets an engine of the factory or of the environment as they then are.
-/

namespace SqlDialects

variable {σ α : Type}

/-! ## Why the engine is not obtained -/

/-- The engine is not obtained, and this is the session that is left. -/
inductive Denied (p : Session σ α) (f : Failure) : Session σ α → Prop
  /-- The registered factory fails. -/
  | factory {make : Factory σ α} {s : Scene σ}
      (hengine : p.engine = none)
      (hfactory : p.factory = some make)
      (hrun : Task.run make p.scene = (.error f, s)) :
      Denied p f (p.afterFactory s)
  /-- The settings are needed and do not load. -/
  | settings
      (hengine : p.engine = none)
      (hfactory : p.factory = none)
      (hsettings : p.settings = none)
      (hload : Settings.load p.sources = .error f) :
      Denied p f p

theorem Action.denied_iff
    {p q : Session σ α} {f : Failure} :
    run engine p = (.error f, q) ↔ Denied p f q := by
  constructor
  · intro h
    cases hengine : p.engine with
    | some s =>
        rw [run_engine_of_served hengine] at h
        cases h
    | none =>
        cases hfactory : p.factory with
        | some make =>
            rw [run_engine_of_factory hengine hfactory] at h
            rcases hrun : Task.run make p.scene with ⟨f' | e, s⟩
            · rw [hrun] at h
              cases h
              exact .factory hengine hfactory hrun
            · rw [hrun] at h
              cases h
        | none =>
            cases hsettings : p.settings with
            | some c =>
                rw [run_engine_of_settings hengine hfactory hsettings] at h
                cases h
            | none =>
                rw [run_engine_of_environment hengine hfactory hsettings] at h
                cases hload : Settings.load p.sources with
                | ok s =>
                    rw [Session.sources] at hload
                    rw [hload] at h
                    cases h
                | error f' =>
                    rw [Session.sources] at hload
                    rw [hload] at h
                    cases h
                    exact .settings hengine hfactory hsettings hload
  · intro h
    cases h with
    | factory hengine hfactory hrun =>
        rw [run_engine_of_factory hengine hfactory, hrun]
    | settings hengine hfactory hsettings hload =>
        rw [Session.sources] at hload
        rw [run_engine_of_environment hengine hfactory hsettings, hload]

/-- No engine is in use, and all but the world, the log and the count of runs is as it was. -/
structure Intact (p q : Session σ α) : Prop where
  engine : q.engine = none
  kept : q = { p with world := q.world, journal := q.journal, factoryRuns := q.factoryRuns }

theorem Denied.intact
    {p q : Session σ α} {f : Failure}
    (h : Denied p f q) :
    Intact p q := by
  cases h with
  | factory hengine hfactory hrun =>
      exact ⟨hengine, rfl⟩
  | settings hengine hfactory hsettings hload =>
      exact ⟨hengine, rfl⟩

/-! ## What may happen afterwards -/

/-- Steps lead from one session to a later one, and none of them obtains an engine.  The world of
the factories may change by itself in between. -/
inductive Mended (q : Session σ α) : List (Step σ α) → Session σ α → Prop
  | refl : Mended q [] q
  | step {r : Session σ α} {steps : List (Step σ α)} (st : Step σ α)
      (h : Mended q steps r)
      (hnone : st.obtains r = none) :
      Mended q (steps ++ [st]) (st.perform r)
  | world {r : Session σ α} {steps : List (Step σ α)} (w : σ) (j : Log.Journal)
      (h : Mended q steps r) :
      Mended q steps (r.reworked w j)

/-- The factory that is registered after some steps, if there was this one before. -/
def Step.latest (factory : Option (Factory σ α)) (steps : List (Step σ α)) : Option (Factory σ α) :=
  steps.foldl (fun r st => if st.governs then st.factory? else r) factory

/-- After some steps a session still has no engine in use, and it has no settings in use that were
not in use before. -/
structure Awaiting (p : Session σ α) (steps : List (Step σ α)) (r : Session σ α) : Prop where
  engine : r.engine = none
  factory : r.factory = Step.latest p.factory steps
  standard : r.standard = p.standard
  errors : r.errors = p.errors
  settings : r.settings = p.settings ∨ r.settings = none

theorem Intact.awaiting
    {p q : Session σ α}
    (h : Intact p q) :
    Awaiting p [] q := by
  obtain ⟨hengine, hkept⟩ := h
  rw [hkept] at hengine ⊢
  exact ⟨hengine, rfl, rfl, rfl, .inl rfl⟩

namespace Step

theorem factory_perform
    (st : Step σ α)
    (r : Session σ α) :
    (st.perform r).factory = if st.governs then st.factory? else r.factory := by
  cases st.effect r with
  | asked hgoverns hasks h =>
      rw [hgoverns]
      exact h.factory_eq
  | governed hgoverns hasks hq =>
      rw [hgoverns]
      exact congrArg Provision.factory hq
  | idle hgoverns hasks hq =>
      rw [hgoverns]
      exact congrArg Provision.factory hq

/-- A step that obtains no engine leaves the error classes, and settings in use at most if they were
so before. -/
theorem errors_and_settings_of_unobtained
    {st : Step σ α} {r : Session σ α}
    (hnone : st.obtains r = none) :
    (st.perform r).errors = r.errors ∧
      ((st.perform r).settings = r.settings ∨ (st.perform r).settings = none) := by
  cases hasks : st.asks r with
  | true =>
      have hserved : Action.served? r = none := by
        rwa [obtains, if_pos hasks] at hnone
      obtain ⟨f, q, hrun⟩ := Action.exists_run_engine_of_served?_none hserved
      obtain ⟨w, j, hleft⟩ := perform_of_asks hasks
      have hq : Awaiting r [] q := (Action.denied_iff.mp hrun).intact.awaiting
      rw [hleft, hrun]
      exact ⟨hq.errors, hq.settings⟩
  | false =>
      cases st with
      | obtain =>
          cases hasks
      | register make | resetEngine | setFile file =>
          exact ⟨rfl, .inl rfl⟩
      | resetSettings =>
          exact ⟨rfl, .inr rfl⟩
      | version =>
          rw [perform, run_engineVersion_of_not_asks hasks]
          exact ⟨rfl, .inl rfl⟩
      | operate op =>
          rw [perform_operate_of_unresolved (by rw [← asks_operate_iff op r, hasks]; simp)]
          exact ⟨rfl, .inl rfl⟩
      | setVariable name value =>
          obtain ⟨environment, hset⟩ := perform_setVariable name value r
          rw [hset]
          exact ⟨rfl, .inl rfl⟩

/-- Nor does it leave an engine in use if there was none. -/
theorem engine_of_unobtained
    {st : Step σ α} {r : Session σ α}
    (hengine : r.engine = none)
    (hnone : st.obtains r = none) :
    (st.perform r).engine = none := by
  cases st.effect r with
  | asked hgoverns hasks h =>
      exact h.engine_eq.trans hnone
  | governed hgoverns hasks hq =>
      exact congrArg Provision.engine hq
  | idle hgoverns hasks hq =>
      exact (congrArg Provision.engine hq).trans hengine

end Step

theorem Mended.awaiting
    {p q r : Session σ α} {steps : List (Step σ α)}
    (hq : Awaiting p [] q)
    (h : Mended q steps r) :
    Awaiting p steps r := by
  induction h with
  | refl =>
      exact hq
  | @step r steps st _ hnone ih =>
      obtain ⟨herrors, hsettings⟩ := Step.errors_and_settings_of_unobtained hnone
      constructor
      · exact Step.engine_of_unobtained ih.engine hnone
      · rw [Step.factory_perform, ih.factory, Step.latest, Step.latest, List.foldl_append]
        rfl
      · exact (Step.standard_perform st r).trans ih.standard
      · exact herrors.trans ih.errors
      · rcases hsettings with hsettings | hsettings
        · exact ih.settings.imp hsettings.trans hsettings.trans
        · exact .inr hsettings
  | world w j _ ih =>
      exact ⟨ih.engine, ih.factory, ih.standard, ih.errors, ih.settings⟩

/-! ## The next attempt -/

/-- What a failure to obtain the engine leaves, and what comes of the next attempt. -/
structure Recovery (p : Session σ α) : Prop where
  denied : ∀ {f : Failure} {q : Session σ α},
    Action.run Action.engine p = (.error f, q) ↔ Denied p f q
  intact : ∀ {f : Failure} {q : Session σ α},
    Action.run Action.engine p = (.error f, q) → Intact p q
  /-- An operation fails as well, and does nothing else: the world is left to it by the factory. -/
  operation : ∀ {f : Failure} {q : Session σ α} {op : Operation},
    Action.run Action.engine p = (.error f, q) →
    (∀ name ∈ op.dialects, Dialect.resolve? name ≠ none) →
    ∃ g j, Action.run op.action p = (.error g, q.withJournal j) ∧ (f.cls ≠ .engine → g = f)
  awaiting : ∀ {f : Failure} {q r : Session σ α} {steps : List (Step σ α)},
    Action.run Action.engine p = (.error f, q) →
    Mended q steps r →
    Awaiting p steps r
  /-- Once the factory that is then registered does not fail any more, its engine is obtained. -/
  rebuilt : ∀ {f : Failure} {q r : Session σ α} {steps : List (Step σ α)} {make : Factory σ α}
    {e : Engine σ α} {s : Scene σ},
    Action.run Action.engine p = (.error f, q) →
    Mended q steps r →
    Step.latest p.factory steps = some make →
    Task.run make r.scene = (.ok e, s) →
    Action.run Action.engine r = (.ok e, (r.afterFactory s).serving e)
  /-- Once the settings load, the standard engine of their level is obtained. -/
  remade : ∀ {f : Failure} {q r : Session σ α} {steps : List (Step σ α)} {s : Settings},
    Action.run Action.engine p = (.error f, q) →
    p.factory = none →
    Mended q steps r →
    Step.latest p.factory steps = none →
    Settings.load r.sources = .ok s →
    Action.run Action.engine r =
      (.ok (p.standard.make s.unsupportedLevel),
        (r.keeping s).serving (p.standard.make s.unsupportedLevel))

/--
A call that does not obtain the engine leaves none in use, and the factory, the error classes and
the settings as they were.  However often the engine is asked for in vain afterwards, and whatever
else is done, the first call after the cause has gone obtains an engine: one of the factory that is
then registered, or the standard one of the level that the environment then asks for.
-/
theorem Session.recovery (p : Session σ α) :
    Recovery p where
  denied := Action.denied_iff
  intact h := (Action.denied_iff.mp h).intact
  operation h hnames := Operation.run_of_unobtained hnames h
  awaiting h hmended := hmended.awaiting (Action.denied_iff.mp h).intact.awaiting
  rebuilt := by
    intro f q r steps make e s h hmended hlatest hrun
    have hr := hmended.awaiting (Action.denied_iff.mp h).intact.awaiting
    rw [Action.run_engine_of_factory hr.engine (hr.factory.trans hlatest), hrun]
  remade := by
    intro f q r steps s h hfactory hmended hlatest hload
    have hdenied := Action.denied_iff.mp h
    have hr := hmended.awaiting hdenied.intact.awaiting
    have hsettings : p.settings = none := by
      cases hdenied with
      | factory _ hmake _ =>
          rw [hfactory] at hmake
          cases hmake
      | settings _ _ hsettings _ =>
          exact hsettings
    have hunset : r.settings = none := hr.settings.elim (·.trans hsettings) id
    rw [Session.sources] at hload
    rw [Action.run_engine_of_environment hr.engine (hr.factory.trans hlatest) hunset, hload,
      hr.standard]

/-- A session in which a factory is registered that fails at first. -/
def belated : Session Scripted.State Value :=
  (Scripted.begun []).after [.register Run.lateFactory]

/-- A session whose environment asks for a level that does not exist. -/
def misset : Session Scripted.State Value :=
  History.levelled.after [.setVariable "POLYGLOT_UNSUPPORTED_LEVEL" (some "sometimes")]

/-- The level is set to one that exists. -/
def correction : Step Scripted.State Value :=
  .setVariable "POLYGLOT_UNSUPPORTED_LEVEL" (some "warn")

theorem load_misset :
    ∃ f, Settings.load misset.sources = .error f := by
  have hnone : (Settings.load misset.sources).toOption.isNone = true := by decide +kernel
  cases hload : Settings.load misset.sources with
  | error f =>
      exact ⟨f, rfl⟩
  | ok s =>
      rw [hload] at hnone
      cases hnone

theorem load_corrected :
    ∃ s, Settings.load (misset.after [correction]).sources = .ok s ∧
      s.unsupportedLevel = .warn := by
  have hwarn : (Settings.load (misset.after [correction]).sources).toOption.map
      Settings.unsupportedLevel = some .warn := by decide +kernel
  cases hload : Settings.load (misset.after [correction]).sources with
  | error f =>
      rw [hload] at hwarn
      cases hwarn
  | ok s =>
      rw [hload] at hwarn
      exact ⟨s, rfl, Option.some.inj hwarn⟩

theorem recovery_belated_and_misset :
    (∃ f q e s, Action.run Action.engine belated = (.error f, q) ∧
      Mended q [] q ∧
      Step.latest belated.factory [] = some Run.lateFactory ∧
      Task.run Run.lateFactory q.scene = (.ok e, s) ∧
      Action.run Action.engine q = (.ok e, (q.afterFactory s).serving e)) ∧
    ∃ f r s, Action.run Action.engine misset = (.error f, misset) ∧
      misset.factory = none ∧
      Mended misset [.obtain, correction] r ∧
      Step.latest misset.factory [.obtain, correction] = none ∧
      Settings.load r.sources = .ok s ∧
      s.unsupportedLevel = .warn ∧
      Action.run Action.engine r =
        (.ok (misset.standard.make s.unsupportedLevel),
          (r.keeping s).serving (misset.standard.make s.unsupportedLevel)) := by
  constructor
  · exact ⟨_, _, _, _, rfl, .refl, rfl, rfl, (Session.recovery belated).rebuilt rfl .refl rfl rfl⟩
  · obtain ⟨f, hf⟩ := load_misset
    obtain ⟨s, hs, hlevel⟩ := load_corrected
    have hrun : Action.run Action.engine misset = (.error f, misset) :=
      (Session.recovery misset).denied.mpr (.settings rfl rfl rfl hf)
    have hasked : Mended misset [.obtain] misset := by
      have hstep := Mended.refl.step Step.obtain (Action.served?_of_error hrun)
      rwa [Step.perform, hrun] at hstep
    have hmended : Mended misset [.obtain, correction] (misset.after [correction]) :=
      hasked.step correction rfl
    exact ⟨f, _, s, hrun, rfl, hmended, rfl, hs, hlevel,
      (Session.recovery misset).remade hrun rfl hmended rfl hs⟩

end SqlDialects
