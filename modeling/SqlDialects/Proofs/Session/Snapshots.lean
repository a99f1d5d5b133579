import SqlDialects.Proofs.Session.Consulting

/-!
# The settings over the life of a session

Which settings a call gets, over any run of changes to the environment, calls and resets.

**View.**  An event is a step of a session, or a host that asks for the settings or calls an
operation.  It forgets the settings, or consults them, or leaves them alone (`Event.Effect`).

**Invariant.**  The settings in use have been loaded since they were last forgotten
(`History.exists_loading`), and until they are forgotten they stay (`History.settings_of_unforgotten`).

**Results.**
* `Event.effect`: there is no fourth kind of event.
* `Event.engine_of_perform`: a standard engine that is in use after an event was so before, or the
  event has consulted the settings and made it of their level.
* `History.snapshots`: the settings that a call gets are the ones of its stretch of the run, and a
  standard engine has the level of the settings that were in use when it was made.
-/

namespace SqlDialects

variable {σ α : Type}

/-! ## Steps -/

namespace Step

/-- Whether a step forgets the settings. -/
def forgets : Step σ α → Bool
  | resetSettings => true
  | _ => false

/-- Whether a step consults the settings: it asks for an engine, and that has to be made without a
factory. -/
def consults (st : Step σ α) (p : Session σ α) : Bool :=
  st.asks p && p.engine.isNone && p.factory.isNone

theorem consults_iff
    {st : Step σ α} {p : Session σ α} :
    st.consults p = true ↔ st.asks p = true ∧ p.engine = none ∧ p.factory = none := by
  simp [consults, and_assoc]

/-- A step that asks for the engine obtains it; what it does then is confined. -/
theorem perform_of_asks
    {st : Step σ α} {p : Session σ α}
    (hasks : st.asks p = true) :
    ∃ w j, st.perform p = ((Action.run Action.engine p).2).reworked w j := by
  cases st with
  | obtain =>
      exact ⟨_, _, rfl⟩
  | version =>
      exact perform_version hasks
  | operate op =>
      exact perform_operate ((asks_operate_iff op p).mp hasks)
  | register f | resetEngine | resetSettings | setVariable name value | setFile file =>
      cases hasks

theorem consulting
    {st : Step σ α} {p : Session σ α}
    (h : st.consults p = true) :
    Consulting p (st.perform p) (Action.settled? p) := by
  obtain ⟨hasks, hengine, hfactory⟩ := consults_iff.mp h
  obtain ⟨w, j, hleft⟩ := perform_of_asks hasks
  rw [hleft]
  exact (Action.consulting_engine hengine hfactory).of_settings_eq rfl

theorem settings_of_idle
    {st : Step σ α} {p : Session σ α}
    (hforgets : st.forgets = false)
    (hconsults : st.consults p = false) :
    (st.perform p).settings = p.settings := by
  cases hasks : st.asks p with
  | true =>
      obtain ⟨w, j, hleft⟩ := perform_of_asks hasks
      rw [hleft]
      refine Action.settings_run_engine ?_
      by_contra hnone
      push Not at hnone
      rw [consults_iff.mpr ⟨hasks, hnone⟩] at hconsults
      cases hconsults
  | false =>
      cases st with
      | register f | resetEngine | setFile file =>
          rfl
      | obtain =>
          cases hasks
      | resetSettings =>
          cases hforgets
      | version =>
          rw [perform, run_engineVersion_of_not_asks hasks]
      | operate op =>
          rw [perform_operate_of_unresolved]
          rw [← asks_operate_iff op p, hasks]
          simp
      | setVariable name value =>
          obtain ⟨environment, hset⟩ := perform_setVariable name value p
          rw [hset]

/-- Settings in use stay until they are forgotten. -/
theorem settings_of_inUse
    {st : Step σ α} {p : Session σ α} {c : Cached}
    (hforgets : st.forgets = false)
    (hc : p.settings = some c) :
    (st.perform p).settings = some c := by
  cases hconsults : st.consults p with
  | true => exact (consulting hconsults).settings_eq.trans ((consulting hconsults).of_inUse hc)
  | false => exact (settings_of_idle hforgets hconsults).trans hc

/-- A standard engine that is in use after a step was so before, or the step has consulted the
settings and made it of their level. -/
theorem engine_of_perform
    {st : Step σ α} {p : Session σ α} {s : Served σ α}
    (hengine : (st.perform p).engine = some s)
    (hfactory : (st.perform p).factory = none) :
    (p.engine = some s ∧ p.factory = none) ∨
      (p.engine = none ∧ p.factory = none ∧ st.consults p = true ∧
        ∃ c, (st.perform p).settings = some c ∧
          s.engine = p.standard.make c.settings.unsupportedLevel) := by
  cases st.effect p with
  | governed hgoverns hasks hq =>
      have hnone : (st.perform p).engine = none := congrArg Provision.engine hq
      rw [hengine] at hnone
      cases hnone
  | idle hgoverns hasks hq =>
      exact .inl ⟨(congrArg Provision.engine hq).symm.trans hengine,
        (congrArg Provision.factory hq).symm.trans hfactory⟩
  | asked hgoverns hasks h =>
      have hobtained : st.obtains p = some s := h.engine_eq.symm.trans hengine
      have hunregistered : p.factory = none := h.factory_eq.symm.trans hfactory
      rw [hobtained] at h
      cases h with
      | inUse _ hbefore hq =>
          exact .inl ⟨hbefore, hunregistered⟩
      | built f e scene hbefore hf hrun hq =>
          rw [hunregistered] at hf
          cases hf
      | standard c hbefore hf hsettings hq =>
          exact .inr ⟨hbefore, hf, consults_iff.mpr ⟨hasks, hbefore, hf⟩, c, hsettings, rfl⟩

theorem standard_perform (st : Step σ α) (p : Session σ α) :
    (st.perform p).standard = p.standard := by
  cases st.effect p with
  | asked hgoverns hasks h => exact h.standard_eq
  | governed hgoverns hasks hq | idle hgoverns hasks hq => exact congrArg Provision.standard hq

end Step

/-! ## Events -/

/-- What may happen in a session, as far as its settings are concerned. -/
inductive Event (σ α : Type) where
  | step (st : Step σ α)
  | consult
  | host (op : HostOperation)

namespace Event

/-- The session after an event, whether it fails or not. -/
def perform (e : Event σ α) (p : Session σ α) : Session σ α :=
  match e with
  | step st => st.perform p
  | consult => (Action.run Action.cachedSettings p).2
  | host op => (Action.run op.action p).2

/-- Whether an event forgets the settings. -/
def forgets : Event σ α → Bool
  | step st => st.forgets
  | consult | host _ => false

/-- Whether an event consults the settings.  An operation of a host does so if it leaves a dialect
out; else it does what the operation on texts does. -/
def consults (e : Event σ α) (p : Session σ α) : Bool :=
  match e with
  | step st => st.consults p
  | consult => true
  | host op =>
    if op.leavesOut then op.isWritten
    else op.operation?.any fun op' => Step.consults (.operate op') p

/-- What an event does to the settings. -/
inductive Effect (e : Event σ α) (p q : Session σ α) : Prop where
  | forgot
      (hforgets : e.forgets = true)
      (hconsults : e.consults p = false)
      (hq : q.settings = none)
  | consulted
      (hforgets : e.forgets = false)
      (hconsults : e.consults p = true)
      (h : Consulting p q (Action.settled? p))
  | idle
      (hforgets : e.forgets = false)
      (hconsults : e.consults p = false)
      (hq : q.settings = p.settings)

theorem effect_step (st : Step σ α) (p : Session σ α) :
    Effect (.step st) p ((Event.step st).perform p) := by
  cases hforgets : st.forgets with
  | true =>
      cases st <;> cases hforgets
      exact .forgot rfl rfl rfl
  | false =>
      cases hconsults : st.consults p with
      | true => exact .consulted hforgets hconsults (Step.consulting hconsults)
      | false => exact .idle hforgets hconsults (Step.settings_of_idle hforgets hconsults)

/-- An operation of a host that leaves a dialect out consults the settings first. -/
theorem run_host_of_leavesOut
    {op : HostOperation}
    (hwritten : op.isWritten = true)
    (hleaves : op.leavesOut = true)
    (p : Session σ α) :
    Action.run op.action p =
      match Action.run Action.cachedSettings p with
      | (.ok c, q) => Action.run (op.filled c.settings.defaultDialect).action q
      | (.error f, q) => (.error f, q) := by
  rw [HostOperation.action_of_leavesOut hwritten hleaves, Action.run_bind]
  rcases Action.run Action.cachedSettings p with ⟨_ | c, q⟩ <;> rfl

/-- What an operation of a host does to a session, and whether it consults the settings outright. -/
inductive Hosting (op : HostOperation) (p : Session σ α) : Session σ α → Prop where
  | unwritten
      (hconsults : (host op).consults p = false) : Hosting op p p
  | given (op' : Operation)
      (hconsults : (host op).consults p = Step.consults (.operate op') p) :
      Hosting op p (Step.perform (.operate op') p)
  | refused (f : Failure)
      (hconsults : (host op).consults p = true)
      (hrun : Action.run Action.cachedSettings p = (.error f, p)) : Hosting op p p
  | settled (c : Cached) (q : Session σ α) (op' : Operation)
      (hconsults : (host op).consults p = true)
      (hrun : Action.run Action.cachedSettings p = (.ok c, q)) :
      Hosting op p (Step.perform (.operate op') q)

theorem hosting (op : HostOperation) (p : Session σ α) :
    Hosting op p ((host op).perform p) := by
  cases hwritten : op.isWritten with
  | false =>
      obtain ⟨f, hf⟩ := HostOperation.run_of_unwritten hwritten p
      have hnone : op.operation? = none := HostOperation.operation?_of_unwritten hwritten
      rw [perform, hf]
      exact .unwritten (by simp [consults, hwritten, hnone])
  | true =>
      cases hleaves : op.leavesOut with
      | false =>
          obtain ⟨op', hop⟩ := HostOperation.exists_operation hwritten hleaves
          rw [perform, HostOperation.run_action_snd hop]
          exact .given op' (by simp [consults, hleaves, hop])
      | true =>
          have hconsults : (host op).consults p = true := by
            simp [consults, hwritten, hleaves]
          rw [perform, run_host_of_leavesOut hwritten hleaves]
          rcases hrun : Action.run Action.cachedSettings p with ⟨f | c, q⟩
          · cases Action.run_cachedSettings_of_error hrun
            exact .refused f hconsults hrun
          · obtain ⟨op', hop⟩ := HostOperation.exists_operation
              ((HostOperation.isWritten_filled c.settings.defaultDialect op).trans hwritten)
              (HostOperation.leavesOut_filled c.settings.defaultDialect op)
            dsimp only
            rw [HostOperation.run_action_snd hop]
            exact .settled c q op' hconsults hrun

theorem effect_host (op : HostOperation) (p : Session σ α) :
    Effect (host op) p ((host op).perform p) := by
  have hconsulting := Action.consulting_cachedSettings p
  rw [Action.settled?] at hconsulting
  generalize hq : (host op).perform p = q
  have hhosting := hosting op p
  rw [hq] at hhosting
  cases hhosting with
  | unwritten hconsults =>
      exact .idle rfl hconsults rfl
  | given op' hconsults =>
      cases effect_step (.operate op') p with
      | forgot hforgets _ _ => cases hforgets
      | consulted _ h hc => exact .consulted rfl (hconsults.trans h) hc
      | idle _ h hkept => exact .idle rfl (hconsults.trans h) hkept
  | refused f hconsults hrun =>
      rw [hrun] at hconsulting
      refine .consulted rfl hconsults ?_
      rw [Action.settled?, hrun]
      exact hconsulting
  | settled c q op' hconsults hrun =>
      rw [hrun] at hconsulting
      have hinUse : q.settings = some c := hconsulting.settings_eq
      refine .consulted rfl hconsults ?_
      rw [Action.settled?, hrun]
      refine hconsulting.of_settings_eq ?_
      rw [Step.settings_of_inUse rfl hinUse, hinUse]

/-- Every event forgets the settings, or consults them, or leaves them alone. -/
theorem effect (e : Event σ α) (p : Session σ α) :
    Effect e p (e.perform p) := by
  cases e with
  | step st => exact effect_step st p
  | consult => exact .consulted rfl rfl (Action.consulting_cachedSettings p)
  | host op => exact effect_host op p

/-- A standard engine that is in use after an event was so before, or the event has consulted the
settings and made it of their level. -/
theorem engine_of_perform
    {e : Event σ α} {p : Session σ α} {s : Served σ α}
    (hengine : (e.perform p).engine = some s)
    (hfactory : (e.perform p).factory = none) :
    (p.engine = some s ∧ p.factory = none) ∨
      (p.engine = none ∧ p.factory = none ∧ e.consults p = true ∧
        ∃ c, (e.perform p).settings = some c ∧
          s.engine = p.standard.make c.settings.unsupportedLevel) := by
  have hprovision := Action.provision_cachedSettings p
  have hkept : ∀ {q : Session σ α}, q.provision = p.provision → q.engine = some s →
      q.factory = none → p.engine = some s ∧ p.factory = none :=
    fun hq hs hf => ⟨(congrArg Provision.engine hq).symm.trans hs,
      (congrArg Provision.factory hq).symm.trans hf⟩
  cases e with
  | step st =>
      exact Step.engine_of_perform hengine hfactory
  | consult =>
      exact .inl (hkept hprovision hengine hfactory)
  | host op =>
      generalize hq : (host op).perform p = q at *
      have hhosting := hosting op p
      rw [hq] at hhosting
      cases hhosting with
      | unwritten hconsults | refused f hconsults hrun =>
          exact .inl ⟨hengine, hfactory⟩
      | given op' hconsults =>
          rw [hconsults]
          exact Step.engine_of_perform hengine hfactory
      | settled c q op' hconsults hrun =>
          rw [hrun] at hprovision
          rcases Step.engine_of_perform hengine hfactory with
            ⟨hs, hf⟩ | ⟨hs, hf, -, c', hc', hmade⟩
          · exact .inl (hkept hprovision hs hf)
          · have hstandard : q.standard = p.standard := congrArg Provision.standard hprovision
            rw [hstandard] at hmade
            exact .inr ⟨(congrArg Provision.engine hprovision).symm.trans hs,
              (congrArg Provision.factory hprovision).symm.trans hf, hconsults, c', hc', hmade⟩

theorem standard_perform (e : Event σ α) (p : Session σ α) :
    (e.perform p).standard = p.standard := by
  have hprovision := congrArg Provision.standard (Action.provision_cachedSettings p)
  cases e with
  | step st =>
      exact Step.standard_perform st p
  | consult =>
      exact hprovision
  | host op =>
      generalize hq : (host op).perform p = q
      have hhosting := hosting op p
      rw [hq] at hhosting
      cases hhosting with
      | unwritten hconsults | refused f hconsults hrun =>
          rfl
      | given op' hconsults =>
          exact Step.standard_perform _ p
      | settled c q op' hconsults hrun =>
          rw [hrun] at hprovision
          exact (Step.standard_perform _ q).trans hprovision

end Event

/-! ## Runs -/

namespace History

variable (start : Session σ α) (events : List (Event σ α))

/-- The session in which an event of a run, counted from zero, finds itself. -/
def moment (k : Nat) : Session σ α :=
  (events.take k).foldl (fun p e => e.perform p) start

/-- Whether an event of a run consults the settings. -/
def asked (k : Nat) : Bool :=
  events[k]?.any fun e => e.consults (moment start events k)

/-- The settings that are handed out to an event of a run. -/
def handed (k : Nat) : Option Cached :=
  if asked start events k then Action.settled? (moment start events k) else none

/-- From one event on and before another one none forgets the settings. -/
def Unforgotten (j k : Nat) : Prop :=
  ∀ i e, j ≤ i → i < k → events[i]? = some e → e.forgets = false

variable {start events}

theorem unforgotten_self (k : Nat) :
    Unforgotten events k k :=
  fun _ _ hi hk => absurd hk (Nat.not_lt.mpr hi)

theorem Unforgotten.mono
    {j j' k k' : Nat}
    (h : Unforgotten events j k)
    (hj : j ≤ j')
    (hk : k' ≤ k) :
    Unforgotten events j' k' :=
  fun i e hi hlt => h i e (Nat.le_trans hj hi) (Nat.lt_of_lt_of_le hlt hk)

theorem Unforgotten.succ
    {j k : Nat}
    (h : Unforgotten events j k)
    (hk : ∀ e, events[k]? = some e → e.forgets = false) :
    Unforgotten events j (k + 1) := by
  intro i e hi hlt he
  rcases Nat.lt_succ_iff_lt_or_eq.mp hlt with hlt | rfl
  · exact h i e hi hlt he
  · exact hk e he

theorem moment_succ_of_some
    {k : Nat} {e : Event σ α}
    (h : events[k]? = some e) :
    moment start events (k + 1) = e.perform (moment start events k) := by
  simp only [moment, List.take_add_one, h, Option.toList_some, List.foldl_append, List.foldl_cons,
    List.foldl_nil]

theorem moment_succ_of_none
    {k : Nat}
    (h : events[k]? = none) :
    moment start events (k + 1) = moment start events k := by
  simp only [moment, List.take_add_one, h, Option.toList_none, List.append_nil]

theorem asked_of_some
    {k : Nat} {e : Event σ α}
    (h : events[k]? = some e) :
    asked start events k = e.consults (moment start events k) := by
  simp [asked, h]

theorem handed_of_asked
    {k : Nat}
    (h : asked start events k = true) :
    handed start events k = Action.settled? (moment start events k) := by
  rw [handed, if_pos h]

theorem asked_of_handed
    {k : Nat} {c : Cached}
    (h : handed start events k = some c) :
    asked start events k = true := by
  by_contra hasked
  rw [handed, if_neg hasked] at h
  cases h

/-- What happens to the settings from one moment of a run to the next. -/
inductive Passage (start : Session σ α) (events : List (Event σ α)) (k : Nat) : Prop where
  | forgot (e : Event σ α)
      (he : events[k]? = some e)
      (hforgets : e.forgets = true)
      (hasked : asked start events k = false)
      (hq : (moment start events (k + 1)).settings = none)
  | consulted
      (hforgets : ∀ e, events[k]? = some e → e.forgets = false)
      (hasked : asked start events k = true)
      (h : Consulting (moment start events k) (moment start events (k + 1)) (handed start events k))
  | idle
      (hforgets : ∀ e, events[k]? = some e → e.forgets = false)
      (hasked : asked start events k = false)
      (hq : (moment start events (k + 1)).settings = (moment start events k).settings)

theorem passage
    (start : Session σ α)
    (events : List (Event σ α))
    (k : Nat) :
    Passage start events k := by
  cases he : events[k]? with
  | none =>
      refine .idle ?_ ?_ ?_
      · simp [he]
      · simp [asked, he]
      · rw [moment_succ_of_none he]
  | some e =>
      have hforgets : ∀ b, e.forgets = b → ∀ e', events[k]? = some e' → e'.forgets = b := by
        intro b hb e' he'
        rw [he] at he'
        cases he'
        exact hb
      have hasked : asked start events k = e.consults (moment start events k) := asked_of_some he
      have heffect := e.effect (moment start events k)
      rw [← moment_succ_of_some he] at heffect
      cases heffect with
      | forgot hf hc hq =>
          exact .forgot e he hf (hasked.trans hc) hq
      | consulted hf hc h =>
          refine .consulted (hforgets false hf) (hasked.trans hc) ?_
          rw [handed_of_asked (hasked.trans hc)]
          exact h
      | idle hf hc hq =>
          exact .idle (hforgets false hf) (hasked.trans hc) hq

theorem passage_of_asked
    {k : Nat}
    (h : asked start events k = true) :
    (∀ e, events[k]? = some e → e.forgets = false) ∧
    Consulting (moment start events k) (moment start events (k + 1)) (handed start events k) := by
  cases passage start events k with
  | consulted hforgets hasked hconsulting =>
      exact ⟨hforgets, hconsulting⟩
  | forgot e he hforgets hasked hq | idle hforgets hasked hq =>
      rw [h] at hasked
      cases hasked

/-- Settings that are handed out are in use afterwards. -/
theorem settings_of_handed
    {k : Nat} {c : Cached}
    (h : handed start events k = some c) :
    (moment start events (k + 1)).settings = some c :=
  (passage_of_asked (asked_of_handed h)).2.settings_eq.trans h

/-- Settings in use stay until they are forgotten. -/
theorem settings_of_unforgotten
    {j k : Nat} {c : Cached}
    (hjk : j ≤ k)
    (h : Unforgotten events j k)
    (hc : (moment start events j).settings = some c) :
    (moment start events k).settings = some c := by
  induction k, hjk using Nat.le_induction with
  | base =>
      exact hc
  | succ k hjk ih =>
      have hk := ih (h.mono (Nat.le_refl j) (Nat.le_succ k))
      cases passage start events k with
      | forgot e he hforgets hasked hq =>
          rw [h k e hjk (Nat.lt_succ_self k) he] at hforgets
          cases hforgets
      | consulted hforgets hasked hconsulting =>
          exact hconsulting.settings_eq.trans (hconsulting.of_inUse hk)
      | idle hforgets hasked hq =>
          exact hq.trans hk

/-- The event has the settings loaded: it finds none in use and is handed these. -/
structure Loads (start : Session σ α) (events : List (Event σ α)) (m : Nat) (c : Cached) :
    Prop where
  unset : (moment start events m).settings = none
  handed : handed start events m = some c
  load : Settings.load (moment start events m).sources = .ok c.settings

/-- The settings in use have been loaded since they were last forgotten. -/
theorem exists_loading
    (hsettings : start.settings = none)
    {k : Nat} {c : Cached}
    (h : (moment start events k).settings = some c) :
    ∃ m, m < k ∧ Unforgotten events m k ∧ Loads start events m c := by
  induction k generalizing c with
  | zero =>
      rw [show (moment start events 0).settings = start.settings from rfl, hsettings] at h
      cases h
  | succ k ih =>
      -- settings that were in use before were loaded before, and the event does not forget them
      have hkept : (moment start events k).settings = some c →
          (∀ e, events[k]? = some e → e.forgets = false) →
          ∃ m, m < k + 1 ∧ Unforgotten events m (k + 1) ∧ Loads start events m c := by
        intro hc hforgets
        obtain ⟨m, hm, hunforgotten, hloads⟩ := ih hc
        exact ⟨m, Nat.lt_succ_of_lt hm, hunforgotten.succ hforgets, hloads⟩
      cases passage start events k with
      | forgot e he hforgets hasked hq =>
          rw [hq] at h
          cases h
      | idle hforgets hasked hq =>
          exact hkept (hq.symm.trans h) hforgets
      | consulted hforgets hasked hconsulting =>
          have hhanded : handed start events k = some c := hconsulting.settings_eq.symm.trans h
          cases hbefore : (moment start events k).settings with
          | some c' =>
              rw [hconsulting.of_inUse hbefore] at hhanded
              cases hhanded
              exact hkept hbefore hforgets
          | none =>
              refine ⟨k, Nat.lt_succ_self k, (unforgotten_self k).succ hforgets,
                hbefore, hhanded, ?_⟩
              rw [hhanded] at hconsulting
              cases hconsulting with
              | inUse _ hinUse hq =>
                  rw [hbefore] at hinUse
                  cases hinUse
              | loaded s hunset hload hq =>
                  exact hload

/-! ## The standard engine -/

theorem standard_moment (k : Nat) :
    (moment start events k).standard = start.standard := by
  induction k with
  | zero =>
      rfl
  | succ k ih =>
      cases he : events[k]? with
      | none =>
          rw [moment_succ_of_none he, ih]
      | some e =>
          rw [moment_succ_of_some he, Event.standard_perform, ih]

/-- A standard engine in use has been made by an event that was handed settings, of their level, and
has been in use since. -/
theorem exists_making
    (hengine : start.engine = none)
    {k : Nat} {s : Served σ α}
    (hs : (moment start events k).engine = some s)
    (hf : (moment start events k).factory = none) :
    ∃ m c, m < k ∧ (moment start events m).engine = none ∧
      handed start events m = some c ∧
      (∀ i, m < i → i ≤ k → (moment start events i).engine = some s) ∧
      s.engine = start.standard.make c.settings.unsupportedLevel := by
  induction k with
  | zero =>
      rw [show (moment start events 0).engine = start.engine from rfl, hengine] at hs
      cases hs
  | succ k ih =>
      -- an engine that was in use before was made before, and the event keeps it
      have hkept : (moment start events k).engine = some s → (moment start events k).factory = none →
          ∃ m c, m < k + 1 ∧ (moment start events m).engine = none ∧
            handed start events m = some c ∧
            (∀ i, m < i → i ≤ k + 1 → (moment start events i).engine = some s) ∧
            s.engine = start.standard.make c.settings.unsupportedLevel := by
        intro hbefore hunregistered
        obtain ⟨m, c, hm, hnone, hhanded, hsince, hmade⟩ := ih hbefore hunregistered
        refine ⟨m, c, Nat.lt_succ_of_lt hm, hnone, hhanded, ?_, hmade⟩
        intro i hmi hik
        rcases Nat.le_succ_iff.mp hik with hik | rfl
        · exact hsince i hmi hik
        · exact hs
      cases he : events[k]? with
      | none =>
          rw [moment_succ_of_none he] at hs hf
          exact hkept hs hf
      | some e =>
          have hnext : moment start events (k + 1) = e.perform (moment start events k) :=
            moment_succ_of_some he
          rw [hnext] at hs hf
          rcases Event.engine_of_perform hs hf with
            ⟨hbefore, hunregistered⟩ | ⟨hnone, -, hconsults, c, hc, hmade⟩
          · exact hkept hbefore hunregistered
          · have hasked : asked start events k = true := (asked_of_some he).trans hconsults
            rw [← hnext] at hc hs
            refine ⟨k, c, Nat.lt_succ_self k, hnone,
              (passage_of_asked hasked).2.settings_eq.symm.trans hc, ?_, ?_⟩
            · intro i hki hik
              rw [Nat.le_antisymm hik hki]
              exact hs
            · rw [hmade, standard_moment]

/-! ## The whole life -/

/-- Which settings the events of a run get. -/
structure Snapshots (start : Session σ α) (events : List (Event σ α)) : Prop where
  /-- Settings that are handed out are what could be loaded at the first event, since the settings
  were last forgotten, that was handed any. -/
  loaded : ∀ k c, handed start events k = some c →
    ∃ m, m ≤ k ∧ Unforgotten events m k ∧ Loads start events m c ∧
      ∀ i, i < m → Unforgotten events i m → handed start events i = none
  /-- Events between which the settings are not forgotten are handed the same. -/
  shared : ∀ j k c d, j ≤ k → Unforgotten events j k →
    handed start events j = some c → handed start events k = some d → c = d
  /-- Settings are consulted in vain only if they cannot be loaded; none are in use then, neither
  before nor after. -/
  refused : ∀ k, asked start events k = true → handed start events k = none →
    (∃ f, Settings.load (moment start events k).sources = .error f) ∧
    (moment start events k).settings = none ∧ (moment start events (k + 1)).settings = none
  /-- As long as none have been handed out since the settings were last forgotten, they are read from
  the environment as it then is. -/
  current : ∀ k, asked start events k = true →
    (∀ i, i < k → Unforgotten events i k → handed start events i = none) →
    handed start events k = (Settings.load (moment start events k).sources).toOption.map
      fun s => ⟨s, (moment start events k).settingsKept⟩
  /-- A host that asks for the settings consults them and gets what is handed out. -/
  outright : ∀ k, events[k]? = some .consult →
    asked start events k = true ∧
    (Action.run Action.cachedSettings (moment start events k)).1.toOption = handed start events k
  /-- An operation of a host that leaves dialects out consults the settings, unless its tree cannot
  be written, and is then the operation in the default dialect that is handed out; it fails and
  changes nothing if none are. -/
  hosted : ∀ k op, events[k]? = some (.host op) → op.isWritten = true → op.leavesOut = true →
    asked start events k = true ∧
    (∀ c, handed start events k = some c →
      Action.run op.action (moment start events k) =
        Action.run (op.filled c.settings.defaultDialect).action
          (Action.run Action.cachedSettings (moment start events k)).2) ∧
    (handed start events k = none →
      ∃ f, Action.run op.action (moment start events k) = (.error f, moment start events k))
  /-- A standard engine in use has the level of the settings that were in use when it was made,
  whatever has happened since. -/
  engine : ∀ k s, (moment start events k).engine = some s →
    (moment start events k).factory = none →
    ∃ m c, m < k ∧ (moment start events m).engine = none ∧
      (moment start events (m + 1)).settings = some c ∧ handed start events m = some c ∧
      (∀ i, m < i → i ≤ k → (moment start events i).engine = some s) ∧
      s.engine = start.standard.make c.settings.unsupportedLevel

/--
A session starts without settings and without an engine.  Whatever events follow, the settings that
are handed out, be it outright, to a host that leaves a dialect out or for the standard engine, are
loaded once in each stretch of the run, where a stretch ends when the settings are forgotten; and a
standard engine keeps the level that it was made of.
-/
theorem snapshots
    (start : Session σ α)
    (events : List (Event σ α))
    (hsettings : start.settings = none)
    (hengine : start.engine = none) :
    Snapshots start events where
  loaded := by
    intro k c h
    obtain ⟨m, hm, hunforgotten, hloads⟩ := exists_loading hsettings (settings_of_handed h)
    refine ⟨m, Nat.le_of_lt_succ hm, hunforgotten.mono (Nat.le_refl m) (Nat.le_succ k), hloads, ?_⟩
    intro i hi hbetween
    -- what has been handed out before would still be in use when these settings are loaded
    by_contra hsome
    obtain ⟨c', hc'⟩ := Option.ne_none_iff_exists'.mp hsome
    have hinUse := settings_of_unforgotten hi (hbetween.mono (Nat.le_succ i) (Nat.le_refl m))
      (settings_of_handed hc')
    rw [hloads.unset] at hinUse
    cases hinUse
  shared := by
    intro j k c d hjk h hc hd
    rcases Nat.eq_or_lt_of_le hjk with rfl | hlt
    · rw [hc] at hd
      cases hd
      rfl
    · have hinUse := settings_of_unforgotten hlt (h.mono (Nat.le_succ j) (Nat.le_refl k))
        (settings_of_handed hc)
      have hsame := (passage_of_asked (asked_of_handed hd)).2.of_inUse hinUse
      rw [hd] at hsame
      cases hsame
      rfl
  refused := by
    intro k hasked hnone
    have hconsulting := (passage_of_asked hasked).2
    rw [hnone] at hconsulting
    cases hconsulting with
    | refused f hunset hload hq => exact ⟨⟨f, hload⟩, hunset, hq⟩
  current := by
    intro k hasked hnone
    refine (passage_of_asked hasked).2.of_unset ?_
    cases hc : (moment start events k).settings with
    | none =>
        rfl
    | some c =>
        obtain ⟨m, hm, hunforgotten, hloads⟩ := exists_loading hsettings hc
        have hhanded := hloads.handed
        rw [hnone m hm hunforgotten] at hhanded
        cases hhanded
  outright := by
    intro k he
    have hasked : asked start events k = true := asked_of_some he
    exact ⟨hasked, (handed_of_asked hasked).symm⟩
  hosted := by
    intro k op he hwritten hleaves
    have hasked : asked start events k = true := by
      rw [asked_of_some he]
      simp [Event.consults, hwritten, hleaves]
    refine ⟨hasked, ?_⟩
    have hrun := Event.run_host_of_leavesOut hwritten hleaves (moment start events k)
    rw [handed_of_asked hasked, Action.settled?]
    rw [hrun]
    rcases hconsult : Action.run Action.cachedSettings (moment start events k) with ⟨f | c, q⟩
    · refine ⟨?_, ?_⟩
      · intro c hc
        cases hc
      · intro _
        exact ⟨f, by rw [Action.run_cachedSettings_of_error hconsult]⟩
    · refine ⟨?_, ?_⟩
      · intro c' hc'
        cases hc'
        rfl
      · intro hnone
        cases hnone
  engine := by
    intro k s hs hf
    obtain ⟨m, c, hm, hnone, hhanded, hsince, hmade⟩ := exists_making hengine hs hf
    exact ⟨m, c, hm, hnone, settings_of_handed hhanded, hhanded, hsince, hmade⟩

/-- A session in which nothing has happened.  The version of its standard engine is the name of the
level that the engine was made of. -/
def levelled : Session Scripted.State Value :=
  { Scripted.begun [] with
    standard := ⟨"1.0", fun l => Scripted.reportless l.label⟩ }

/-- A run in which the settings cannot be loaded at first, are then loaded for an engine, and are
forgotten after the environment has changed. -/
def levelRun : List (Event Scripted.State Value) :=
  [.step (.setVariable "POLYGLOT_UNSUPPORTED_LEVEL" (some "sometimes")), .consult,
    .step (.setVariable "POLYGLOT_UNSUPPORTED_LEVEL" (some "warn")), .step .obtain,
    .step (.setVariable "POLYGLOT_UNSUPPORTED_LEVEL" (some "ignore")), .consult,
    .step .resetSettings, .host (.format "SELECT 1" .unspecified)]

theorem snapshots_levelRun :
    levelled.settings = none ∧
    levelled.engine = none ∧
    Snapshots levelled levelRun ∧
    handed levelled levelRun 1 = none ∧
    (handed levelled levelRun 5).map (fun c => c.settings.unsupportedLevel) = some .warn ∧
    (handed levelled levelRun 7).map (fun c => c.settings.unsupportedLevel) = some .ignore ∧
    (moment levelled levelRun 8).engine.map
      (fun s => (Task.run s.engine.version levelled.scene).1.toOption) = some (some "warn") := by
  exact ⟨rfl, rfl, snapshots levelled levelRun rfl rfl, by decide +kernel, by decide +kernel,
    by decide +kernel, by decide +kernel⟩

end History
end SqlDialects
