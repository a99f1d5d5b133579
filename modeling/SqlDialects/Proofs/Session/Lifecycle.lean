import SqlDialects.Proofs.Session.Provision

/-!
# The engine over the life of a session

Which engine a call gets, over any run of registrations, calls and resets.

**Input.**  A session that has neither an engine nor a factory, and a list of steps.  A step that
fails does not end the run.  Registered factories may fail at any time, and every engine that is
made gets a number of its own.

**Invariant.**  The engine in use has been built since the last step that governs
(`Run.exists_building`), and as long as no step governs it stays (`Run.provision_of_undisturbed`).

**Results.**
* `Run.factoryRuns_eq`: between steps that govern, a registered factory runs once for each call that
  it refuses and once for the engine that it makes, if it makes one.
* `Run.lifecycle`: the engine that a call gets is the one of its stretch of the run, built by the
  factory that was registered last or else by default, and one that is given up never comes back.
-/

namespace SqlDialects

variable {σ α : Type}

/-! ## Runs -/

/-- The factory that was registered last, unless the engine has been forgotten since. -/
def registered (steps : List (Step σ α)) : Option (Factory σ α) :=
  steps.foldl (fun r st => if st.governs then st.factory? else r) none

/-- The session after some steps. -/
def Session.after (start : Session σ α) (steps : List (Step σ α)) : Session σ α :=
  steps.foldl (fun p st => st.perform p) start

namespace Run

variable (start : Session σ α) (steps : List (Step σ α))

/-- The session in which a step of a run, counted from zero, finds itself. -/
def moment (k : Nat) : Session σ α :=
  start.after (steps.take k)

/-- Whether a step of a run has the engine handed out. -/
def asked (k : Nat) : Bool :=
  steps[k]?.any fun st => st.asks (moment start steps k)

/-- The engine that a step of a run obtains. -/
def obtained (k : Nat) : Option (Served σ α) :=
  steps[k]?.bind fun st => st.obtains (moment start steps k)

/-- From one step on and before another one no step governs. -/
def Undisturbed (j k : Nat) : Prop :=
  ∀ i st, j ≤ i → i < k → steps[i]? = some st → st.governs = false

variable {start steps}

theorem undisturbed_self (k : Nat) :
    Undisturbed steps k k :=
  fun _ _ hi hk => absurd hk (Nat.not_lt.mpr hi)

theorem Undisturbed.mono
    {j j' k k' : Nat}
    (h : Undisturbed steps j k)
    (hj : j ≤ j')
    (hk : k' ≤ k) :
    Undisturbed steps j' k' :=
  fun i st hi hlt => h i st (Nat.le_trans hj hi) (Nat.lt_of_lt_of_le hlt hk)

theorem Undisturbed.succ
    {j k : Nat}
    (h : Undisturbed steps j k)
    (hk : ∀ st, steps[k]? = some st → st.governs = false) :
    Undisturbed steps j (k + 1) := by
  intro i st hi hlt hst
  rcases Nat.lt_succ_iff_lt_or_eq.mp hlt with hlt | rfl
  · exact h i st hi hlt hst
  · exact hk st hst

theorem moment_succ_of_some
    {k : Nat} {st : Step σ α}
    (h : steps[k]? = some st) :
    moment start steps (k + 1) = st.perform (moment start steps k) := by
  simp only [moment, Session.after, List.take_add_one, h, Option.toList_some, List.foldl_append,
    List.foldl_cons, List.foldl_nil]

theorem moment_succ_of_none
    {k : Nat}
    (h : steps[k]? = none) :
    moment start steps (k + 1) = moment start steps k := by
  simp only [moment, List.take_add_one, h, Option.toList_none, List.append_nil]

theorem registered_take_succ_of_some
    {k : Nat} {st : Step σ α}
    (h : steps[k]? = some st) :
    registered (steps.take (k + 1)) =
      if st.governs then st.factory? else registered (steps.take k) := by
  simp only [registered, List.take_add_one, h, Option.toList_some, List.foldl_append, List.foldl_cons,
    List.foldl_nil]

theorem registered_take_succ_of_undisturbed
    {k : Nat}
    (h : ∀ st, steps[k]? = some st → st.governs = false) :
    registered (steps.take (k + 1)) = registered (steps.take k) := by
  cases hst : steps[k]? with
  | none =>
      simp only [List.take_add_one, hst, Option.toList_none, List.append_nil]
  | some st =>
      rw [registered_take_succ_of_some hst, h st hst]
      rfl

/-- What happens from one moment of a run to the next. -/
inductive Passage (start : Session σ α) (steps : List (Step σ α)) (k : Nat) : Prop where
  | asked
      (hgoverns : ∀ st, steps[k]? = some st → st.governs = false)
      (hasked : asked start steps k = true)
      (h : Obtaining (moment start steps k) (moment start steps (k + 1)) (obtained start steps k))
  | governed (st : Step σ α)
      (hst : steps[k]? = some st)
      (hgoverns : st.governs = true)
      (hasked : asked start steps k = false)
      (hq : (moment start steps (k + 1)).provision =
        { (moment start steps k).provision with factory := st.factory?, engine := none })
  | idle
      (hgoverns : ∀ st, steps[k]? = some st → st.governs = false)
      (hasked : asked start steps k = false)
      (hq : (moment start steps (k + 1)).provision = (moment start steps k).provision)

theorem passage
    (start : Session σ α)
    (steps : List (Step σ α))
    (k : Nat) :
    Passage start steps k := by
  cases hst : steps[k]? with
  | none =>
      refine .idle ?_ ?_ ?_
      · simp [hst]
      · simp [asked, hst]
      · rw [moment_succ_of_none hst]
  | some st =>
      have hasked : asked start steps k = st.asks (moment start steps k) := by
        simp [asked, hst]
      have hobtained : obtained start steps k = st.obtains (moment start steps k) := by
        simp [obtained, hst]
      have heffect := st.effect (moment start steps k)
      rw [← moment_succ_of_some hst] at heffect
      cases heffect with
      | asked hgoverns h ho =>
          refine .asked ?_ (hasked.trans h) (hobtained ▸ ho)
          intro st' hst'
          rw [hst] at hst'
          cases hst'
          exact hgoverns
      | governed hgoverns h hq =>
          exact .governed st hst hgoverns (hasked.trans h) hq
      | idle hgoverns h hq =>
          refine .idle ?_ (hasked.trans h) hq
          intro st' hst'
          rw [hst] at hst'
          cases hst'
          exact hgoverns

theorem asked_of_obtained
    {k : Nat} {s : Served σ α}
    (h : obtained start steps k = some s) :
    asked start steps k = true := by
  obtain ⟨st, hst, hs⟩ := Option.bind_eq_some_iff.mp h
  rw [Step.obtains] at hs
  split at hs
  · rename_i hasks
    simpa [asked, hst] using hasks
  · cases hs

theorem obtained_of_not_asked
    {k : Nat}
    (h : asked start steps k = false) :
    obtained start steps k = none := by
  rcases hs : obtained start steps k with _ | s
  · rfl
  · rw [asked_of_obtained hs] at h
    cases h

theorem passage_of_asked
    {k : Nat}
    (h : asked start steps k = true) :
    (∀ st, steps[k]? = some st → st.governs = false) ∧
    Obtaining (moment start steps k) (moment start steps (k + 1)) (obtained start steps k) := by
  cases passage start steps k with
  | asked hgoverns hasked ho =>
      exact ⟨hgoverns, ho⟩
  | governed st hst hgoverns hasked hq =>
      rw [h] at hasked
      cases hasked
  | idle hgoverns hasked hq =>
      rw [h] at hasked
      cases hasked

/-! ## What stays, and what only grows -/

theorem standard_moment (k : Nat) :
    (moment start steps k).standard = start.standard := by
  induction k with
  | zero =>
      rfl
  | succ k ih =>
      rw [← ih]
      cases passage start steps k with
      | asked hgoverns hasked h => exact h.standard_eq
      | governed st hst hgoverns hasked hq => exact congrArg Provision.standard hq
      | idle hgoverns hasked hq => exact congrArg Provision.standard hq

/-- The factory at hand is the one that was registered last. -/
theorem factory_moment
    (hfactory : start.factory = none)
    (k : Nat) :
    (moment start steps k).factory = registered (steps.take k) := by
  induction k with
  | zero =>
      exact hfactory
  | succ k ih =>
      cases passage start steps k with
      | asked hgoverns hasked h =>
          rw [h.factory_eq, ih, registered_take_succ_of_undisturbed hgoverns]
      | governed st hst hgoverns hasked hq =>
          rw [registered_take_succ_of_some hst, hgoverns]
          exact congrArg Provision.factory hq
      | idle hgoverns hasked hq =>
          rw [registered_take_succ_of_undisturbed hgoverns, ← ih]
          exact congrArg Provision.factory hq

theorem enginesMade_le_succ (k : Nat) :
    (moment start steps k).enginesMade ≤ (moment start steps (k + 1)).enginesMade := by
  cases passage start steps k with
  | asked hgoverns hasked h => exact h.enginesMade_le
  | governed st hst hgoverns hasked hq => exact (congrArg Provision.enginesMade hq).ge
  | idle hgoverns hasked hq => exact (congrArg Provision.enginesMade hq).ge

theorem enginesMade_mono
    {j k : Nat}
    (h : j ≤ k) :
    (moment start steps j).enginesMade ≤ (moment start steps k).enginesMade :=
  monotone_nat_of_le_succ (f := fun k => (moment start steps k).enginesMade) enginesMade_le_succ h

/-- Once an engine is in use the provision stays as it is, as long as no step governs. -/
theorem provision_of_undisturbed
    {j k : Nat} {s : Served σ α}
    (hjk : j ≤ k)
    (h : Undisturbed steps j k)
    (hs : (moment start steps j).engine = some s) :
    (moment start steps k).provision = (moment start steps j).provision := by
  induction k, hjk using Nat.le_induction with
  | base =>
      rfl
  | succ k hjk ih =>
      have hk := ih (h.mono (Nat.le_refl j) (Nat.le_succ k))
      cases passage start steps k with
      | asked hgoverns hasked ho =>
          exact (ho.of_inUse ((congrArg Provision.engine hk).trans hs)).2.trans hk
      | governed st hst hgoverns hasked hq =>
          rw [h k st hjk (Nat.lt_succ_self k) hst] at hgoverns
          cases hgoverns
      | idle hgoverns hasked hq =>
          exact hq.trans hk

theorem registered_of_undisturbed
    {j k : Nat}
    (hjk : j ≤ k)
    (h : Undisturbed steps j k) :
    registered (steps.take k) = registered (steps.take j) := by
  induction k, hjk using Nat.le_induction with
  | base =>
      rfl
  | succ k hjk ih =>
      rw [registered_take_succ_of_undisturbed (h k · hjk (Nat.lt_succ_self k)),
        ih (h.mono (Nat.le_refl j) (Nat.le_succ k))]

/-! ## Where an engine comes from -/

/-- A step of a run has the engine built, by a factory or else as the standard engine, with the level
of the settings that are then in use. -/
def BuiltBy (start : Session σ α) (steps : List (Step σ α)) (m : Nat) (s : Served σ α) :
    Option (Factory σ α) → Prop
  | some f => ∃ scene, Task.run f (moment start steps m).scene = (.ok s.engine, scene)
  | none => ∃ c, (moment start steps (m + 1)).settings = some c ∧
      s.engine = start.standard.make c.settings.unsupportedLevel

/-- The step builds the engine: it finds none in use and obtains this one, with the next number. -/
structure Builds (start : Session σ α) (steps : List (Step σ α)) (m : Nat) (s : Served σ α) :
    Prop where
  engine : (moment start steps m).engine = none
  obtained : obtained start steps m = some s
  number : s.number = (moment start steps m).enginesMade
  made : (moment start steps (m + 1)).enginesMade = s.number + 1
  built : BuiltBy start steps m s (registered (steps.take m))

theorem builds_of_obtaining
    (hfactory : start.factory = none)
    {k : Nat} {s : Served σ α}
    (hnone : (moment start steps k).engine = none)
    (hobtained : obtained start steps k = some s)
    (h : Obtaining (moment start steps k) (moment start steps (k + 1)) (some s)) :
    Builds start steps k s := by
  have hregistered := @factory_moment _ _ _ steps hfactory k
  cases h with
  | inUse _ hengine hq =>
      rw [hnone] at hengine
      cases hengine
  | built f e scene hengine hf hrun hq =>
      refine ⟨hnone, hobtained, rfl, congrArg Provision.enginesMade hq, ?_⟩
      rw [← hregistered, hf]
      exact ⟨scene, hrun⟩
  | standard c hengine hf hsettings hq =>
      refine ⟨hnone, hobtained, rfl, congrArg Provision.enginesMade hq, ?_⟩
      rw [← hregistered, hf]
      exact ⟨c, hsettings, by rw [standard_moment]⟩

/-- The engine in use has been built since the last step that governs. -/
theorem exists_building
    (hengine : start.engine = none)
    (hfactory : start.factory = none)
    {k : Nat} {s : Served σ α}
    (h : (moment start steps k).engine = some s) :
    ∃ m, m < k ∧ Undisturbed steps m k ∧ Builds start steps m s := by
  induction k generalizing s with
  | zero =>
      rw [show (moment start steps 0).engine = start.engine from rfl, hengine] at h
      cases h
  | succ k ih =>
      -- an engine that was in use before was built before, and the step does not govern
      have hkept : (moment start steps k).engine = some s →
          (∀ st, steps[k]? = some st → st.governs = false) →
          ∃ m, m < k + 1 ∧ Undisturbed steps m (k + 1) ∧ Builds start steps m s := by
        intro hs hgoverns
        obtain ⟨m, hm, hundisturbed, hbuilds⟩ := ih hs
        exact ⟨m, Nat.lt_succ_of_lt hm, hundisturbed.succ hgoverns, hbuilds⟩
      cases passage start steps k with
      | asked hgoverns hasked ho =>
          have hobtained : obtained start steps k = some s := ho.engine_eq.symm.trans h
          cases hbefore : (moment start steps k).engine with
          | some s' =>
              obtain ⟨hsame, -⟩ := ho.of_inUse hbefore
              rw [hobtained] at hsame
              cases hsame
              exact hkept hbefore hgoverns
          | none =>
              rw [hobtained] at ho
              exact ⟨k, Nat.lt_succ_self k, (undisturbed_self k).succ hgoverns,
                builds_of_obtaining hfactory hbefore hobtained ho⟩
      | governed st hst hgoverns hasked hq =>
          have hnone : (moment start steps (k + 1)).engine = none := congrArg Provision.engine hq
          rw [h] at hnone
          cases hnone
      | idle hgoverns hasked hq =>
          exact hkept ((congrArg Provision.engine hq).symm.trans h) hgoverns

/-! ## How often a factory runs -/

/-- Whether a step asks for the engine in vain. -/
def refused (start : Session σ α) (steps : List (Step σ α)) (k : Nat) : Bool :=
  asked start steps k && (obtained start steps k).isNone

/-- Whether a step obtains an engine that was not there before. -/
def made (start : Session σ α) (steps : List (Step σ α)) (k : Nat) : Bool :=
  (moment start steps k).engine.isNone && (obtained start steps k).isSome

/-- How many steps, from one on and before another one, are of a kind. -/
def count (kind : Nat → Bool) (j k : Nat) : Nat :=
  (List.range' j (k - j)).countP kind

theorem count_self (kind : Nat → Bool) (j : Nat) :
    count kind j j = 0 := by
  simp [count]

theorem count_succ
    (kind : Nat → Bool)
    {j k : Nat}
    (h : j ≤ k) :
    count kind j (k + 1) = count kind j k + if kind k then 1 else 0 := by
  have hlast : j + (k - j) = k := Nat.add_sub_cancel' h
  rw [count, Nat.succ_sub h, List.range'_1_concat, List.countP_append, hlast, count]
  simp [List.countP_cons]

theorem factoryRuns_succ
    {k : Nat} {f : Factory σ α}
    (hf : (moment start steps k).factory = some f)
    (hgoverns : ∀ st, steps[k]? = some st → st.governs = false) :
    (moment start steps (k + 1)).factoryRuns = (moment start steps k).factoryRuns +
      (if refused start steps k then 1 else 0) + (if made start steps k then 1 else 0) := by
  cases passage start steps k with
  | asked _ hasked ho =>
      rw [refused, made, hasked]
      generalize obtained start steps k = r at ho
      cases ho with
      | inUse s hengine hq =>
          rw [hengine]
          exact congrArg Provision.factoryRuns hq
      | built _ e scene hengine _ hrun hq | refused _ x scene hengine _ hrun hq =>
          rw [hengine]
          exact congrArg Provision.factoryRuns hq
      | standard c _ hnone hsettings hq | unset _ hnone hq =>
          rw [hf] at hnone
          cases hnone
  | governed st hst hgoverned hasked hq =>
      rw [hgoverns st hst] at hgoverned
      cases hgoverned
  | idle _ hasked hq =>
      rw [refused, made, hasked, obtained_of_not_asked hasked, Option.isSome_none, Bool.and_false]
      exact congrArg Provision.factoryRuns hq

/-- As long as no step governs, the factory that is registered runs once for each refusal and once
for each engine that is made. -/
theorem factoryRuns_eq
    (hfactory : start.factory = none)
    {j k : Nat} {f : Factory σ α}
    (hjk : j ≤ k)
    (h : Undisturbed steps j k)
    (hf : registered (steps.take j) = some f) :
    (moment start steps k).factoryRuns = (moment start steps j).factoryRuns +
      count (refused start steps) j k + count (made start steps) j k := by
  induction k, hjk using Nat.le_induction with
  | base =>
      simp only [count_self, Nat.add_zero]
  | succ k hjk ih =>
      have hbefore := h.mono (Nat.le_refl j) (Nat.le_succ k)
      have hregistered : (moment start steps k).factory = some f := by
        rw [factory_moment hfactory, registered_of_undisturbed hjk hbefore, hf]
      rw [factoryRuns_succ hregistered (h k · hjk (Nat.lt_succ_self k)), ih hbefore,
        count_succ _ hjk, count_succ _ hjk]
      omega

/-- Without a registered factory none runs. -/
theorem factoryRuns_of_unregistered
    (hfactory : start.factory = none)
    {j k : Nat}
    (hjk : j ≤ k)
    (h : Undisturbed steps j k)
    (hnone : registered (steps.take j) = none) :
    (moment start steps k).factoryRuns = (moment start steps j).factoryRuns := by
  induction k, hjk using Nat.le_induction with
  | base =>
      rfl
  | succ k hjk ih =>
      have hbefore := h.mono (Nat.le_refl j) (Nat.le_succ k)
      have hregistered : (moment start steps k).factory = none := by
        rw [factory_moment hfactory, registered_of_undisturbed hjk hbefore, hnone]
      rw [← ih hbefore]
      cases passage start steps k with
      | asked _ hasked ho =>
          exact ho.factoryRuns_of_none hregistered
      | governed st hst hgoverned hasked hq =>
          rw [h k st hjk (Nat.lt_succ_self k) hst] at hgoverned
          cases hgoverned
      | idle _ hasked hq =>
          exact congrArg Provision.factoryRuns hq

/-- As long as no step governs, at most one engine is made, and none where one is in use. -/
theorem count_made_add_le
    {j k : Nat}
    (hjk : j ≤ k)
    (h : Undisturbed steps j k) :
    count (made start steps) j k +
      (if (moment start steps k).engine.isNone then 1 else 0) ≤ 1 := by
  induction k, hjk using Nat.le_induction with
  | base =>
      rw [count_self]
      split <;> omega
  | succ k hjk ih =>
      have hk := ih (h.mono (Nat.le_refl j) (Nat.le_succ k))
      rw [count_succ _ hjk]
      cases passage start steps k with
      | asked _ hasked ho =>
          have hengine := ho.engine_eq
          rw [hengine, made]
          cases hbefore : (moment start steps k).engine with
          | none =>
              rw [hbefore] at hk
              cases obtained start steps k <;> simpa using hk
          | some s =>
              rw [hbefore] at hk
              rw [(ho.of_inUse hbefore).1]
              simpa using hk
      | governed st hst hgoverned hasked hq =>
          rw [h k st hjk (Nat.lt_succ_self k) hst] at hgoverned
          cases hgoverned
      | idle _ hasked hq =>
          have hengine : (moment start steps (k + 1)).engine = (moment start steps k).engine :=
            congrArg Provision.engine hq
          rw [hengine, made, obtained_of_not_asked hasked]
          simpa using hk

/-! ## The whole life -/

/-- Which engines the steps of a run get. -/
structure Lifecycle (start : Session σ α) (steps : List (Step σ α)) : Prop where
  /-- An engine that a step obtains has been built in the same stretch of the run: by the factory
  that was registered last since the engine was forgotten, or as the standard engine if there is
  none. -/
  built : ∀ k s, obtained start steps k = some s →
    ∃ m, m ≤ k ∧ Undisturbed steps m k ∧ obtained start steps m = some s ∧
      BuiltBy start steps m s (registered (steps.take k))
  /-- Steps between which none governs obtain one engine. -/
  shared : ∀ j k s t, j ≤ k → Undisturbed steps j k →
    obtained start steps j = some s → obtained start steps k = some t → s = t
  /-- An engine that was obtained before a step that governs is not obtained after it. -/
  renewed : ∀ j k s t, j ≤ k → ¬ Undisturbed steps j k →
    obtained start steps j = some s → obtained start steps k = some t → s.number < t.number
  /-- The factory runs once for each refusal, and at most once beyond. -/
  runs : ∀ j k f, j ≤ k → Undisturbed steps j k → registered (steps.take j) = some f →
    (moment start steps k).factoryRuns = (moment start steps j).factoryRuns +
      count (refused start steps) j k + count (made start steps) j k ∧
    count (made start steps) j k ≤ 1
  /-- No factory runs where none is registered. -/
  unregistered : ∀ j k, j ≤ k → Undisturbed steps j k → registered (steps.take j) = none →
    (moment start steps k).factoryRuns = (moment start steps j).factoryRuns
  /-- Once an engine has been obtained, no factory runs and nothing is made until a step governs. -/
  settled : ∀ j k s, j < k → Undisturbed steps j k → obtained start steps j = some s →
    (moment start steps k).provision = (moment start steps (j + 1)).provision
  /-- An operation works on the engine that it obtains. -/
  operated : ∀ k op s, steps[k]? = some (.operate op) → obtained start steps k = some s →
    ∃ q j, Action.run Action.engine (moment start steps k) = (.ok s.engine, q) ∧
      Action.run op.action (moment start steps k) =
        Action.run (op.onEngine s.engine) (q.withJournal j)
  /-- An operation that obtains none fails. -/
  unserved : ∀ k op, steps[k]? = some (.operate op) → obtained start steps k = none →
    ∃ f, (Action.run op.action (moment start steps k)).1 = .error f
  /-- The version is that of the engine that is obtained. -/
  versioned : ∀ k s, steps[k]? = some .version → obtained start steps k = some s →
    ∃ q, Action.run Action.engine (moment start steps k) = (.ok s.engine, q) ∧
      Action.run Action.engineVersion (moment start steps k) =
        Action.run (Action.engineTask s.engine.version) q
  /-- If none is asked for it is that of the standard engine, and there is neither an engine nor a
  factory. -/
  unasked : ∀ k, steps[k]? = some .version → asked start steps k = false →
    Action.run Action.engineVersion (moment start steps k) =
      (.ok start.standard.version, moment start steps k) ∧
    (moment start steps k).engine = none ∧ registered (steps.take k) = none

theorem obtained_of_some
    {k : Nat} {st : Step σ α}
    (hst : steps[k]? = some st) :
    obtained start steps k = st.obtains (moment start steps k) := by
  rw [obtained, hst, Option.bind_some]

/-- A step that obtains an engine asks for it. -/
theorem asks_of_obtained
    {k : Nat} {st : Step σ α} {s : Served σ α}
    (hst : steps[k]? = some st)
    (h : obtained start steps k = some s) :
    st.asks (moment start steps k) = true ∧ Action.served? (moment start steps k) = some s := by
  rw [obtained_of_some hst, Step.obtains] at h
  split at h
  · rename_i hasks
    exact ⟨hasks, h⟩
  · cases h

theorem engine_of_obtained
    {k : Nat} {s : Served σ α}
    (h : obtained start steps k = some s) :
    (moment start steps (k + 1)).engine = some s :=
  (passage_of_asked (asked_of_obtained h)).2.engine_eq.trans h

/--
A session starts without an engine and without a factory.  Whatever steps are then taken, each call
gets the engine of its stretch of the run, where a stretch ends when a factory is registered or the
engine is forgotten.
-/
theorem lifecycle
    (start : Session σ α)
    (steps : List (Step σ α))
    (hengine : start.engine = none)
    (hfactory : start.factory = none) :
    Lifecycle start steps where
  built := by
    intro k s h
    obtain ⟨m, hm, hundisturbed, hbuilds⟩ :=
      exists_building hengine hfactory (engine_of_obtained h)
    have hle := Nat.le_of_lt_succ hm
    have hstretch := hundisturbed.mono (Nat.le_refl m) (Nat.le_succ k)
    refine ⟨m, hle, hstretch, hbuilds.obtained, ?_⟩
    rw [registered_of_undisturbed hle hstretch]
    exact hbuilds.built
  shared := by
    intro j k s t hjk h hs ht
    rcases Nat.eq_or_lt_of_le hjk with rfl | hlt
    · rw [hs] at ht
      cases ht
      rfl
    · have hprovision := provision_of_undisturbed hlt (h.mono (Nat.le_succ j) (Nat.le_refl k))
        (engine_of_obtained hs)
      have hinUse := (congrArg Provision.engine hprovision).trans (engine_of_obtained hs)
      have hsame := ((passage_of_asked (asked_of_obtained ht)).2.of_inUse hinUse).1
      rw [ht] at hsame
      cases hsame
      rfl
  renewed := by
    intro j k s t hjk h hs ht
    obtain ⟨m, hm, hundisturbed, hbuilds⟩ :=
      exists_building hengine hfactory (engine_of_obtained ht)
    obtain ⟨m', hm', -, hbuilt⟩ := exists_building hengine hfactory (engine_of_obtained hs)
    -- the later engine is built after the step that governs, hence after the earlier one is there
    have hjm : j < m := by
      by_contra hmj
      exact h (hundisturbed.mono (Nat.not_lt.mp hmj) (Nat.le_succ k))
    calc s.number
        < (moment start steps (m' + 1)).enginesMade := by
          rw [hbuilt.made]
          exact Nat.lt_succ_self _
      _ ≤ (moment start steps m).enginesMade := enginesMade_mono (by omega)
      _ = t.number := hbuilds.number.symm
  runs := by
    intro j k f hjk h hf
    exact ⟨factoryRuns_eq hfactory hjk h hf,
      (Nat.le_add_right _ _).trans (count_made_add_le hjk h)⟩
  unregistered := fun j k => factoryRuns_of_unregistered hfactory
  settled := by
    intro j k s hjk h hs
    exact provision_of_undisturbed hjk (h.mono (Nat.le_succ j) (Nat.le_refl k))
      (engine_of_obtained hs)
  operated := by
    intro k op s hst h
    obtain ⟨hasks, hserved⟩ := asks_of_obtained hst h
    obtain ⟨q, hrun, -⟩ := Action.exists_run_engine_of_served? hserved
    obtain ⟨j, hop⟩ := Operation.run_of_obtained ((Step.asks_operate_iff op _).mp hasks) hrun
    exact ⟨q, j, hrun, hop⟩
  unserved := by
    intro k op hst h
    rw [obtained_of_some hst, Step.obtains] at h
    by_cases hasks : (Step.operate op).asks (moment start steps k) = true
    · rw [if_pos hasks] at h
      obtain ⟨f, q, hrun⟩ := Action.exists_run_engine_of_served?_none h
      obtain ⟨g, j, hop, -⟩ := Operation.run_of_unobtained ((Step.asks_operate_iff op _).mp hasks) hrun
      exact ⟨g, by rw [hop]⟩
    · rw [Step.asks_operate_iff] at hasks
      push Not at hasks
      obtain ⟨before, name, after, hsplit, hbefore, hname⟩ :=
        Operation.exists_first_unresolved op.dialects hasks
      exact ⟨_, by rw [Operation.run_of_first_unresolved op _ hsplit hbefore hname]⟩
  versioned := by
    intro k s hst h
    obtain ⟨hasks, hserved⟩ := asks_of_obtained hst h
    obtain ⟨q, hrun, -⟩ := Action.exists_run_engine_of_served? hserved
    refine ⟨q, hrun, ?_⟩
    rw [Step.run_engineVersion_of_asks hasks, Action.run_bind_of_ok hrun]
  unasked := by
    intro k hst h
    have hasks : Step.asks .version (moment start steps k) = false := by
      simpa [asked, hst] using h
    obtain ⟨hnone, hf⟩ : (moment start steps k).engine = none ∧
        (moment start steps k).factory = none := by
      simpa [Step.asks] using hasks
    refine ⟨?_, hnone, (factory_moment hfactory k).symm.trans hf⟩
    rw [Step.run_engineVersion_of_not_asks hasks, standard_moment]

/-- A factory that fails when it runs for the first time. -/
def lateFactory : Task Scripted.State (Engine Scripted.State Value) := do
  let calls ← Task.onState fun s => (s.calls, { s with calls := s.calls ++ [.version] })
  if calls.isEmpty then throw (.of .runtime "not yet")
  return Scripted.reportless "2.0"

/-- A run in which the engine is first refused, then made and used, and then forgotten. -/
def lateRun : List (Step Scripted.State Value) :=
  [.register lateFactory, .obtain, .operate (.parse "SELECT 1" "mysql"), .version, .resetEngine,
    .version, .obtain]

theorem lifecycle_lateRun :
    (Scripted.begun []).engine = none ∧
    (Scripted.begun []).factory = none ∧
    Lifecycle (Scripted.begun []) lateRun ∧
    obtained (Scripted.begun []) lateRun 1 = none ∧
    (obtained (Scripted.begun []) lateRun 3).map Served.number = some 0 ∧
    (obtained (Scripted.begun []) lateRun 6).map Served.number = some 1 := by
  exact ⟨rfl, rfl, lifecycle (Scripted.begun []) lateRun rfl rfl, rfl, by decide +kernel,
    by decide +kernel⟩

end Run
end SqlDialects
