import SqlDialects.Proofs.Session.Samples
import SqlDialects.Proofs.Session.Translation

/-!
# Registered classes over whole runs

Error classes are registered once.  What that means is said of every session to which registrations
and resets lead, in any order and with any classes, also with those that are refused.

**Input.**  A session that begins without error classes or with the bridge's own, and a list of
registrations and resets.  One that fails does not end the run.

**Invariant.**  Registered classes lie below their base (`Registration.perform_wellFormed`).

**Results.**
* `ErrorRegistry.offender?_eq_some_iff`: a registry is refused for the first of its classes that
  does not lie below its base, in the order in which a registry lists them.
* `Session.registersOnce_afterRegistrations`: registered classes stay until a reset, and whatever they
  make of an engine's report lies below their base.
-/

namespace SqlDialects
namespace ErrorRegistry

/-- All classes of a registry lie below its base. -/
structure WellFormed (r : ErrorRegistry) : Prop where
  parse : r.parse.isA r.base = true
  generate : r.generate.isA r.base = true
  unsupported : r.unsupported.isA r.base = true

/-- The first class of a registry that does not lie below its base. -/
inductive FirstOffender (r : ErrorRegistry) : ErrorClass → Prop
  | parse
      (h : r.parse.isA r.base = false) :
      FirstOffender r r.parse
  | generate
      (hparse : r.parse.isA r.base = true)
      (h : r.generate.isA r.base = false) :
      FirstOffender r r.generate
  | unsupported
      (hparse : r.parse.isA r.base = true)
      (hgenerate : r.generate.isA r.base = true)
      (h : r.unsupported.isA r.base = false) :
      FirstOffender r r.unsupported

theorem wellFormed_standard : standard.WellFormed :=
  ⟨by decide, by decide, by decide⟩

variable {r : ErrorRegistry} {c : ErrorClass}

theorem offender?_eq_none_iff :
    r.offender? = none ↔ r.WellFormed := by
  constructor
  · intro h
    simp only [offender?, List.find?_eq_none, List.mem_cons, List.not_mem_nil, or_false,
      Bool.not_eq_true', Bool.not_eq_false] at h
    exact ⟨h _ (.inl rfl), h _ (.inr (.inl rfl)), h _ (.inr (.inr rfl))⟩
  · intro h
    simp [offender?, h.parse, h.generate, h.unsupported]

theorem FirstOffender.offender?_eq
    (h : r.FirstOffender c) :
    r.offender? = some c := by
  cases h <;> simp [offender?, *]

/-- A registry that is not well formed has a class that it is refused for. -/
theorem exists_firstOffender
    (h : ¬ r.WellFormed) :
    ∃ c, r.FirstOffender c := by
  cases hparse : r.parse.isA r.base with
  | false =>
      exact ⟨_, .parse hparse⟩
  | true =>
      cases hgenerate : r.generate.isA r.base with
      | false =>
          exact ⟨_, .generate hparse hgenerate⟩
      | true =>
          cases hunsupported : r.unsupported.isA r.base with
          | false =>
              exact ⟨_, .unsupported hparse hgenerate hunsupported⟩
          | true =>
              exact absurd ⟨hparse, hgenerate, hunsupported⟩ h

theorem offender?_eq_some_iff :
    r.offender? = some c ↔ r.FirstOffender c := by
  refine ⟨fun h => ?_, FirstOffender.offender?_eq⟩
  have hill : ¬ r.WellFormed := by
    intro hwell
    rw [offender?_eq_none_iff.mpr hwell] at h
    cases h
  obtain ⟨c', hc'⟩ := exists_firstOffender hill
  rw [hc'.offender?_eq] at h
  cases h
  exact hc'

/-- Whatever category a report has, its class lies below the base. -/
theorem WellFormed.isA_classFor
    (h : r.WellFormed)
    (kind : FaultKind) :
    (r.classFor kind).isA r.base = true := by
  cases kind with
  | parse | tokenize | malformed =>
      exact h.parse
  | generate =>
      exact h.generate
  | unsupported =>
      exact h.unsupported
  | internal =>
      exact r.base.isA_self

end ErrorRegistry

/-! ## Single steps -/

variable {σ α : Type}

namespace Action

variable {p : Session σ α} {r : ErrorRegistry}

theorem run_registerErrors_of_same
    (h : p.errors = some r) :
    run (registerErrors r) p = (.ok (), p) := by
  have hset : { p with errors := some r } = p := by rw [← h]
  simp [registerErrors, run_bind, h, ErrorRegistry.install, hset]

theorem run_registerErrors_of_other
    {r' : ErrorRegistry}
    (h : p.errors = some r)
    (hother : r' ≠ r) :
    run (registerErrors r') p =
      (.error (.of .runtime "error classes are already registered"), p) := by
  simp [registerErrors, run_bind, h, ErrorRegistry.install, hother.symm]

theorem run_registerErrors_of_firstOffender
    {c : ErrorClass}
    (h : p.errors = none)
    (hfirst : r.FirstOffender c) :
    run (registerErrors r) p =
      (.error (.of .type (c.label ++ " must subclass " ++ r.base.label)), p) := by
  simp [registerErrors, run_bind, h, ErrorRegistry.install, hfirst.offender?_eq]

theorem run_registerErrors_of_wellFormed
    (h : p.errors = none)
    (hwell : r.WellFormed) :
    ∃ j, run (registerErrors r) p = (.ok (), { p with errors := some r }.withJournal j) := by
  refine ⟨p.journal.log (.plain "polyglot_bridge.errors" Log.debug
    ("Registered error classes rooted at " ++ r.base.label)), ?_⟩
  simp only [registerErrors, run_bind, run_get, h, ErrorRegistry.install,
    ErrorRegistry.offender?_eq_none_iff.mpr hwell, run_ofExcept, run_set, Option.isNone_none,
    if_true, run_log]

end Action

/-- What is done to the registered classes. -/
inductive Registration where
  | register (r : ErrorRegistry)
  | reset
deriving DecidableEq, Repr

namespace Registration

def action : Registration → Action σ α Unit
  | register r => Action.registerErrors r
  | reset => Action.resetErrors

/-- The session after a step, also after one that fails. -/
def perform (p : Session σ α) (st : Registration) : Session σ α :=
  (Action.run st.action p).2

end Registration

namespace Session

/-- The session after some steps. -/
def afterRegistrations (p : Session σ α) (steps : List Registration) : Session σ α :=
  steps.foldl Registration.perform p

/-- Classes that are registered lie below their base. -/
def WellFormed (p : Session σ α) : Prop :=
  ∀ r, p.errors = some r → r.WellFormed

end Session

namespace Registration

/-- A registration leaves the classes that it finds. -/
theorem errors_perform_register
    {p : Session σ α} {r : ErrorRegistry}
    (h : p.errors = some r)
    (r' : ErrorRegistry) :
    (perform p (.register r')).errors = some r := by
  by_cases hsame : r' = r
  · rw [perform, action, hsame, Action.run_registerErrors_of_same h, h]
  · rw [perform, action, Action.run_registerErrors_of_other h hsame, h]

/-- A registration of classes where there are none registers them only if it may. -/
theorem wellFormed_perform_register
    {p : Session σ α}
    (h : p.errors = none)
    (r : ErrorRegistry) :
    (perform p (.register r)).WellFormed := by
  by_cases hwell : r.WellFormed
  · obtain ⟨j, hj⟩ := Action.run_registerErrors_of_wellFormed h hwell
    rw [perform, action, hj]
    intro r' hr'
    cases hr'
    exact hwell
  · obtain ⟨c, hfirst⟩ := ErrorRegistry.exists_firstOffender hwell
    rw [perform, action, Action.run_registerErrors_of_firstOffender h hfirst]
    intro r' hr'
    rw [h] at hr'
    cases hr'

/-- Whatever a step does, classes that are registered after it lie below their base. -/
theorem perform_wellFormed
    {p : Session σ α}
    (h : p.WellFormed)
    (st : Registration) :
    (perform p st).WellFormed := by
  cases st with
  | reset =>
      intro r hr
      cases hr
  | register r =>
      cases herrors : p.errors with
      | none =>
          exact wellFormed_perform_register herrors r
      | some old =>
          intro r' hr'
          rw [errors_perform_register herrors] at hr'
          cases hr'
          exact h old herrors

end Registration

/-! ## Runs -/

namespace Session

theorem wellFormed_afterRegistrations
    {p : Session σ α}
    (h : p.WellFormed)
    (steps : List Registration) :
    (p.afterRegistrations steps).WellFormed := by
  induction steps generalizing p with
  | nil =>
      exact h
  | cons st steps ih =>
      exact ih (Registration.perform_wellFormed h st)

/-- Until a reset, a run keeps the classes that it finds. -/
theorem errors_afterRegistrations
    {p : Session σ α} {r : ErrorRegistry} {steps : List Registration}
    (h : p.errors = some r)
    (hsteps : Registration.reset ∉ steps) :
    (p.afterRegistrations steps).errors = some r := by
  induction steps generalizing p with
  | nil =>
      exact h
  | cons st steps ih =>
      rw [List.mem_cons, not_or] at hsteps
      cases st with
      | reset =>
          exact absurd rfl hsteps.1
      | register r' =>
          exact ih (Registration.errors_perform_register h r') hsteps.2

/-- What is true of registered classes, wherever a run has led. -/
structure RegistersOnce (q : Session σ α) : Prop where
  /-- Registered classes lie below their base. -/
  wellFormed : ∀ r, q.errors = some r → r.WellFormed
  /-- Nothing but a reset replaces or removes them. -/
  kept : ∀ r steps, q.errors = some r → Registration.reset ∉ steps →
    (q.afterRegistrations steps).errors = some r
  /-- To register them again has no effect. -/
  again : ∀ r, q.errors = some r → Action.run (Action.registerErrors r) q = (.ok (), q)
  /-- No other classes are registered in their place, well formed or not. -/
  other : ∀ r r', q.errors = some r → r' ≠ r →
    Action.run (Action.registerErrors r') q =
      (.error (.of .runtime "error classes are already registered"), q)
  /-- Where there are none, they are registered if they may be; only the log tells more. -/
  accepted : ∀ r, q.errors = none → r.WellFormed →
    ∃ j, Action.run (Action.registerErrors r) q =
      (.ok (), { q with errors := some r }.withJournal j)
  /-- And they are refused for the first class that does not lie below the base, if one does not. -/
  refused : ∀ r, q.errors = none → ¬ r.WellFormed →
    ∃ c, r.FirstOffender c ∧ Action.run (Action.registerErrors r) q =
      (.error (.of .type (c.label ++ " must subclass " ++ r.base.label)), q)
  /-- What an engine reports becomes a failure of their base, if the class for its category makes
  one of the report's text. -/
  translated : ∀ r kind message g, q.errors = some r →
    Failure.make q.hosts (r.classFor kind) message = .ok g →
    ∃ j, Action.run (Action.translated kind message) q = (.ok g, q.withJournal j) ∧
      g.isA r.base = true
  /-- A class is registered for what it lies below, not for what it makes: one that raises something
  when it is called with a text raises it here. -/
  raised : ∀ r kind message f, q.errors = some r →
    (r.classFor kind).Refuses q.hosts message f →
    ∃ j, Action.run (Action.translated kind message) q = (.error f, q.withJournal j)
  /-- Where there are none, it becomes one of the general class, with the same text. -/
  untranslated : ∀ kind message, q.errors = none →
    ∃ g j, Action.run (Action.translated kind message) q = (.ok g, q.withJournal j) ∧
      g.cls = .runtime ∧ g.text = message

theorem WellFormed.registersOnce
    {q : Session σ α}
    (h : q.WellFormed) :
    q.RegistersOnce where
  wellFormed := h
  kept _ _ hr hsteps := errors_afterRegistrations hr hsteps
  again _ hr := Action.run_registerErrors_of_same hr
  other _ _ hr hother := Action.run_registerErrors_of_other hr hother
  accepted _ hnone hwell := Action.run_registerErrors_of_wellFormed hnone hwell
  refused r hnone hill := by
    obtain ⟨c, hfirst⟩ := ErrorRegistry.exists_firstOffender hill
    exact ⟨c, hfirst, Action.run_registerErrors_of_firstOffender hnone hfirst⟩
  translated r kind message g hr hmade := by
    obtain ⟨j, hj⟩ := Action.run_translated kind message q
    rw [translate_eq_make, hr, ErrorRegistry.assigned, hmade] at hj
    have hbase : g.isA r.base = true := by
      rw [Failure.isA, (Failure.of_make hmade).1]
      exact (h r hr).isA_classFor kind
    exact ⟨j, hj, hbase⟩
  raised r kind message f hr hrefuses := by
    obtain ⟨j, hj⟩ := Action.run_translated kind message q
    rw [translate_eq_make, hr, ErrorRegistry.assigned, Failure.make_eq_error_iff.mpr hrefuses] at hj
    exact ⟨j, hj⟩
  untranslated kind message hnone := by
    obtain ⟨j, hj⟩ := Action.run_translated kind message q
    rw [hnone] at hj
    exact ⟨_, j, hj, rfl, rfl⟩

/-- The classes of a host. -/
def hosted : ErrorRegistry :=
  ⟨.own .host, .own .hostParse, .own .hostGenerate, .own .hostUnsupported⟩

/-- The same classes, two of which do not lie below the one that takes the place of the base. -/
def misplaced : ErrorRegistry :=
  ⟨.own .hostParse, .own .hostUnsupported, .own .hostGenerate, .own .host⟩

end Session
end SqlDialects
