import SqlDialects.Proofs.Failure.Wording
import SqlDialects.Proofs.Session.Runs
import SqlDialects.Session.Operations

/-!
# Failures of an engine on their way to the caller

What `Action.translating` makes of the part of an operation that asks the engine: values and
failures of other kinds pass, and what the engine reports becomes a failure of the registered
class.

**Results.**
* `Action.run_translating_of_report`: callers get what emerges from the report
  (`Failure.emerging`), and nothing but the log changes on the way.
-/

namespace SqlDialects
namespace Action

variable {σ α β : Type}

theorem run_translating_of_ok
    {a : Action σ α β} {p q : Session σ α} {b : β}
    (h : run a p = (.ok b, q))
    (operation : String) :
    run (translating operation a) p = (.ok b, q) := by
  simp [translating, run_bind, h]

/-- A failure that is no report of the engine passes. -/
theorem run_translating_of_other
    {a : Action σ α β} {p q : Session σ α} {e : Failure}
    (h : run a p = (.error e, q))
    (hother : e.cls ≠ .engine)
    (operation : String) :
    run (translating operation a) p = (.error e, q) := by
  simp [translating, run_bind, h, hother]

/-- Only what the part of the engine does counts. -/
theorem run_translating_congr
    {a b : Action σ α β} {p q : Session σ α}
    (h : run a p = run b q)
    (operation : String) :
    run (translating operation a) p = run (translating operation b) q := by
  simp only [translating, run_bind, run_outcome, h]

theorem run_translated
    (kind : FaultKind)
    (message : String)
    (p : Session σ α) :
    ∃ j, run (translated kind message) p =
      (translate p.hosts p.errors kind message, p.withJournal j) := by
  simp only [translated, run_bind, run_get]
  cases p.errors with
  | none =>
      exact ⟨_, rfl⟩
  | some r =>
      exact ⟨p.journal, rfl⟩

/-- What is raised in place of a report. -/
theorem run_throw_translated (e : Failure) (p : Session σ α) :
    ∃ j, run (do throw ((← translated (e.kind.getD .internal) e.argument).causedBy e) :
        Action σ α β) p =
      (.error (e.emerging p.hosts p.errors), p.withJournal j) := by
  obtain ⟨j, hj⟩ := run_translated (e.kind.getD .internal) e.argument p
  refine ⟨j, ?_⟩
  rw [run_bind, hj, Failure.emerging]
  cases translate p.hosts p.errors (e.kind.getD .internal) e.argument <;> rfl

/-- What the engine reports becomes a failure of the registered class, caused by the report, or else
the class raises something. -/
theorem run_translating_of_report
    {a : Action σ α β} {p q : Session σ α} {e : Failure}
    (h : run a p = (.error e, q))
    (hreport : e.cls = .engine)
    (operation : String) :
    ∃ j, run (translating operation a) p =
      (.error (e.emerging q.hosts q.errors), q.withJournal j) := by
  obtain ⟨j, hj⟩ := run_throw_translated (β := β) e (q.withJournal (q.journal.log
    ((Log.Record.plain operationsLogger Log.debug (operation ++ " failed (" ++
      (e.kind.getD .internal).label ++ "): " ++ e.argument)).withOperation operation)))
  refine ⟨j, ?_⟩
  rw [translating, run_bind, run_outcome, h]
  dsimp only
  rw [if_pos hreport, run_bind, run_log]
  exact hj

/-- A failure stays a failure, and the same one unless it is a report of the engine. -/
theorem run_translating_of_error
    {a : Action σ α β} {p q : Session σ α} {e : Failure}
    (h : run a p = (.error e, q))
    (operation : String) :
    ∃ f j, run (translating operation a) p = (.error f, q.withJournal j) ∧
      (e.cls ≠ .engine → f = e) := by
  by_cases hreport : e.cls = .engine
  · obtain ⟨j, hj⟩ := run_translating_of_report h hreport operation
    exact ⟨_, j, hj, fun hother => absurd hreport hother⟩
  · exact ⟨e, q.journal, run_translating_of_other h hreport operation, fun _ => rfl⟩

/-- Translation leaves the engine in use. -/
theorem run_translating_keeps_engine
    (a : Action σ α β)
    (p : Session σ α)
    (operation : String) :
    (run (translating operation a) p).2.engine = (run a p).2.engine := by
  rcases h : run a p with ⟨e | b, q⟩
  · by_cases hreport : e.cls = .engine
    · obtain ⟨j, hj⟩ := run_translating_of_report h hreport operation
      rw [hj]
      rfl
    · rw [run_translating_of_other h hreport operation]
  · rw [run_translating_of_ok h operation]

end Action
end SqlDialects
