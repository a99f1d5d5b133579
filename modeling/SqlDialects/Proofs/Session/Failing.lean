import SqlDialects.Proofs.Session.Confinement
import SqlDialects.Proofs.Session.Payload

/-!
# The classes in which operations fail

Callers that catch the bridge's own classes catch every failure of an operation, as long as the
engine fails only as engines may.

**View.**  `Action.FailsOnly` says which failures an action may end in, in sessions with some error
classes that the action keeps.  `Engine.Disciplined` says how an engine may fail.

**Results.**
* `Action.FailsOnly.bind` and its like: the failures of an action are those of its parts.
* `Action.FailsOnly.translating`, `Action.FailsOnly.writing` and `Action.failsOnly_fromPayload`: the
  three places where failures of an engine become failures of the bridge.
* `Operation.isA_bridge_of_run`: with the standard error classes an operation with a disciplined
  engine fails only in the bridge's classes.
-/

namespace SqlDialects

namespace Task

variable {σ β : Type}

/-- Every failure of the task has the property. -/
def FailsOnly (P : Failure → Prop) (t : Task σ β) : Prop :=
  ∀ s f, (run t s).1 = .error f → P f

end Task

namespace Action

variable {σ α β γ : Type} {errors : Option ErrorRegistry} {P : Failure → Prop}

/-- In sessions with these error classes, which the action keeps, every failure of the action has the
property. -/
def FailsOnly (errors : Option ErrorRegistry) (P : Failure → Prop) (a : Action σ α β) : Prop :=
  ∀ p, p.errors = errors →
    (run a p).2.errors = errors ∧ ∀ f, (run a p).1 = .error f → P f

/-! ## Parts and how they are put together -/

theorem failsOnly_pure (b : β) :
    FailsOnly errors P (pure b : Action σ α β) :=
  fun _ hp => ⟨hp, fun _ h => by cases h⟩

theorem failsOnly_ofExcept
    {e : Except Failure β}
    (h : ∀ f, e = .error f → P f) :
    FailsOnly errors P (ofExcept e : Action σ α β) :=
  fun _ hp => ⟨hp, h⟩

theorem failsOnly_engineTask
    {t : Task σ β}
    (h : t.FailsOnly P) :
    FailsOnly errors P (engineTask t : Action σ α β) :=
  fun p hp => ⟨hp, h p.scene⟩

theorem failsOnly_resolve
    (h : ∀ name, P (.unknownDialect name))
    (name : String) :
    FailsOnly errors P (resolve name : Action σ α Dialect) := by
  intro p hp
  rw [run_resolve]
  refine ⟨hp, fun f hf => ?_⟩
  cases hd : Dialect.resolve? name with
  | none =>
      rw [hd] at hf
      cases hf
      exact h name
  | some d =>
      rw [hd] at hf
      cases hf

theorem FailsOnly.bind
    {a : Action σ α β} {f : β → Action σ α γ}
    (ha : FailsOnly errors P a)
    (hf : ∀ b, FailsOnly errors P (f b)) :
    FailsOnly errors P (a >>= f) := by
  intro p hp
  obtain ⟨herrors, hfails⟩ := ha p hp
  rw [run_bind]
  rcases hrun : run a p with ⟨e | b, q⟩
  · rw [hrun] at herrors hfails
    exact ⟨herrors, fun g hg => hfails g (by cases hg; rfl)⟩
  · rw [hrun] at herrors
    exact hf b q herrors

theorem FailsOnly.map
    {a : Action σ α β}
    (h : FailsOnly errors P a)
    (f : β → γ) :
    FailsOnly errors P (f <$> a) := by
  rw [map_eq_pure_bind]
  exact h.bind fun b => failsOnly_pure (f b)

/-! ## Where failures of an engine become failures of the bridge -/

/-- What an engine reports is translated to a class of the bridge. -/
theorem FailsOnly.translating
    {a : Action σ α β}
    (h : FailsOnly (some .standard) (fun f => f.cls = .engine) a)
    (operation : String) :
    FailsOnly (some .standard) (fun f => f.isA .bridge = true) (translating operation a) := by
  intro p hp
  obtain ⟨herrors, hfails⟩ := h p hp
  rcases hrun : run a p with ⟨e | b, q⟩
  · rw [hrun] at herrors hfails
    obtain ⟨j, hj⟩ := run_translating_of_report hrun (hfails e rfl) operation
    rw [hj]
    refine ⟨herrors, fun f hf => ?_⟩
    cases hf
    rw [show q.errors = some .standard from herrors, Failure.emerging_standard]
    cases e.kind.getD .internal <;> rfl
  · rw [hrun] at herrors
    rw [run_translating_of_ok hrun]
    exact ⟨herrors, fun f hf => by cases hf⟩

/-- Malformed interchange text is a class of the bridge. -/
theorem failsOnly_failMalformed
    (what : String)
    (cause : Failure) :
    FailsOnly (some .standard) (fun f => f.isA .bridge = true)
      (failMalformed what cause : Action σ α β) := by
  intro p hp
  refine ⟨hp, fun f hf => ?_⟩
  have hrun : (run (failMalformed what cause : Action σ α β) p).1 =
      .error ((boundaryFailure p.errors (what ++ cause.text)).causedBy cause) := rfl
  rw [hrun, hp] at hf
  cases hf
  rfl

/-- What has no JSON form is malformed interchange text. -/
theorem FailsOnly.writing
    {a : Action σ α β}
    (h : FailsOnly (some .standard) (fun f => f.isAnyOf conversionClasses = true) a) :
    FailsOnly (some .standard) (fun f => f.isA .bridge = true) (writing a) := by
  intro p hp
  obtain ⟨herrors, hfails⟩ := h p hp
  rcases hrun : run a p with ⟨e | b, q⟩
  · rw [hrun] at herrors hfails
    have hwriting : run (Action.writing a) p = run (failMalformed serializationError e) q := by
      simp only [Action.writing, run_bind, run_outcome, hrun, hfails e rfl, if_true]
    rw [hwriting]
    exact failsOnly_failMalformed _ e q herrors
  · rw [hrun] at herrors
    rw [run_writing_of_ok hrun]
    exact ⟨herrors, fun f hf => by cases hf⟩

theorem failsOnly_encode (v : Value) :
    FailsOnly errors (fun f => f.isAnyOf conversionClasses = true)
      (encode v : Action σ α String) := by
  refine failsOnly_ofExcept fun f hf => ?_
  cases hv : Value.encode Json.plain v with
  | ok text =>
      rw [hv] at hf
      cases hf
  | error fault =>
      rw [hv] at hf
      cases hf
      cases fault <;> rfl

/-- Text that is not JSON and data that the engine rejects are malformed interchange text. -/
theorem failsOnly_fromPayload
    {e : Engine σ α}
    (hload : ∀ data, (e.load data).FailsOnly fun f => f.isA .payload = true)
    (payload : String) :
    FailsOnly (some .standard) (fun f => f.isA .bridge = true) (fromPayload e payload) := by
  intro p hp
  cases hread : Json.read payload with
  | error fault =>
      have hfrom : fromPayload e payload =
          failMalformed deserializationError (fault.failure payload.toList) := by
        rw [fromPayload, hread]
      rw [hfrom]
      exact failsOnly_failMalformed _ _ p hp
  | ok data =>
      obtain ⟨herrors, hfails⟩ := failsOnly_engineTask (hload data) p hp
      rcases hrun : run (engineTask (e.load data)) p with ⟨g | tree, q⟩
      · rw [hrun] at herrors hfails
        obtain ⟨j, hj⟩ := run_fromPayload_of_rejected hread hrun (hfails g rfl)
        rw [hj]
        refine ⟨herrors, fun f hf => ?_⟩
        cases hf
        rw [show q.errors = some .standard from herrors]
        rfl
      · rw [hrun] at herrors
        rw [run_fromPayload_of_load hread hrun]
        exact ⟨herrors, fun f hf => by cases hf⟩

end Action

/-! ## Engines -/

/-- The engine fails only as engines may: what is wrong with SQL is reported as an engine's failure,
what is wrong with data as a failure of payloads, and what has no JSON form by its conversion. -/
structure Engine.Disciplined {σ α : Type} (e : Engine σ α) : Prop where
  transpile : ∀ sql source target, (e.transpile sql source target).FailsOnly (·.cls = .engine)
  parse : ∀ sql d, (e.parse sql d).FailsOnly (·.cls = .engine)
  parseOne : ∀ sql d, (e.parseOne sql d).FailsOnly (·.cls = .engine)
  generate : ∀ tree d pretty, (e.generate tree d pretty).FailsOnly (·.cls = .engine)
  validate : ∀ sql d, (e.validate sql d).FailsOnly (·.cls = .engine)
  dump : ∀ tree, (e.dump tree).FailsOnly fun f => f.isAnyOf Action.conversionClasses = true
  load : ∀ data, (e.load data).FailsOnly fun f => f.isA .payload = true

namespace Action

variable {σ α : Type} {errors : Option ErrorRegistry} {e : Engine σ α}

theorem failsOnly_dumpAll
    (he : e.Disciplined)
    (trees : List α) :
    FailsOnly errors (fun f => f.isAnyOf conversionClasses = true) (dumpAll e trees) := by
  induction trees with
  | nil =>
      exact failsOnly_pure []
  | cons t ts ih =>
      exact (failsOnly_engineTask (he.dump t)).bind fun _ => ih.bind fun _ => failsOnly_pure _

theorem failsOnly_generateAll
    (he : e.Disciplined)
    (d : Dialect)
    (trees : List α) :
    FailsOnly errors (fun f => f.cls = .engine) (generateAll e d trees) := by
  induction trees with
  | nil =>
      exact failsOnly_pure []
  | cons t ts ih =>
      exact (failsOnly_engineTask (he.generate t d true)).bind fun _ =>
        ih.bind fun _ => failsOnly_pure _

end Action

namespace Operation

variable {σ α : Type} {e : Engine σ α}

open SqlDialects.Action in
/-- What an operation does with a disciplined engine fails only in the bridge's classes. -/
theorem failsOnly_onEngine
    (he : e.Disciplined)
    (op : Operation) :
    FailsOnly (some .standard) (fun f => f.isA .bridge = true) (op.onEngine e) := by
  have hresolve : ∀ name, FailsOnly (some .standard) (fun f => f.isA .bridge = true)
      (resolve name : Action σ α Dialect) := failsOnly_resolve fun _ => rfl
  cases op with
  | transpile sql source target =>
      exact (hresolve source).bind fun d => (hresolve target).bind fun d' =>
        ((failsOnly_engineTask (he.transpile sql d d')).translating "transpile").map Answer.texts
  | parse sql dialect =>
      exact (hresolve dialect).bind fun d =>
        ((failsOnly_engineTask (he.parse sql d)).translating "parse").bind fun trees =>
          ((failsOnly_dumpAll he trees).bind fun vs => failsOnly_encode (.list vs)).writing.map
            Answer.text
  | parseOne sql dialect =>
      exact (hresolve dialect).bind fun d =>
        ((failsOnly_engineTask (he.parseOne sql d)).translating "parse_one").bind fun tree =>
          ((failsOnly_engineTask (he.dump tree)).bind failsOnly_encode).writing.map Answer.text
  | generate payload dialect =>
      exact (hresolve dialect).bind fun d =>
        (failsOnly_fromPayload he.load payload).bind fun tree =>
          ((failsOnly_engineTask (he.generate tree d false)).translating "generate").map Answer.text
  | format sql dialect =>
      exact (hresolve dialect).bind fun d =>
        (((failsOnly_engineTask (he.parse sql d)).bind (failsOnly_generateAll he d)).translating
          "format").bind fun texts => failsOnly_pure _
  | validate sql dialect =>
      exact (hresolve dialect).bind fun d =>
        ((failsOnly_engineTask (he.validate sql d)).translating "validate").bind fun report =>
          failsOnly_pure _

/-- With the standard error classes and a disciplined engine an operation fails only in the bridge's
classes. -/
theorem isA_bridge_of_run
    {p q : Session σ α}
    (herrors : p.errors = some .standard)
    (hserves : Action.run Action.engine p = (.ok e, q))
    (he : e.Disciplined)
    (op : Operation)
    {f : Failure}
    (hf : (Action.run op.action p).1 = .error f) :
    f.isA .bridge = true := by
  by_cases hnames : ∃ name ∈ op.dialects, Dialect.resolve? name = none
  · obtain ⟨before, name, after, hsplit, hbefore, hname⟩ :=
      exists_first_unresolved op.dialects hnames
    rw [run_of_first_unresolved op p hsplit hbefore hname] at hf
    cases hf
    rfl
  · have hresolved : ∀ name ∈ op.dialects, Dialect.resolve? name ≠ none :=
      fun name hmem hnone => hnames ⟨name, hmem, hnone⟩
    obtain ⟨j, hj⟩ := run_of_obtained hresolved hserves
    have hkept := Action.errors_of_run_engine hserves
    rw [hj] at hf
    exact (failsOnly_onEngine he op (q.withJournal j) (hkept.trans herrors)).2 f hf

end Operation
end SqlDialects
