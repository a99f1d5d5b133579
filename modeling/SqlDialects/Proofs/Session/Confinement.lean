import SqlDialects.Proofs.Session.Serving
import SqlDialects.Proofs.Session.Translation

/-!
# What an operation touches once it has its engine

An operation asks for the engine, and what it does then is confined to the world of the engine and
to the log.

**View.**  `Action.Confined` says two things of an action at once: it changes nothing but the world
and the log, and what it gives and leaves in the world depends neither on the log nor on the output.

**Results.**
* `Action.Confined.bind` and its like: confinement of an action follows from that of its parts.
* `Operation.confined_onEngine`: what an operation does with an engine is confined.
* `Operation.run_of_obtained`: an operation whose names resolve obtains the engine and does the rest
  with it.
* `Operation.run_beside`: neither the log nor the output plays a part in what an operation gives.
* `Operation.exists_report_of_validate`: what checking gives is the text of a report of the engine.
* `Operation.run_of_unobtained_eq` and `Operation.run_of_unobtained`: without an engine the operation
  fails where obtaining it has failed.
-/

namespace SqlDialects

namespace Session

variable {σ α : Type}

/-- The session with another world and another log. -/
def reworked (p : Session σ α) (world : σ) (j : Log.Journal) : Session σ α :=
  { p with world := world, journal := j }

end Session

namespace Action

variable {σ α β γ : Type}

/-- The action changes nothing but the world and the log, and neither the log nor the output plays a
part in it. -/
def Confined (a : Action σ α β) : Prop :=
  ∀ p : Session σ α, ∃ r w, ∀ o j, ∃ j', run a (p.beside o j) = (r, (p.beside o j).reworked w j')

theorem Confined.run_eq
    {a : Action σ α β}
    (h : Confined a)
    (p : Session σ α) :
    ∃ w j, (run a p).2 = p.reworked w j := by
  obtain ⟨r, w, h⟩ := h p
  obtain ⟨j, hj⟩ := h p.output p.journal
  exact ⟨w, j, congrArg Prod.snd hj⟩

theorem Confined.run_beside
    {a : Action σ α β}
    (h : Confined a)
    (p : Session σ α)
    (o : Output)
    (j : Log.Journal) :
    ∃ j', run a (p.beside o j) = ((run a p).1, (run a p).2.beside o j') := by
  obtain ⟨r, w, h⟩ := h p
  obtain ⟨j', hj'⟩ := h o j
  obtain ⟨j₀, hj₀⟩ := h p.output p.journal
  have hp : run a p = (r, p.reworked w j₀) := hj₀
  exact ⟨j', by rw [hj', hp]; rfl⟩

/-! ## Parts and how they are put together -/

theorem confined_pure (b : β) :
    Confined (pure b : Action σ α β) :=
  fun p => ⟨.ok b, p.world, fun _ j => ⟨j, rfl⟩⟩

theorem confined_throw (f : Failure) :
    Confined (throw f : Action σ α β) :=
  fun p => ⟨.error f, p.world, fun _ j => ⟨j, rfl⟩⟩

theorem confined_ofExcept (e : Except Failure β) :
    Confined (ofExcept e : Action σ α β) :=
  fun p => ⟨e, p.world, fun _ j => ⟨j, rfl⟩⟩

theorem confined_log (r : Log.Record) :
    Confined (log r : Action σ α Unit) :=
  fun p => ⟨.ok (), p.world, fun _ j => ⟨j.log r, rfl⟩⟩

theorem confined_engineTask (t : Task σ β) :
    Confined (engineTask t : Action σ α β) :=
  fun p => ⟨(Task.run t p.scene).1, (Task.run t p.scene).2.state,
    fun _ j => ⟨j.logAll (Task.run t p.scene).2.records, rfl⟩⟩

theorem Confined.outcome
    {a : Action σ α β}
    (h : Confined a) :
    Confined (outcome a) := by
  intro p
  obtain ⟨r, w, h⟩ := h p
  refine ⟨.ok r, w, fun o j => ?_⟩
  obtain ⟨j', hj'⟩ := h o j
  exact ⟨j', by rw [run_outcome, hj']⟩

theorem Confined.bind
    {a : Action σ α β} {f : β → Action σ α γ}
    (ha : Confined a)
    (hf : ∀ b, Confined (f b)) :
    Confined (a >>= f) := by
  intro p
  obtain ⟨r, w, ha⟩ := ha p
  cases r with
  | error e =>
      refine ⟨.error e, w, fun o j => ?_⟩
      obtain ⟨j', hj'⟩ := ha o j
      exact ⟨j', run_bind_of_error hj' f⟩
  | ok b =>
      obtain ⟨r', w', hb⟩ := hf b (p.reworked w p.journal)
      refine ⟨r', w', fun o j => ?_⟩
      obtain ⟨j', hj'⟩ := ha o j
      obtain ⟨j'', hj''⟩ := hb o j'
      exact ⟨j'', (run_bind_of_ok hj' f).trans hj''⟩

theorem Confined.map
    {a : Action σ α β}
    (h : Confined a)
    (f : β → γ) :
    Confined (f <$> a) := by
  rw [map_eq_pure_bind]
  exact h.bind fun b => confined_pure (f b)

theorem confined_resolve (name : String) :
    Confined (resolve name : Action σ α Dialect) :=
  fun p => ⟨_, p.world, fun o j => ⟨j, run_resolve name (p.beside o j)⟩⟩

/-! ## Failures on their way to the caller -/

theorem confined_translated (kind : FaultKind) (message : String) :
    Confined (translated kind message : Action σ α Failure) :=
  fun p => ⟨translate p.hosts p.errors kind message, p.world,
    fun o j => run_translated kind message (p.beside o j)⟩

theorem confined_failMalformed (what : String) (cause : Failure) :
    Confined (failMalformed what cause : Action σ α β) :=
  fun p => ⟨.error ((boundaryFailure p.errors (what ++ cause.text)).causedBy cause), p.world,
    fun _ j => ⟨j, rfl⟩⟩

theorem Confined.translating
    {a : Action σ α β}
    (h : Confined a)
    (operation : String) :
    Confined (translating operation a) := by
  refine h.outcome.bind fun r => ?_
  cases r with
  | ok b =>
      exact confined_pure b
  | error e =>
      dsimp only
      split
      · exact (confined_log _).bind fun _ => (confined_translated _ _).bind fun _ => confined_throw _
      · exact confined_throw e

theorem Confined.writing
    {a : Action σ α β}
    (h : Confined a) :
    Confined (writing a) := by
  refine h.outcome.bind fun r => ?_
  cases r with
  | ok b =>
      exact confined_pure b
  | error e =>
      dsimp only
      split
      · exact confined_failMalformed _ e
      · exact confined_throw e

/-! ## The work of an engine -/

section Engines

variable (e : Engine σ α)

theorem confined_dumpAll (trees : List α) :
    Confined (dumpAll e trees) := by
  induction trees with
  | nil =>
      exact confined_pure []
  | cons t ts ih =>
      exact (confined_engineTask (e.dump t)).bind fun _ => ih.bind fun _ => confined_pure _

theorem confined_toPayload (tree : α) :
    Confined (toPayload e tree) :=
  ((confined_engineTask (e.dump tree)).bind fun _ => confined_ofExcept _).writing

theorem confined_toPayloadMany (trees : List α) :
    Confined (toPayloadMany e trees) :=
  ((confined_dumpAll e trees).bind fun _ => confined_ofExcept _).writing

theorem confined_fromPayload (payload : String) :
    Confined (fromPayload e payload) := by
  unfold fromPayload
  cases Json.read payload with
  | error fault =>
      exact confined_failMalformed _ _
  | ok data =>
      refine (confined_engineTask (e.load data)).outcome.bind fun r => ?_
      cases r with
      | ok tree =>
          exact confined_pure tree
      | error f =>
          dsimp only
          split
          · exact (confined_log _).bind fun _ => confined_failMalformed _ f
          · exact confined_throw f

theorem confined_generateAll (d : Dialect) (trees : List α) :
    Confined (generateAll e d trees) := by
  induction trees with
  | nil =>
      exact confined_pure []
  | cons t ts ih =>
      exact (confined_engineTask (e.generate t d true)).bind fun _ =>
        ih.bind fun _ => confined_pure _

end Engines
end Action

namespace Operation

variable {σ α : Type}

/-- What an operation does with an engine that it has been given. -/
def onEngine (e : Engine σ α) : Operation → Action σ α Answer
  | .transpile sql source target => do
      let source ← Action.resolve source
      let target ← Action.resolve target
      .texts <$> Action.translating "transpile" (Action.engineTask (e.transpile sql source target))
  | .parse sql dialect => do
      let d ← Action.resolve dialect
      let trees ← Action.translating "parse" (Action.engineTask (e.parse sql d))
      .text <$> Action.toPayloadMany e trees
  | .parseOne sql dialect => do
      let d ← Action.resolve dialect
      let tree ← Action.translating "parse_one" (Action.engineTask (e.parseOne sql d))
      .text <$> Action.toPayload e tree
  | .generate payload dialect => do
      let d ← Action.resolve dialect
      let tree ← Action.fromPayload e payload
      .text <$> Action.translating "generate" (Action.engineTask (e.generate tree d false))
  | .format sql dialect => do
      let d ← Action.resolve dialect
      let texts ← Action.translating "format" do
        let trees ← Action.engineTask (e.parse sql d)
        Action.generateAll e d trees
      return .text (Action.statementSeparator.intercalate texts)
  | .validate sql dialect => do
      let d ← Action.resolve dialect
      let report ← Action.translating "validate" (Action.engineTask (e.validate sql d))
      return .text report.render

/-- What an operation does with the failure to obtain an engine. -/
def unserved (f : Failure) : Operation → Action σ α Answer
  | .transpile _ _ _ => .texts <$> Action.translating "transpile" (throw f)
  | .validate _ _ => do
      let report : Report ← Action.translating "validate" (throw f)
      return .text report.render
  | _ => throw f

open SqlDialects.Action in
/-- What an operation does with an engine is confined. -/
theorem confined_onEngine (e : Engine σ α) (op : Operation) :
    (op.onEngine e).Confined := by
  cases op with
  | transpile sql source target =>
      exact (confined_resolve source).bind fun d => (confined_resolve target).bind fun d' =>
        ((confined_engineTask (e.transpile sql d d')).translating "transpile").map Answer.texts
  | parse sql dialect =>
      exact (confined_resolve dialect).bind fun d =>
        ((confined_engineTask (e.parse sql d)).translating "parse").bind fun trees =>
          (confined_toPayloadMany e trees).map Answer.text
  | parseOne sql dialect =>
      exact (confined_resolve dialect).bind fun d =>
        ((confined_engineTask (e.parseOne sql d)).translating "parse_one").bind fun tree =>
          (confined_toPayload e tree).map Answer.text
  | generate payload dialect =>
      exact (confined_resolve dialect).bind fun d =>
        (confined_fromPayload e payload).bind fun tree =>
          ((confined_engineTask (e.generate tree d false)).translating "generate").map Answer.text
  | format sql dialect =>
      exact (confined_resolve dialect).bind fun d =>
        (((confined_engineTask (e.parse sql d)).bind (confined_generateAll e d)).translating
          "format").bind fun texts => confined_pure _
  | validate sql dialect =>
      exact (confined_resolve dialect).bind fun d =>
        ((confined_engineTask (e.validate sql d)).translating "validate").bind fun report =>
          confined_pure _

section Resolved

variable {op : Operation} {p q : Session σ α}

/-- An operation whose names resolve obtains the engine and does the rest with it. -/
theorem run_of_obtained
    {e : Engine σ α}
    (hnames : ∀ name ∈ op.dialects, Dialect.resolve? name ≠ none)
    (hserves : Action.run Action.engine p = (.ok e, q)) :
    ∃ j, Action.run op.action p = Action.run (op.onEngine e) (q.withJournal j) := by
  cases op with
  | transpile sql source target =>
      obtain ⟨d, hd⟩ := Option.ne_none_iff_exists'.mp (hnames source (by simp [dialects]))
      obtain ⟨d', hd'⟩ := Option.ne_none_iff_exists'.mp (hnames target (by simp [dialects]))
      obtain ⟨a, p', j, hrun, ha⟩ := Action.run_transpile_of_serves sql hd hd' hserves
      refine ⟨j, ?_⟩
      rw [action, onEngine, Action.run_map, hrun, Action.run_resolve_bind_of_some hd,
        Action.run_resolve_bind_of_some hd', Action.run_map, Action.run_translating_congr ha]
  | parse sql dialect | parseOne sql dialect | generate sql dialect | format sql dialect =>
      obtain ⟨d, hd⟩ := Option.ne_none_iff_exists'.mp (hnames dialect (by simp [dialects]))
      refine ⟨q.journal, ?_⟩
      simp only [action, onEngine, Action.run_map, Action.parse, Action.parseOne, Action.generate,
        Action.format]
      rw [Action.run_resolve_engine_bind hd hserves, Action.run_resolve_bind_of_some hd,
        ← Action.run_map, map_bind]
      rfl
  | validate sql dialect =>
      obtain ⟨d, hd⟩ := Option.ne_none_iff_exists'.mp (hnames dialect (by simp [dialects]))
      have htask := Action.run_bind_of_ok hserves fun e => Action.engineTask (e.validate sql d)
      refine ⟨q.journal, ?_⟩
      rw [action, onEngine, Action.run_map, Action.validate, Action.run_resolve_bind_of_some hd,
        Action.run_resolve_bind_of_some hd, ← Action.run_map, map_bind, Action.run_bind,
        Action.run_bind, Action.run_translating_congr htask]
      rfl

/-- Once the engine can be obtained neither the log nor the output plays a part in an operation. -/
theorem run_beside
    {e : Engine σ α}
    (hserves : Action.run Action.engine p = (.ok e, q))
    (op : Operation)
    (o : Output)
    (j : Log.Journal) :
    ∃ j', Action.run op.action (p.beside o j) =
      ((Action.run op.action p).1, (Action.run op.action p).2.beside o j') := by
  by_cases hnames : ∃ name ∈ op.dialects, Dialect.resolve? name = none
  · obtain ⟨before, name, after, hsplit, hbefore, hname⟩ :=
      exists_first_unresolved op.dialects hnames
    rw [run_of_first_unresolved op p hsplit hbefore hname,
      run_of_first_unresolved op (p.beside o j) hsplit hbefore hname]
    exact ⟨j, rfl⟩
  · have hresolved : ∀ name ∈ op.dialects, Dialect.resolve? name ≠ none :=
      fun name hmem hnone => hnames ⟨name, hmem, hnone⟩
    obtain ⟨j₁, hj₁⟩ := Action.run_engine_beside p o j
    rw [hserves] at hj₁
    obtain ⟨j₂, hj₂⟩ := run_of_obtained hresolved hj₁
    obtain ⟨j₃, hj₃⟩ := run_of_obtained hresolved hserves
    obtain ⟨j₄, hj₄⟩ := (confined_onEngine e op).run_beside (q.withJournal j₃) o j₂
    rw [hj₂, hj₃]
    exact ⟨j₄, hj₄⟩

/-- What checking gives is the text of a report of the engine. -/
theorem exists_report_of_validate
    {e : Engine σ α} {sql dialect s : String}
    (hserves : Action.run Action.engine p = (.ok e, q))
    (h : (Action.run (validate sql dialect).action p).1 = .ok (.text s)) :
    ∃ d scene r, (Task.run (e.validate sql d) scene).1 = .ok r ∧ s = r.render := by
  cases hd : Dialect.resolve? dialect with
  | none =>
      rw [action, Action.run_map, Action.validate, Action.run_resolve_bind_of_none hd] at h
      cases h
  | some d =>
      have hnames : ∀ name ∈ (validate sql dialect).dialects, Dialect.resolve? name ≠ none := by
        simp [dialects, hd]
      obtain ⟨j, hj⟩ := run_of_obtained hnames hserves
      rw [hj, onEngine, Action.run_resolve_bind_of_some hd] at h
      rcases hrun : Action.run (Action.engineTask (e.validate sql d)) (q.withJournal j) with
        ⟨f | r, q'⟩
      · obtain ⟨g, j', hg, -⟩ := Action.run_translating_of_error hrun "validate"
        rw [Action.run_bind_of_error hg] at h
        cases h
      · rw [Action.run_bind_of_ok (Action.run_translating_of_ok hrun "validate")] at h
        cases h
        exact ⟨d, q.scene, r, congrArg Prod.fst hrun, rfl⟩

/-- An operation whose names resolve and that does not obtain the engine goes on with the failure. -/
theorem run_of_unobtained_eq
    {f : Failure}
    (hnames : ∀ name ∈ op.dialects, Dialect.resolve? name ≠ none)
    (hfails : Action.run Action.engine p = (.error f, q)) :
    ∃ j, Action.run op.action p = Action.run (op.unserved f) (q.withJournal j) := by
  cases op with
  | transpile sql source target =>
      obtain ⟨d, hd⟩ := Option.ne_none_iff_exists'.mp (hnames source (by simp [dialects]))
      obtain ⟨d', hd'⟩ := Option.ne_none_iff_exists'.mp (hnames target (by simp [dialects]))
      obtain ⟨j₀, hrun⟩ := Action.run_transpile_of_resolved sql hd hd' p
      obtain ⟨j, hj⟩ := Action.run_engine_withJournal p j₀
      rw [hfails] at hj
      have hthrow : Action.run (Action.engine >>= fun e => Action.engineTask (e.transpile sql d d'))
          (p.withJournal j₀) = Action.run (throw f) (q.withJournal j) :=
        Action.run_bind_of_error hj _
      refine ⟨j, ?_⟩
      rw [action, unserved, Action.run_map, Action.run_map, hrun,
        Action.run_translating_congr hthrow]
  | validate sql dialect =>
      obtain ⟨d, hd⟩ := Option.ne_none_iff_exists'.mp (hnames dialect (by simp [dialects]))
      have hthrow : Action.run (Action.engine >>= fun e => Action.engineTask (e.validate sql d)) p =
          Action.run (throw f) (q.withJournal q.journal) :=
        Action.run_bind_of_error hfails _
      refine ⟨q.journal, ?_⟩
      rw [action, unserved, Action.run_map, Action.validate, Action.run_resolve_bind_of_some hd,
        Action.run_bind, Action.run_bind, Action.run_translating_congr hthrow]
      rcases Action.run (Action.translating "validate" (throw f)) (q.withJournal q.journal) with
        ⟨_ | _, _⟩ <;> rfl
  | parse sql dialect | parseOne sql dialect | generate sql dialect | format sql dialect =>
      obtain ⟨d, hd⟩ := Option.ne_none_iff_exists'.mp (hnames dialect (by simp [dialects]))
      refine ⟨q.journal, ?_⟩
      simp only [action, unserved, Action.run_map, Action.parse, Action.parseOne, Action.generate,
        Action.format]
      rw [Action.run_resolve_bind_of_some hd, Action.run_bind_of_error hfails]
      rfl

/-- Without an engine the operation fails, with what has gone wrong unless that is an engine's
report. -/
theorem run_of_unobtained
    {f : Failure}
    (hnames : ∀ name ∈ op.dialects, Dialect.resolve? name ≠ none)
    (hfails : Action.run Action.engine p = (.error f, q)) :
    ∃ g j, Action.run op.action p = (.error g, q.withJournal j) ∧ (f.cls ≠ .engine → g = f) := by
  obtain ⟨j, hj⟩ := run_of_unobtained_eq hnames hfails
  rw [hj]
  cases op with
  | transpile sql source target =>
      obtain ⟨g, j', hg, hsame⟩ := Action.run_translating_of_error (β := List String)
        (Action.run_throw f (q.withJournal j)) "transpile"
      exact ⟨g, j', by rw [unserved, Action.run_map, hg]; rfl, hsame⟩
  | validate sql dialect =>
      obtain ⟨g, j', hg, hsame⟩ := Action.run_translating_of_error (β := Report)
        (Action.run_throw f (q.withJournal j)) "validate"
      exact ⟨g, j', by rw [unserved, Action.run_bind_of_error hg]; rfl, hsame⟩
  | parse sql dialect | parseOne sql dialect | generate sql dialect | format sql dialect =>
      exact ⟨f, j, rfl, fun _ => rfl⟩

end Resolved

end Operation
end SqlDialects
