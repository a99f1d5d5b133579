import SqlDialects.Proofs.Session.Confinement

/-!
# What success says

An action that gives a value has gone through its parts, and each of them has given a value.

**Results.**
* `Action.of_run_bind`: a sequence that succeeds.
* `Action.of_run_parseOne`: a payload is what the engine has dumped, written.
* `Action.of_run_validate`: what checking gives is the text of the engine's report.
* `Operation.run_of_run_beside`: an operation that succeeds does so whatever has been logged and
  written.
-/

namespace SqlDialects

variable {σ α β γ : Type}

namespace Action

theorem of_run_bind
    {a : Action σ α β} {f : β → Action σ α γ} {p r : Session σ α} {c : γ}
    (h : run (a >>= f) p = (.ok c, r)) :
    ∃ b q, run a p = (.ok b, q) ∧ run (f b) q = (.ok c, r) := by
  rw [run_bind] at h
  rcases ha : run a p with ⟨e | b, q⟩
  · rw [ha] at h
    cases h
  · rw [ha] at h
    exact ⟨b, q, rfl, h⟩

theorem of_run_resolve
    {name : String} {d : Dialect} {p q : Session σ α}
    (h : run (resolve name) p = (.ok d, q)) :
    Dialect.resolve? name = some d ∧ q = p := by
  rw [run_resolve] at h
  cases hd : Dialect.resolve? name with
  | none =>
      rw [hd] at h
      cases h
  | some d' =>
      rw [hd] at h
      cases h
      exact ⟨rfl, rfl⟩

theorem of_run_translating
    {operation : String} {a : Action σ α β} {p q : Session σ α} {b : β}
    (h : run (translating operation a) p = (.ok b, q)) :
    run a p = (.ok b, q) := by
  rcases ha : run a p with ⟨e | b', q'⟩
  · obtain ⟨f, j, hf, -⟩ := run_translating_of_error ha operation
    rw [hf] at h
    cases h
  · rw [run_translating_of_ok ha] at h
    exact h

theorem of_run_writing
    {a : Action σ α β} {p q : Session σ α} {b : β}
    (h : run (writing a) p = (.ok b, q)) :
    run a p = (.ok b, q) := by
  rw [writing, run_bind, run_outcome] at h
  rcases ha : run a p with ⟨e | b', q'⟩
  · rw [ha] at h
    dsimp only at h
    split at h <;> cases h
  · rw [ha] at h
    cases h
    rfl

/-- A payload is what the engine has dumped, written. -/
theorem of_run_parseOne
    {sql dialect payload : String} {p r : Session σ α}
    (h : run (parseOne sql dialect) p = (.ok payload, r)) :
    ∃ e q tree scene v, run engine p = (.ok e, q) ∧
      (Task.run (e.dump tree) scene).1 = .ok v ∧ Value.encode Json.plain v = .ok payload := by
  obtain ⟨d, q, hd, hserved⟩ := of_run_bind h
  obtain ⟨e, q₁, he, hparsed⟩ := of_run_bind hserved
  obtain ⟨tree, q₂, -, hpayload⟩ := of_run_bind hparsed
  obtain ⟨v, q₃, hdump, htext⟩ := of_run_bind (of_run_writing hpayload)
  rw [(of_run_resolve hd).2] at he
  refine ⟨e, q₁, tree, q₂.scene, v, he, congrArg Prod.fst hdump, ?_⟩
  rw [encode, run_ofExcept] at htext
  cases hencode : Value.encode Json.plain v with
  | error fault =>
      rw [hencode] at htext
      cases htext
  | ok text =>
      rw [hencode] at htext
      cases htext
      rfl

/-- What checking gives is the text of the engine's report. -/
theorem of_run_validate
    {sql dialect text : String} {p r : Session σ α}
    (h : run (validate sql dialect) p = (.ok text, r)) :
    ∃ d e q report, Dialect.resolve? dialect = some d ∧ run engine p = (.ok e, q) ∧
      (Task.run (e.validate sql d) q.scene).1 = .ok report ∧ text = report.render := by
  obtain ⟨d, q, hd, hchecked⟩ := of_run_bind h
  obtain ⟨report, q₁, hreport, htext⟩ := of_run_bind hchecked
  obtain ⟨e, q₂, he, hcheck⟩ := of_run_bind (of_run_translating hreport)
  obtain ⟨hd, hq⟩ := of_run_resolve hd
  rw [hq] at he
  exact ⟨d, e, q₂, report, hd, he, congrArg Prod.fst hcheck,
    (Except.ok.inj (Prod.mk.inj htext).1).symm⟩

end Action

/-- An operation that succeeds obtains its engine. -/
theorem Operation.exists_engine_of_ok
    {op : Operation} {p r : Session σ α} {x : Answer}
    (h : Action.run op.action p = (.ok x, r)) :
    ∃ e q, Action.run Action.engine p = (.ok e, q) := by
  by_cases hnames : ∃ name ∈ op.dialects, Dialect.resolve? name = none
  · obtain ⟨before, name, after, hsplit, hbefore, hname⟩ :=
      exists_first_unresolved op.dialects hnames
    rw [run_of_first_unresolved op p hsplit hbefore hname] at h
    cases h
  · have hresolved : ∀ name ∈ op.dialects, Dialect.resolve? name ≠ none :=
      fun name hmem hnone => hnames ⟨name, hmem, hnone⟩
    rcases hengine : Action.run Action.engine p with ⟨f | e, q⟩
    · obtain ⟨g, j, hg, -⟩ := run_of_unobtained hresolved hengine
      rw [hg] at h
      cases h
    · exact ⟨e, q, rfl⟩

/-- An operation that succeeds does so whatever has been logged and written, and leaves the same
session apart from that. -/
theorem Operation.run_of_run_beside
    {op : Operation} {p r : Session σ α} {x : Answer} {o : Output} {j : Log.Journal}
    (h : Action.run op.action (p.beside o j) = (.ok x, r)) :
    ∃ q j', Action.run op.action p = (.ok x, q) ∧ r = q.beside o j' := by
  obtain ⟨e, q, hserves⟩ := exists_engine_of_ok h
  obtain ⟨j₀, hj₀⟩ := run_beside hserves op o j
  obtain ⟨j₁, hj₁⟩ := run_beside hserves op p.output p.journal
  rw [Session.beside_beside, h] at hj₁
  have hrun : Action.run op.action p = (.ok x, r.beside p.output j₁) := hj₁
  rw [Session.beside_beside, h] at hj₀
  have houtput : r = r.beside o j₀ := (Prod.mk.inj hj₀).2
  exact ⟨r.beside p.output j₁, j₀, hrun, houtput⟩

end SqlDialects
