import SqlDialects.Proofs.Session.Reports

/-!
# Reports that reach callers as they are

Operations translate the reports of an engine where they ask it for SQL.  A report of anything else
that an engine or a factory does mostly goes through the operation untouched, and callers meet a
class that is meant for engines.

**Input.**  A session with any registered classes or none, and an operation in which a tree is not
dumped, data are not loaded (`Operation.ExchangeFails`), or no engine is made, with a report each
time.

**Results.**
* `Operation.run_of_exchangeFails`: a report of dumping or loading is what the operation fails with.
* `Operation.run_of_unmade`: so is the report of a factory, except in the operations that ask for
  their engine within what they translate (`Operation.asksWithin`).
* `Operation.run_of_reportedAside`: both in one, so this exception is the only one.
-/

namespace SqlDialects

namespace Action

variable {σ α β : Type}

/-- Writing is no place for reports: they pass. -/
theorem run_writing_of_report
    {a : Action σ α β} {p q : Session σ α} {f : Failure}
    (h : run a p = (.error f, q))
    (hreport : f.cls = .engine) :
    run (writing a) p = (.error f, q) := by
  have hother : f.isAnyOf conversionClasses = false := by
    rw [Failure.isAnyOf, hreport]
    decide
  simp [writing, run_bind, h, hother]

theorem run_toPayload_of_report
    {e : Engine σ α} {tree : α} {f : Failure} {q : Session σ α} {w w' : σ}
    {records : List Log.Record}
    (h : Task.run (e.dump tree) ⟨w, []⟩ = (.error f, ⟨w', records⟩))
    (hworld : q.world = w)
    (hreport : f.cls = .engine) :
    ∃ j, run (toPayload e tree) q = (.error f, q.reworked w' j) := by
  obtain ⟨j, hj⟩ := run_engineTask_of_world h hworld
  exact ⟨j, run_writing_of_report (run_bind_of_error hj _) hreport⟩

theorem run_toPayloadMany_of_report
    {e : Engine σ α} {trees : List α} {f : Failure} {q : Session σ α} {w w' : σ}
    (h : Task.SomeFails e.dump f trees w w')
    (hworld : q.world = w)
    (hreport : f.cls = .engine) :
    ∃ j, run (toPayloadMany e trees) q = (.error f, q.reworked w' j) := by
  obtain ⟨j, hj⟩ := run_all_of_someFails (dumpAll e) (fun _ _ => rfl) h q hworld
  exact ⟨j, run_writing_of_report (run_bind_of_error hj _) hreport⟩

/-- Loading is no place for reports either. -/
theorem run_fromPayload_of_report
    {e : Engine σ α} {payload : String} {data : Json} {f : Failure} {q : Session σ α} {w w' : σ}
    {records : List Log.Record}
    (hread : Json.read payload = .ok data)
    (h : Task.run (e.load data) ⟨w, []⟩ = (.error f, ⟨w', records⟩))
    (hworld : q.world = w)
    (hreport : f.cls = .engine) :
    ∃ j, run (fromPayload e payload) q = (.error f, q.reworked w' j) := by
  obtain ⟨j, hj⟩ := run_engineTask_of_world h hworld
  have hother : f.isA .payload = false := by
    rw [Failure.isA, hreport]
    decide
  exact ⟨j, run_fromPayload_of_other hread hj hother⟩

end Action

namespace Operation

variable {σ α : Type}

/--
A tree that an operation has parsed is not dumped, or the data of its payload are not loaded: that
call fails with `f` and leaves the world `w'`, and all calls before it have gone well, the first of
them in the world `w`.
-/
inductive ExchangeFails (e : Engine σ α) (f : Failure) (w w' : σ) : Operation → Prop
  | parse {sql dialect : String} {d : Dialect} {trees : List α} {v : σ}
      {records : List Log.Record}
      (hd : Dialect.resolve? dialect = some d)
      (hparse : Task.run (e.parse sql d) ⟨w, []⟩ = (.ok trees, ⟨v, records⟩))
      (h : Task.SomeFails e.dump f trees v w') :
      ExchangeFails e f w w' (.parse sql dialect)
  | parseOne {sql dialect : String} {d : Dialect} {tree : α} {v : σ}
      {records records' : List Log.Record}
      (hd : Dialect.resolve? dialect = some d)
      (hparse : Task.run (e.parseOne sql d) ⟨w, []⟩ = (.ok tree, ⟨v, records⟩))
      (h : Task.run (e.dump tree) ⟨v, []⟩ = (.error f, ⟨w', records'⟩)) :
      ExchangeFails e f w w' (.parseOne sql dialect)
  | generate {payload dialect : String} {d : Dialect} {data : Json} {records : List Log.Record}
      (hd : Dialect.resolve? dialect = some d)
      (hread : Json.read payload = .ok data)
      (h : Task.run (e.load data) ⟨w, []⟩ = (.error f, ⟨w', records⟩)) :
      ExchangeFails e f w w' (.generate payload dialect)

/-- The names of such an operation resolve. -/
theorem ExchangeFails.resolve?_ne_none
    {e : Engine σ α} {f : Failure} {w w' : σ} {op : Operation}
    (h : ExchangeFails e f w w' op) :
    ∀ name ∈ op.dialects, Dialect.resolve? name ≠ none := by
  cases h <;> simp [dialects, *]

theorem run_onEngine_of_exchangeFails
    {op : Operation} {q : Session σ α} {e : Engine σ α} {f : Failure} {w' : σ}
    (hfails : ExchangeFails e f q.world w' op)
    (hreport : f.cls = .engine) :
    ∃ j, Action.run (op.onEngine e) q = (.error f, q.reworked w' j) := by
  cases hfails with
  | @parse sql dialect d trees v records hd hparse h =>
      obtain ⟨j, hj⟩ := Action.run_engineTask_of_world hparse rfl
      obtain ⟨j', hj'⟩ :=
        Action.run_toPayloadMany_of_report h (q := q.reworked v j) rfl hreport
      refine ⟨j', ?_⟩
      rw [onEngine, Action.run_resolve_bind_of_some hd,
        Action.run_bind_of_ok (Action.run_translating_of_ok hj "parse"), Action.run_map, hj']
      rfl
  | @parseOne sql dialect d tree v records records' hd hparse h =>
      obtain ⟨j, hj⟩ := Action.run_engineTask_of_world hparse rfl
      obtain ⟨j', hj'⟩ := Action.run_toPayload_of_report h (q := q.reworked v j) rfl hreport
      refine ⟨j', ?_⟩
      rw [onEngine, Action.run_resolve_bind_of_some hd,
        Action.run_bind_of_ok (Action.run_translating_of_ok hj "parse_one"), Action.run_map, hj']
      rfl
  | generate hd hread h =>
      obtain ⟨j, hj⟩ := Action.run_fromPayload_of_report hread h (q := q) rfl hreport
      refine ⟨j, ?_⟩
      rw [onEngine, Action.run_resolve_bind_of_some hd, Action.run_bind_of_error hj]

/--
If dumping a parsed tree or loading the data of a payload ends with a report, the operation fails
with the report itself, whichever classes are registered.
-/
theorem run_of_exchangeFails
    (op : Operation)
    (p q : Session σ α)
    (e : Engine σ α)
    (f : Failure)
    (w' : σ)
    (hserves : Action.run Action.engine p = (.ok e, q))
    (hfails : ExchangeFails e f q.world w' op)
    (hreport : f.cls = .engine) :
    ∃ j, Action.run op.action p = (.error f, q.reworked w' j) := by
  obtain ⟨j, hj⟩ := run_of_obtained hfails.resolve?_ne_none hserves
  obtain ⟨j', hj'⟩ := run_onEngine_of_exchangeFails (q := q.withJournal j) hfails hreport
  exact ⟨j', hj.trans hj'⟩

/-! ## Factories -/

/-- Whether an operation asks for its engine within what it translates. -/
def asksWithin : Operation → Bool
  | .transpile _ _ _ => true
  | .validate _ _ => true
  | _ => false

/--
If no engine is made and this is reported, some operations translate the report, and the others fail
with the report itself.
-/
theorem run_of_unmade
    (op : Operation)
    (p q : Session σ α)
    (f : Failure)
    (kind : FaultKind)
    (hnames : ∀ name ∈ op.dialects, Dialect.resolve? name ≠ none)
    (hfails : Action.run Action.engine p = (.error f, q))
    (hreport : f.cls = .engine)
    (hkind : f.kind = some kind) :
    ∃ g j, Action.run op.action p = (.error g, q.withJournal j) ∧
      if op.asksWithin then f.Emerges p.hosts p.errors kind g else g = f := by
  rw [← Action.errors_of_run_engine hfails, ← Action.hosts_of_run_engine hfails]
  obtain ⟨j, hj⟩ := run_of_unobtained_eq hnames hfails
  rw [hj]
  cases op with
  | transpile sql source target =>
      obtain ⟨g, j', hg, hemerges⟩ := Action.run_translating_emerges (β := List String)
        (Action.run_throw f (q.withJournal j)) hreport hkind "transpile"
      exact ⟨g, j', by rw [unserved, Action.run_map, hg]; rfl, hemerges⟩
  | validate sql dialect =>
      obtain ⟨g, j', hg, hemerges⟩ := Action.run_translating_emerges (β := Report)
        (Action.run_throw f (q.withJournal j)) hreport hkind "validate"
      exact ⟨g, j', by rw [unserved, Action.run_bind_of_error hg]; rfl, hemerges⟩
  | parse sql dialect | parseOne sql dialect | generate sql dialect | format sql dialect =>
      exact ⟨f, j, rfl, rfl⟩

/-! ## Either way -/

/--
Apart from its calls for SQL an operation that begins in the session `p` meets the failure `f`, and
leaves the session `q`: no engine is made, or what is made does not dump or load.  The operation
translates only what it meets `within`.
-/
inductive ReportedAside (f : Failure) (p : Session σ α) :
    (q : Session σ α) → (within : Bool) → Operation → Prop
  | unmade {op : Operation} {q : Session σ α}
      (hnames : ∀ name ∈ op.dialects, Dialect.resolve? name ≠ none)
      (h : Action.run Action.engine p = (.error f, q)) :
      ReportedAside f p q op.asksWithin op
  | exchange {op : Operation} {q : Session σ α} {e : Engine σ α} {w' : σ}
      (hserves : Action.run Action.engine p = (.ok e, q))
      (h : ExchangeFails e f q.world w' op) :
      ReportedAside f p (q.reworked w' q.journal) false op

/--
A report that an operation meets apart from its calls for SQL is translated if it is met within what
the operation translates, and otherwise callers get the report itself, whichever classes are
registered.
-/
theorem run_of_reportedAside
    (op : Operation)
    (p q : Session σ α)
    (within : Bool)
    (f : Failure)
    (kind : FaultKind)
    (hmeets : ReportedAside f p q within op)
    (hreport : f.cls = .engine)
    (hkind : f.kind = some kind) :
    ∃ g j, Action.run op.action p = (.error g, q.withJournal j) ∧
      if within then f.Emerges p.hosts p.errors kind g else g = f := by
  cases hmeets with
  | unmade hnames h =>
      exact run_of_unmade op p q f kind hnames h hreport hkind
  | @exchange _ q e w' hserves h =>
      obtain ⟨j, hj⟩ := run_of_exchangeFails op p q e f w' hserves h hreport
      exact ⟨f, j, hj, rfl⟩

/-- A session whose engine parses one statement and cannot dump it. -/
def undumped : Session Scripted.State Value :=
  Scripted.served
    [(.parse, [.ok (.list [.text "a"])]), (.dump, [.error (.ofEngine .internal "no dump")])]

/-- The world in which the engine leaves it. -/
def undumpedWorld : Scripted.State :=
  ⟨[(.parse, [.ok (.list [.text "a"])]), (.dump, [.error (.ofEngine .internal "no dump")])],
    [.parse "a" .mysql, .dump]⟩

theorem run_of_reportedAside_undumped :
    ReportedAside (.ofEngine .internal "no dump") undumped
        (undumped.reworked undumpedWorld undumped.journal) false (.parse "a" "mysql") ∧
    ∃ g j, Action.run (Operation.parse "a" "mysql").action undumped =
        (.error g, (undumped.reworked undumpedWorld undumped.journal).withJournal j) ∧
      g = .ofEngine .internal "no dump" := by
  have hserves : Action.run Action.engine undumped = (.ok (Scripted.reportless "1.0"), undumped) :=
    Scripted.run_engine_served _
  have hmysql : Dialect.resolve? "mysql" = some .mysql := by decide +kernel
  have hmeets : ReportedAside (.ofEngine .internal "no dump") undumped
      (undumped.reworked undumpedWorld undumped.journal) false (.parse "a" "mysql") :=
    .exchange hserves (.parse hmysql rfl (.fails rfl))
  exact ⟨hmeets, run_of_reportedAside _ undumped _ false _ .internal hmeets rfl rfl⟩

/-- The failure is none of the registered base, and nothing has caused it. -/
theorem run_parse_undumped :
    undumped.errors = some .standard ∧
    ∃ f, (Action.run (Operation.parse "a" "mysql").action undumped).1 = .error f ∧
      f.cls = .engine ∧ f.isA .bridge = false ∧ f.cause = none :=
  ⟨rfl, .ofEngine .internal "no dump", rfl, rfl, by decide, rfl⟩

end Operation
end SqlDialects
