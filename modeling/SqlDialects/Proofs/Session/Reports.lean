import SqlDialects.Proofs.Session.Confinement
import SqlDialects.Proofs.Session.Payload
import SqlDialects.Proofs.Session.Samples

/-!
# What callers get of an engine's reports

An operation calls its engine for SQL once or many times.  Whichever of these calls fails with a
report, callers get one failure for it, and nothing happens after that call.

**Input.**  A session with any registered classes or none, the engine that it obtains, and an
operation one of whose calls for SQL fails (`Operation.CallFails`).

**Results.**
* `Action.run_translating_emerges`: whatever is translated and ends with a report fails with what
  emerges from the report (`Failure.Emerges`).
* `Operation.run_of_callFails`: so does the operation, and it leaves the world as the call that has
  failed has left it.
-/

namespace SqlDialects

/-! ## Calls that fail -/

section Calls

variable {σ α β : Type}

/--
Of the steps for some trees one fails with `f` and leaves the world `w'`; all steps before it have
gone well, the first of them in the world `w`.
-/
inductive Task.SomeFails (step : α → Task σ β) (f : Failure) : List α → (w w' : σ) → Prop
  | fails {t : α} {ts : List α} {w w' : σ} {records : List Log.Record}
      (h : Task.run (step t) ⟨w, []⟩ = (.error f, ⟨w', records⟩)) :
      SomeFails step f (t :: ts) w w'
  | passes {t : α} {ts : List α} {w v w' : σ} {b : β} {records : List Log.Record}
      (h : Task.run (step t) ⟨w, []⟩ = (.ok b, ⟨v, records⟩))
      (hrest : SomeFails step f ts v w') :
      SomeFails step f (t :: ts) w w'

/--
One of the calls for SQL that an operation makes fails with `f` and leaves the world `w'`; all calls
before it have gone well, the first of them in the world `w`.
-/
inductive Operation.CallFails (e : Engine σ α) (f : Failure) (w w' : σ) : Operation → Prop
  | transpile {sql source target : String} {d d' : Dialect} {records : List Log.Record}
      (hd : Dialect.resolve? source = some d)
      (hd' : Dialect.resolve? target = some d')
      (h : Task.run (e.transpile sql d d') ⟨w, []⟩ = (.error f, ⟨w', records⟩)) :
      CallFails e f w w' (.transpile sql source target)
  | parse {sql dialect : String} {d : Dialect} {records : List Log.Record}
      (hd : Dialect.resolve? dialect = some d)
      (h : Task.run (e.parse sql d) ⟨w, []⟩ = (.error f, ⟨w', records⟩)) :
      CallFails e f w w' (.parse sql dialect)
  | parseOne {sql dialect : String} {d : Dialect} {records : List Log.Record}
      (hd : Dialect.resolve? dialect = some d)
      (h : Task.run (e.parseOne sql d) ⟨w, []⟩ = (.error f, ⟨w', records⟩)) :
      CallFails e f w w' (.parseOne sql dialect)
  | generate {payload dialect : String} {d : Dialect} {data : Json} {tree : α} {v : σ}
      {records records' : List Log.Record}
      (hd : Dialect.resolve? dialect = some d)
      (hread : Json.read payload = .ok data)
      (hload : Task.run (e.load data) ⟨w, []⟩ = (.ok tree, ⟨v, records⟩))
      (h : Task.run (e.generate tree d false) ⟨v, []⟩ = (.error f, ⟨w', records'⟩)) :
      CallFails e f w w' (.generate payload dialect)
  | formatParse {sql dialect : String} {d : Dialect} {records : List Log.Record}
      (hd : Dialect.resolve? dialect = some d)
      (h : Task.run (e.parse sql d) ⟨w, []⟩ = (.error f, ⟨w', records⟩)) :
      CallFails e f w w' (.format sql dialect)
  | formatGenerate {sql dialect : String} {d : Dialect} {trees : List α} {v : σ}
      {records : List Log.Record}
      (hd : Dialect.resolve? dialect = some d)
      (hparse : Task.run (e.parse sql d) ⟨w, []⟩ = (.ok trees, ⟨v, records⟩))
      (h : Task.SomeFails (fun t => e.generate t d true) f trees v w') :
      CallFails e f w w' (.format sql dialect)
  | validate {sql dialect : String} {d : Dialect} {records : List Log.Record}
      (hd : Dialect.resolve? dialect = some d)
      (h : Task.run (e.validate sql d) ⟨w, []⟩ = (.error f, ⟨w', records⟩)) :
      CallFails e f w w' (.validate sql dialect)

/-- The names of such an operation resolve. -/
theorem Operation.CallFails.resolve?_ne_none
    {e : Engine σ α} {f : Failure} {w w' : σ} {op : Operation}
    (h : CallFails e f w w' op) :
    ∀ name ∈ op.dialects, Dialect.resolve? name ≠ none := by
  cases h <;> simp [dialects, *]

end Calls

namespace Action

variable {σ α β : Type}

/-- A call of the engine, on the world that it finds. -/
theorem run_engineTask_of_world
    {t : Task σ β} {q : Session σ α} {w w' : σ} {r : Except Failure β} {records : List Log.Record}
    (h : Task.run t ⟨w, []⟩ = (r, ⟨w', records⟩))
    (hworld : q.world = w) :
    ∃ j, run (engineTask t) q = (r, q.reworked w' j) := by
  subst hworld
  exact ⟨_, run_engineTask_of_run h⟩

/-- What is translated ends with what emerges from a report that it meets. -/
theorem run_translating_emerges
    {a : Action σ α β} {p q : Session σ α} {f : Failure} {kind : FaultKind}
    (h : run a p = (.error f, q))
    (hreport : f.cls = .engine)
    (hkind : f.kind = some kind)
    (operation : String) :
    ∃ g j, run (translating operation a) p = (.error g, q.withJournal j) ∧
      f.Emerges q.hosts q.errors kind g := by
  obtain ⟨j, hj⟩ := run_translating_of_report h hreport operation
  have hemerges := Failure.emerges_emerging q.hosts q.errors f
  rw [hkind, Option.getD_some] at hemerges
  exact ⟨_, j, hj, hemerges⟩

/-- What is asked of the engine alone ends with what emerges from the report that it gives. -/
theorem run_translating_engineTask
    {t : Task σ β} {q : Session σ α} {w' : σ} {f : Failure} {kind : FaultKind}
    {records : List Log.Record}
    (h : Task.run t ⟨q.world, []⟩ = (.error f, ⟨w', records⟩))
    (hreport : f.cls = .engine)
    (hkind : f.kind = some kind)
    (operation : String) :
    ∃ g j, run (translating operation (engineTask t)) q = (.error g, q.reworked w' j) ∧
      f.Emerges q.hosts q.errors kind g := by
  obtain ⟨j, hj⟩ := run_engineTask_of_world h rfl
  exact run_translating_emerges hj hreport hkind operation

/-- Going through trees, one step of the engine for each, ends at the step that fails. -/
theorem run_all_of_someFails
    {step : α → Task σ β}
    (all : List α → Action σ α (List β))
    (hall : ∀ t ts, all (t :: ts) = do
      let b ← engineTask (step t)
      let bs ← all ts
      return b :: bs)
    {f : Failure} {trees : List α} {w w' : σ}
    (h : Task.SomeFails step f trees w w')
    (q : Session σ α)
    (hworld : q.world = w) :
    ∃ j, run (all trees) q = (.error f, q.reworked w' j) := by
  induction h generalizing q with
  | @fails t ts w w' records h =>
      obtain ⟨j, hj⟩ := run_engineTask_of_world h hworld
      exact ⟨j, by rw [hall, run_bind_of_error hj]⟩
  | @passes t ts w v w' b records h _ ih =>
      obtain ⟨j, hj⟩ := run_engineTask_of_world h hworld
      obtain ⟨j', hj'⟩ := ih (q.reworked v j) rfl
      exact ⟨j', by rw [hall, run_bind_of_ok hj, run_bind_of_error hj']; rfl⟩

end Action

namespace Operation

variable {σ α : Type}

/-- An operation ends at a call for SQL that fails with a report. -/
theorem run_onEngine_of_callFails
    {op : Operation} {q : Session σ α} {e : Engine σ α} {f : Failure} {kind : FaultKind} {w' : σ}
    (hfails : CallFails e f q.world w' op)
    (hreport : f.cls = .engine)
    (hkind : f.kind = some kind) :
    ∃ g j, Action.run (op.onEngine e) q = (.error g, q.reworked w' j) ∧
      f.Emerges q.hosts q.errors kind g := by
  cases hfails with
  | transpile hd hd' h =>
      obtain ⟨g, j, hg, hemerges⟩ :=
        Action.run_translating_engineTask h hreport hkind "transpile"
      refine ⟨g, j, ?_, hemerges⟩
      rw [onEngine, Action.run_resolve_bind_of_some hd, Action.run_resolve_bind_of_some hd',
        Action.run_map, hg]
      rfl
  | parse hd h =>
      obtain ⟨g, j, hg, hemerges⟩ :=
        Action.run_translating_engineTask h hreport hkind "parse"
      refine ⟨g, j, ?_, hemerges⟩
      rw [onEngine, Action.run_resolve_bind_of_some hd, Action.run_bind_of_error hg]
  | parseOne hd h =>
      obtain ⟨g, j, hg, hemerges⟩ :=
        Action.run_translating_engineTask h hreport hkind "parse_one"
      refine ⟨g, j, ?_, hemerges⟩
      rw [onEngine, Action.run_resolve_bind_of_some hd, Action.run_bind_of_error hg]
  | @generate payload dialect d data tree v records records' hd hread hload h =>
      obtain ⟨j, hj⟩ := Action.run_engineTask_of_world hload rfl
      obtain ⟨g, j', hg, hemerges⟩ := Action.run_translating_engineTask
        (q := q.reworked v j) h hreport hkind "generate"
      refine ⟨g, j', ?_, hemerges⟩
      rw [onEngine, Action.run_resolve_bind_of_some hd,
        Action.run_bind_of_ok (Action.run_fromPayload_of_load hread hj), Action.run_map, hg]
      rfl
  | formatParse hd h =>
      obtain ⟨j, hj⟩ := Action.run_engineTask_of_world h rfl
      obtain ⟨g, j', hg, hemerges⟩ := Action.run_translating_emerges
        (Action.run_bind_of_error hj _) hreport hkind "format"
      refine ⟨g, j', ?_, hemerges⟩
      rw [onEngine, Action.run_resolve_bind_of_some hd, Action.run_bind_of_error hg]
      rfl
  | @formatGenerate sql dialect d trees v records hd hparse h =>
      obtain ⟨j, hj⟩ := Action.run_engineTask_of_world hparse rfl
      obtain ⟨j', hj'⟩ := Action.run_all_of_someFails (Action.generateAll e d)
        (fun _ _ => rfl) h (q.reworked v j) rfl
      obtain ⟨g, j'', hg, hemerges⟩ := Action.run_translating_emerges
        ((Action.run_bind_of_ok hj _).trans hj') hreport hkind "format"
      refine ⟨g, j'', ?_, hemerges⟩
      rw [onEngine, Action.run_resolve_bind_of_some hd, Action.run_bind_of_error hg]
      rfl
  | validate hd h =>
      obtain ⟨g, j, hg, hemerges⟩ :=
        Action.run_translating_engineTask h hreport hkind "validate"
      refine ⟨g, j, ?_, hemerges⟩
      rw [onEngine, Action.run_resolve_bind_of_some hd, Action.run_bind_of_error hg]

/-- A session with the classes of a host, whose engine parses three statements, lays out the first
and reports that it cannot lay out the second. -/
def interrupted : Session Scripted.State Value :=
  { Scripted.served
      [(.parse, [.ok (.list [.text "a", .text "b", .text "c"])]),
        (.generate, [.ok (.text "A"), .error (.ofEngine .malformed "no b"), .ok (.text "C")])] with
    errors := some ⟨.own .host, .own .hostParse, .own .hostGenerate, .own .hostUnsupported⟩ }

/-- The world in which the engine leaves it: it has got no call for the third statement. -/
def interruption : Scripted.State :=
  ⟨[(.parse, [.ok (.list [.text "a", .text "b", .text "c"])]), (.generate, [.ok (.text "C")])],
    [.parse "a; b; c" .mysql, .generate (.text "a") .mysql true, .generate (.text "b") .mysql true]⟩

end Operation
end SqlDialects
