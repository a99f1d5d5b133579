import SqlDialects.Library.Engine
import SqlDialects.Library.Scripted
import SqlDialects.Proofs.Session.Payload
import SqlDialects.Proofs.Session.Resolution
import SqlDialects.Proofs.Session.Samples
import SqlDialects.Proofs.Session.Serving
import SqlDialects.Proofs.Session.Translation

/-!
# What callers see of a failure of the SQL library

A failure of the library passes three places before a caller sees it: the library's engine gives
it a category, the operation notices that an engine has reported, and the registry gives the
category its class.  Here the three are put together.

**Input.**  A library in any state, an operation, and a failure with which the library ends the
operation's parsing step or its first rendering step that fails (`Library.Raises`).

**Results.**
* `Library.run_of_raises`: the caller gets one failure, whose class and text are fixed by the
  library's failure and by the phase (`callerClass`, `callerText`), and which is caused by the
  engine's report, which in turn is caused by the library's failure.
-/

namespace SqlDialects

/-- What the library is doing for an operation. -/
inductive Phase where
  | parsing
  | rendering
deriving DecidableEq, Repr

namespace Phase

/-- Whether a failure in a phase is one that the engine reports. -/
def Reports : Phase → Failure → Prop
  | .parsing, f => f.isA (.library .root) ∨ f.isA .recursion
  | .rendering, f =>
    f.isA (.library .root) ∨ f.isA .value ∨ f.isA .type ∨ f.isA .key ∨ f.isA .missingAttribute ∨
      f.isA .recursion

/-- The class that callers see of a failure of a class. -/
def callerClass : Phase → ErrorClass → ErrorClass
  | _, .library .token => .parse
  | _, .library .parse => .parse
  | _, .library .unsupported => .unsupported
  | .parsing, .general .recursion => .parse
  | .parsing, _ => .bridge
  | .rendering, _ => .generate

end Phase

/-- The text that callers see of a failure. -/
def callerText (f : Failure) : String :=
  if f.cls = .general .recursion then "SQL is nested too deeply: " ++ f.text else f.text

namespace Library

variable {τ ε β : Type}

/-! ## Categories -/

/-- The category of a failure and the text of the report. -/
theorem classify_eq
    (phase : Phase)
    (f : Failure) :
    ∃ kind, classify (phase = .rendering) f = .ofEngine kind (callerText f) ∧
      ErrorRegistry.standard.classFor kind = phase.callerClass f.cls := by
  obtain ⟨cls, argument, worded, kind, records, cause⟩ := f
  cases phase <;> cases cls with
  | library c =>
      cases c <;> exact ⟨_, rfl, rfl⟩
  | general c =>
      cases c <;> exact ⟨_, rfl, rfl⟩
  | own o =>
      simp only [classify, Failure.isA, ErrorClass.isA_library_of_own,
        ErrorClass.isA_recursion_of_own, Bool.false_eq_true, if_false]
      exact ⟨_, rfl, rfl⟩
  | _ =>
      exact ⟨_, rfl, rfl⟩

/-- The classes whose failures the engine reports in a phase. -/
def reportedClasses : Phase → List ErrorClass
  | .parsing => parseFailures
  | .rendering => renderFailures

theorem isAnyOf_reportedClasses
    {phase : Phase} {f : Failure}
    (h : phase.Reports f) :
    f.isAnyOf (reportedClasses phase) = true := by
  cases phase <;>
    simpa [reportedClasses, parseFailures, renderFailures, Failure.isAnyOf, ErrorClass.isAnyOf,
      Phase.Reports, Failure.isA] using h

/-- What the engine reports of a failure in a phase. -/
def report (phase : Phase) (f : Failure) : Failure :=
  (classify (phase = .rendering) f).causedBy f

theorem report_cls (phase : Phase) (f : Failure) :
    (report phase f).cls = .engine := by
  obtain ⟨kind, hclassify, -⟩ := classify_eq phase f
  rw [report, hclassify]
  rfl

theorem report_cause (phase : Phase) (f : Failure) :
    (report phase f).cause = some f := rfl

/-- The registry of the bridge's own classes gives a report its class and its text. -/
theorem emerging_report (hosts : HostClasses) (phase : Phase) (f : Failure) :
    (report phase f).emerging hosts (some .standard) =
      (Failure.of (phase.callerClass f.cls) (callerText f)).causedBy (report phase f) := by
  obtain ⟨kind, hclassify, hclass⟩ := classify_eq phase f
  rw [Failure.emerging_standard, report, hclassify, ← hclass]
  rfl

/-- The text of a failure of one of these classes is the text it was made with. -/
theorem text_of_callerClass (phase : Phase) (c : ErrorClass) (message : String) :
    (Failure.of (phase.callerClass c) message).text = message := by
  unfold Phase.callerClass
  split <;> rfl

/-! ## Steps of the library -/

/-- Parses all statements of a text in the library's dialect for a dialect. -/
def parseStep (lib : Library τ ε) (sql : String) (d : Dialect) : Task τ (List (Node ε)) := do
  lib.parse (← lib.choose d) sql false

/-- Parses a single statement. -/
def parseOneStep (lib : Library τ ε) (sql : String) (d : Dialect) : Task τ (Node ε) := do
  lib.parseOne (← lib.choose d) sql

/-- Renders a tree in the library's dialect for a dialect. -/
def renderStep (lib : Library τ ε) (level : UnsupportedLevel) (d : Dialect) (pretty : Bool)
    (e : ε) : Task τ String := do
  lib.render e (← lib.choose d) pretty level

/-- A step of the library that ends well is not touched. -/
theorem run_reporting_of_ok
    {t : Task τ β} {s s' : Scene τ} {b : β}
    (h : Task.run t s = (.ok b, s'))
    (classes : List ErrorClass)
    (rendering : Bool) :
    Task.run (reporting classes rendering t) s = (.ok b, s') := by
  simp [reporting, Task.run_bind, h]

/-- A failure of the library becomes the engine's report. -/
theorem run_reporting_of_reports
    {t : Task τ β} {s s' : Scene τ} {f : Failure} {phase : Phase}
    (h : Task.run t s = (.error f, s'))
    (hreports : phase.Reports f) :
    Task.run (reporting (reportedClasses phase) (phase = .rendering) t) s =
      (.error (report phase f), s') := by
  simp [reporting, Task.run_bind, h, isAnyOf_reportedClasses hreports, report]

/--
The first rendering step that fails, going through nodes in order: the steps before it succeed
and empty statements have none.  A step is run by `render`, which also says where the next one
starts.
-/
inductive FirstFailure (render : ε → Scene τ → Except Failure String × Scene τ) (f : Failure) :
    List (Node ε) → Scene τ → Prop where
  | fails {e ns s s'} :
      render e s = (.error f, s') →
      FirstFailure render f (.tree e :: ns) s
  | passes {e ns s s' text} :
      render e s = (.ok text, s') →
      FirstFailure render f ns s' →
      FirstFailure render f (.tree e :: ns) s
  | skips {ns s} :
      FirstFailure render f ns s →
      FirstFailure render f (.other .null :: ns) s

/-- Statements are carried over within one task. -/
abbrev renderWithin (lib : Library τ ε) (level : UnsupportedLevel) (d : Dialect) :
    ε → Scene τ → Except Failure String × Scene τ :=
  fun e s => Task.run (renderStep lib level d false e) s

/-- Statements are laid out in one task each. -/
abbrev renderApart (lib : Library τ ε) (level : UnsupportedLevel) (d : Dialect) :
    ε → Scene τ → Except Failure String × Scene τ :=
  fun e s => Task.run (renderStep lib level d true e) ⟨s.state, []⟩

/--
The library, in a state, ends an operation with a failure: in the parsing step, or in the first
rendering step that fails.
-/
inductive Raises (lib : Library τ ε) (level : UnsupportedLevel) (w : τ) (f : Failure) :
    Phase → Operation → Prop where
  | parsingTranspile {sql source target d s} :
      Dialect.resolve? source = some d →
      Task.run (parseStep lib sql d) ⟨w, []⟩ = (.error f, s) →
      Raises lib level w f .parsing (.transpile sql source target)
  | parsing {sql dialect d s} :
      Dialect.resolve? dialect = some d →
      Task.run (parseStep lib sql d) ⟨w, []⟩ = (.error f, s) →
      Raises lib level w f .parsing (.parse sql dialect)
  | parsingOne {sql dialect d s} :
      Dialect.resolve? dialect = some d →
      Task.run (parseOneStep lib sql d) ⟨w, []⟩ = (.error f, s) →
      Raises lib level w f .parsing (.parseOne sql dialect)
  | parsingFormat {sql dialect d s} :
      Dialect.resolve? dialect = some d →
      Task.run (parseStep lib sql d) ⟨w, []⟩ = (.error f, s) →
      Raises lib level w f .parsing (.format sql dialect)
  | renderingTranspile {sql source target d d' nodes s} :
      Dialect.resolve? source = some d →
      Dialect.resolve? target = some d' →
      Task.run (parseStep lib sql d) ⟨w, []⟩ = (.ok nodes, s) →
      FirstFailure (renderWithin lib level d') f nodes s →
      Raises lib level w f .rendering (.transpile sql source target)
  | renderingFormat {sql dialect d nodes s} :
      Dialect.resolve? dialect = some d →
      Task.run (parseStep lib sql d) ⟨w, []⟩ = (.ok nodes, s) →
      FirstFailure (renderApart lib level d) f nodes s →
      Raises lib level w f .rendering (.format sql dialect)
  | rendering {payload dialect d data e s s'} :
      Dialect.resolve? dialect = some d →
      Json.read payload = .ok data →
      Task.run (lib.load data) ⟨w, []⟩ = (.ok (.tree e), s) →
      Task.run (renderStep lib level d false e) ⟨s.state, []⟩ = (.error f, s') →
      Raises lib level w f .rendering (.generate payload dialect)

/-! ## The engine of the library -/

variable {lib : Library τ ε} {level : UnsupportedLevel} {f : Failure}

theorem run_statements_of_reports
    {sql : String} {d : Dialect} {s s' : Scene τ}
    (h : Task.run (parseStep lib sql d) s = (.error f, s'))
    (hreports : Phase.parsing.Reports f) :
    Task.run (statements lib sql d) s = (.error (report .parsing f), s') :=
  run_reporting_of_reports h hreports

theorem run_statements_of_ok
    {sql : String} {d : Dialect} {s s' : Scene τ} {nodes : List (Node ε)}
    (h : Task.run (parseStep lib sql d) s = (.ok nodes, s')) :
    Task.run (statements lib sql d) s = (.ok nodes, s') :=
  run_reporting_of_ok h parseFailures false

theorem run_renderNode_of_reports
    {e : ε} {d : Dialect} {pretty : Bool} {s s' : Scene τ}
    (h : Task.run (renderStep lib level d pretty e) s = (.error f, s'))
    (hreports : Phase.rendering.Reports f) :
    Task.run (renderNode lib level (.tree e) d pretty) s = (.error (report .rendering f), s') :=
  run_reporting_of_reports h hreports

theorem run_renderNode_of_ok
    {e : ε} {d : Dialect} {pretty : Bool} {s s' : Scene τ} {text : String}
    (h : Task.run (renderStep lib level d pretty e) s = (.ok text, s')) :
    Task.run (renderNode lib level (.tree e) d pretty) s = (.ok text, s') :=
  run_reporting_of_ok h renderFailures true

/-- Carrying statements over ends with the report of the first step that fails. -/
theorem run_renderAll_of_firstFailure
    {d : Dialect} {nodes : List (Node ε)} {s : Scene τ}
    (h : FirstFailure (renderWithin lib level d) f nodes s)
    (hreports : Phase.rendering.Reports f) :
    ∃ s', Task.run (renderAll lib level d nodes) s = (.error (report .rendering f), s') := by
  induction h with
  | @fails e ns s s' hstep =>
      exact ⟨s', Task.run_bind_of_error (run_renderNode_of_reports hstep hreports) _⟩
  | @passes e ns s s' text hstep _ ih =>
      obtain ⟨s'', ih⟩ := ih
      refine ⟨s'', ?_⟩
      have hfirst := run_renderNode_of_ok hstep
      exact (Task.run_bind_of_ok hfirst _).trans (Task.run_bind_of_error ih _)
  | @skips ns s _ ih =>
      obtain ⟨s'', ih⟩ := ih
      refine ⟨s'', ?_⟩
      have hfirst : Task.run (pure "" : Task τ String) s = (.ok "", s) := rfl
      exact (Task.run_bind_of_ok hfirst _).trans (Task.run_bind_of_error ih _)

/-- Leaving empty statements out adds to the records only. -/
theorem run_skipEmpty (nodes : List (Node ε)) (s : Scene τ) :
    ∃ records, Task.run (skipEmpty nodes) s =
      (.ok (nodes.filter fun n => !n.isEmpty), ⟨s.state, records⟩) := by
  induction nodes generalizing s with
  | nil =>
      exact ⟨s.records, rfl⟩
  | cons n ns ih =>
      cases hn : n.isEmpty with
      | true =>
          obtain ⟨records, ih⟩ := ih ⟨s.state, s.records ++
            [.plain logger Log.debug "Empty statement encountered; skipping"]⟩
          refine ⟨records, ?_⟩
          simp only [skipEmpty, hn, if_true, Task.run_bind, Task.run_log, ih]
          simp [hn]
      | false =>
          obtain ⟨records, ih⟩ := ih s
          refine ⟨records, ?_⟩
          simp only [skipEmpty, hn, Bool.false_eq_true, if_false, Task.run_bind, ih,
            Task.run_pure]
          simp [hn]

/-- The engine renders a tree in the state that it finds, with no records before. -/
theorem run_engineTask_generate_of_ok
    (level : UnsupportedLevel)
    {e : ε} {d : Dialect} {pretty : Bool} {s s' : Scene τ} {text : String}
    (q : Session τ (Node ε))
    (hworld : q.world = s.state)
    (h : Task.run (renderStep lib level d pretty e) ⟨s.state, []⟩ = (.ok text, s')) :
    Action.run (Action.engineTask ((lib.engine level).generate (.tree e) d pretty)) q =
      (.ok text, q.resume s') := by
  have hscene : q.scene = ⟨s.state, []⟩ := by
    rw [Session.scene, hworld]
  rw [← hscene] at h
  exact Action.run_engineTask_of_run (run_renderNode_of_ok h)

theorem run_engineTask_generate_of_reports
    (level : UnsupportedLevel)
    {e : ε} {d : Dialect} {pretty : Bool} {s s' : Scene τ}
    (q : Session τ (Node ε))
    (hworld : q.world = s.state)
    (h : Task.run (renderStep lib level d pretty e) ⟨s.state, []⟩ = (.error f, s'))
    (hreports : Phase.rendering.Reports f) :
    Action.run (Action.engineTask ((lib.engine level).generate (.tree e) d pretty)) q =
      (.error (report .rendering f), q.resume s') := by
  have hscene : q.scene = ⟨s.state, []⟩ := by
    rw [Session.scene, hworld]
  rw [← hscene] at h
  exact Action.run_engineTask_of_run (run_renderNode_of_reports h hreports)

theorem run_engineTask_parse_of_reports
    (level : UnsupportedLevel)
    {sql : String} {d : Dialect} {q : Session τ (Node ε)} {s : Scene τ}
    (h : Task.run (parseStep lib sql d) q.scene = (.error f, s))
    (hreports : Phase.parsing.Reports f) :
    Action.run (Action.engineTask ((lib.engine level).parse sql d)) q =
      (.error (report .parsing f), q.resume s) :=
  Action.run_engineTask_of_run
    (Task.run_bind_of_error (run_statements_of_reports h hreports) _)

/-- The engine parses and leaves empty statements out. -/
theorem run_engineTask_parse_of_ok
    (level : UnsupportedLevel)
    {sql : String} {d : Dialect} {q : Session τ (Node ε)} {nodes : List (Node ε)} {s : Scene τ}
    (h : Task.run (parseStep lib sql d) q.scene = (.ok nodes, s)) :
    ∃ records, Action.run (Action.engineTask ((lib.engine level).parse sql d)) q =
      (.ok (nodes.filter fun n => !n.isEmpty), q.resume ⟨s.state, records⟩) := by
  obtain ⟨records, hskip⟩ := run_skipEmpty nodes s
  refine ⟨records, Action.run_engineTask_of_run ?_⟩
  exact (Task.run_bind_of_ok (run_statements_of_ok h) _).trans hskip

theorem run_engineTask_parseOne_of_reports
    (level : UnsupportedLevel)
    {sql : String} {d : Dialect} {q : Session τ (Node ε)} {s : Scene τ}
    (h : Task.run (parseOneStep lib sql d) q.scene = (.error f, s))
    (hreports : Phase.parsing.Reports f) :
    Action.run (Action.engineTask ((lib.engine level).parseOne sql d)) q =
      (.error (report .parsing f), q.resume s) :=
  Action.run_engineTask_of_run (run_reporting_of_reports h hreports)

theorem run_engineTask_transpile_of_parsing
    (level : UnsupportedLevel)
    (d' : Dialect)
    {sql : String} {d : Dialect} {q : Session τ (Node ε)} {s : Scene τ}
    (h : Task.run (parseStep lib sql d) q.scene = (.error f, s))
    (hreports : Phase.parsing.Reports f) :
    Action.run (Action.engineTask ((lib.engine level).transpile sql d d')) q =
      (.error (report .parsing f), q.resume s) :=
  Action.run_engineTask_of_run
    (Task.run_bind_of_error (run_statements_of_reports h hreports) _)

theorem run_engineTask_transpile_of_rendering
    (level : UnsupportedLevel)
    {sql : String} {d d' : Dialect} {q : Session τ (Node ε)} {nodes : List (Node ε)} {s : Scene τ}
    (h : Task.run (parseStep lib sql d) q.scene = (.ok nodes, s))
    (hfirst : FirstFailure (renderWithin lib level d') f nodes s)
    (hreports : Phase.rendering.Reports f) :
    ∃ s', Action.run (Action.engineTask ((lib.engine level).transpile sql d d')) q =
      (.error (report .rendering f), q.resume s') := by
  obtain ⟨s', hall⟩ := run_renderAll_of_firstFailure hfirst hreports
  refine ⟨s', Action.run_engineTask_of_run ?_⟩
  exact (Task.run_bind_of_ok (run_statements_of_ok h) _).trans hall

/-- The tree that a payload describes is loaded as it is. -/
theorem run_fromPayload_of_tree
    (level : UnsupportedLevel)
    {payload : String} {data : Json} {e : ε} {q : Session τ (Node ε)} {s : Scene τ}
    (hread : Json.read payload = .ok data)
    (h : Task.run (lib.load data) q.scene = (.ok (.tree e), s)) :
    Action.run (Action.fromPayload (lib.engine level) payload) q =
      (.ok (.tree e), q.resume s) := by
  have hload : Task.run (loadTree lib data) q.scene = (.ok (.tree e), s) := by
    simp [loadTree, Task.run_bind, h]
  have htask : Action.run (Action.engineTask ((lib.engine level).load data)) q =
      (.ok (.tree e), q.resume s) :=
    Action.run_engineTask_of_run hload
  exact Action.run_fromPayload_of_load hread htask

/-- Laying trees out ends with the report of the first step that fails. -/
theorem run_generateAll_of_firstFailure
    {d : Dialect} {nodes : List (Node ε)} {s : Scene τ}
    (h : FirstFailure (renderApart lib level d) f nodes s)
    (hreports : Phase.rendering.Reports f)
    (q : Session τ (Node ε))
    (hworld : q.world = s.state) :
    ∃ r, Action.run (Action.generateAll (lib.engine level) d
        (nodes.filter fun n => !n.isEmpty)) q = (.error (report .rendering f), r) ∧
      r.errors = q.errors := by
  induction h generalizing q with
  | @fails e ns s s' hstep =>
      have hrun := run_engineTask_generate_of_reports level q hworld hstep hreports
      exact ⟨q.resume s', Action.run_bind_of_error hrun _, rfl⟩
  | @passes e ns s s' text hstep _ ih =>
      obtain ⟨r, ih, herrors⟩ := ih (q.resume s') rfl
      have hrun := run_engineTask_generate_of_ok level q hworld hstep
      exact ⟨r, (Action.run_bind_of_ok hrun _).trans (Action.run_bind_of_error ih _), herrors⟩
  | skips _ ih =>
      exact ih q hworld

/-! ## The whole way -/

/--
What callers get of a failure of the library in a phase: a failure of their class and with their
text, caused by the engine's report, which is caused by the library's failure.
-/
structure Answers (phase : Phase) (f g : Failure) : Prop where
  cls : g.cls = phase.callerClass f.cls
  text : g.text = callerText f
  cause : ∃ reported, g.cause = some reported ∧ reported.cls = .engine ∧ reported.cause = some f

/-- A report of the engine reaches the caller under the bridge's own classes. -/
theorem run_translating_of_libraryReport
    {a : Action τ (Node ε) β} {p q : Session τ (Node ε)} {phase : Phase}
    (h : Action.run a p = (.error (report phase f), q))
    (herrors : q.errors = some .standard)
    (operation : String) :
    ∃ g r, Action.run (Action.translating operation a) p = (.error g, r) ∧ Answers phase f g := by
  obtain ⟨j, hj⟩ := Action.run_translating_of_report h (report_cls phase f) operation
  rw [herrors, emerging_report] at hj
  refine ⟨_, _, hj, rfl, ?_, report phase f, rfl, report_cls phase f, report_cause phase f⟩
  exact text_of_callerClass phase f.cls (callerText f)

/--
Whatever the library does wrong for an operation, the caller gets one failure, and its class and
its text depend on the library's failure and on the phase alone.
-/
theorem run_of_raises
    (lib : Library τ ε)
    (level : UnsupportedLevel)
    (op : Operation)
    (phase : Phase)
    (f : Failure)
    (p q : Session τ (Node ε))
    (herrors : p.errors = some .standard)
    (hserves : Action.run Action.engine p = (.ok (lib.engine level), q))
    (hnames : ∀ name ∈ op.dialects, Dialect.resolve? name ≠ none)
    (hraises : Raises lib level q.world f phase op)
    (hreports : phase.Reports f) :
    ∃ g r, Action.run op.action p = (.error g, r) ∧ Answers phase f g := by
  have hq : q.errors = some .standard :=
    (Action.errors_of_run_engine hserves).trans herrors
  cases hraises with
  | @parsing sql dialect d s hd hstep =>
      have htask := run_engineTask_parse_of_reports level (q := q) hstep hreports
      obtain ⟨g, r, hg, hanswers⟩ := run_translating_of_libraryReport htask hq "parse"
      refine ⟨g, r, ?_, hanswers⟩
      rw [Operation.action, Action.run_map, Action.run_parse_of_serves sql hd hserves,
        Action.run_bind_of_error hg]
      rfl
  | @parsingOne sql dialect d s hd hstep =>
      have htask := run_engineTask_parseOne_of_reports level (q := q) hstep hreports
      obtain ⟨g, r, hg, hanswers⟩ := run_translating_of_libraryReport htask hq "parse_one"
      refine ⟨g, r, ?_, hanswers⟩
      rw [Operation.action, Action.run_map, Action.run_parseOne_of_serves sql hd hserves,
        Action.run_bind_of_error hg]
      rfl
  | @parsingFormat sql dialect d s hd hstep =>
      have htask := run_engineTask_parse_of_reports level (q := q) hstep hreports
      obtain ⟨g, r, hg, hanswers⟩ := run_translating_of_libraryReport
        (Action.run_bind_of_error htask _) hq "format"
      refine ⟨g, r, ?_, hanswers⟩
      rw [Operation.action, Action.run_map, Action.run_format_of_serves sql hd hserves,
        Action.run_bind_of_error hg]
      rfl
  | @renderingFormat sql dialect d nodes s hd hstep hfirst =>
      obtain ⟨records, htask⟩ := run_engineTask_parse_of_ok level (q := q) hstep
      obtain ⟨r, hall, hr⟩ := run_generateAll_of_firstFailure hfirst hreports
        (q.resume ⟨s.state, records⟩) rfl
      rw [Session.resume_errors, hq] at hr
      obtain ⟨g, r', hg, hanswers⟩ := run_translating_of_libraryReport
        ((Action.run_bind_of_ok htask _).trans hall) hr "format"
      refine ⟨g, r', ?_, hanswers⟩
      rw [Operation.action, Action.run_map, Action.run_format_of_serves sql hd hserves,
        Action.run_bind_of_error hg]
      rfl
  | @rendering payload dialect d data e s s' hd hread hload hstep =>
      have htree := run_fromPayload_of_tree level (q := q) hread hload
      have htask := run_engineTask_generate_of_reports level (q.resume s) rfl hstep
        hreports
      obtain ⟨g, r, hg, hanswers⟩ := run_translating_of_libraryReport htask hq "generate"
      refine ⟨g, r, ?_, hanswers⟩
      rw [Operation.action, Action.run_map, Action.run_generate_of_serves payload hd hserves,
        Action.run_bind_of_ok htree, hg]
      rfl
  | @parsingTranspile sql source target d s hd hstep =>
      obtain ⟨d', hd'⟩ := Option.ne_none_iff_exists'.mp (hnames target (by simp [Operation.dialects]))
      obtain ⟨a, p', j, hrun, ha⟩ :=
        Action.run_transpile_of_serves sql hd hd' hserves
      have htask := run_engineTask_transpile_of_parsing level d'
        (q := q.withJournal j) hstep hreports
      obtain ⟨g, r, hg, hanswers⟩ :=
        run_translating_of_libraryReport (ha.trans htask) hq "transpile"
      refine ⟨g, r, ?_, hanswers⟩
      rw [Operation.action, Action.run_map, hrun, hg]
      rfl
  | @renderingTranspile sql source target d d' nodes s hd hd' hstep hfirst =>
      obtain ⟨a, p', j, hrun, ha⟩ :=
        Action.run_transpile_of_serves sql hd hd' hserves
      obtain ⟨s', htask⟩ := run_engineTask_transpile_of_rendering level
        (q := q.withJournal j) hstep hfirst hreports
      obtain ⟨g, r, hg, hanswers⟩ :=
        run_translating_of_libraryReport (ha.trans htask) hq "transpile"
      refine ⟨g, r, ?_, hanswers⟩
      rw [Operation.action, Action.run_map, hrun, hg]
      rfl

/-- A session whose library parses three statements, the second of them empty, and misses a key when
it renders the third. -/
def missingKey : Session ScriptedLibrary.State (Node String) :=
  .inUse ((ScriptedLibrary.library "1.0" none).engine .refuse)
    ⟨[(.parse, [.ok (.list [ScriptedLibrary.treeValue "a", .null, ScriptedLibrary.treeValue "b"])]),
      (.render "b", [.error (.of .key "this")])], []⟩

theorem run_of_raises_missingKey :
    missingKey.errors = some .standard ∧
    Action.run Action.engine missingKey =
      (.ok ((ScriptedLibrary.library "1.0" none).engine .refuse), missingKey) ∧
    (∀ name ∈ (Operation.transpile "a; ; b" "generic" "mysql").dialects,
      Dialect.resolve? name ≠ none) ∧
    Raises (ScriptedLibrary.library "1.0" none) .refuse missingKey.world (.of .key "this")
      .rendering (.transpile "a; ; b" "generic" "mysql") ∧
    Phase.rendering.Reports (.of .key "this") ∧
    ∃ g r, Action.run (Operation.transpile "a; ; b" "generic" "mysql").action missingKey =
        (.error g, r) ∧
      Answers .rendering (.of .key "this") g := by
  have hgeneric : Dialect.resolve? "generic" = some .generic := by decide +kernel
  have hmysql : Dialect.resolve? "mysql" = some .mysql := by decide +kernel
  have hserves : Action.run Action.engine missingKey =
      (.ok ((ScriptedLibrary.library "1.0" none).engine .refuse), missingKey) :=
    Session.run_engine_inUse _ _
  have hnames : ∀ name ∈ (Operation.transpile "a; ; b" "generic" "mysql").dialects,
      Dialect.resolve? name ≠ none := by
    simp [Operation.dialects, hgeneric, hmysql]
  have hraises : Raises (ScriptedLibrary.library "1.0" none) .refuse missingKey.world
      (.of .key "this") .rendering (.transpile "a; ; b" "generic" "mysql") :=
    .renderingTranspile hgeneric hmysql rfl (.passes rfl (.skips (.fails rfl)))
  have hreports : Phase.rendering.Reports (.of .key "this") := by
    simp [Phase.Reports, Failure.isA, Failure.of, ErrorClass.isA, ErrorClass.ancestors,
      ErrorClass.generalAncestors, GeneralClass.ancestors, GeneralClass.lineage]
  exact ⟨rfl, hserves, hnames, hraises, hreports,
    run_of_raises (ScriptedLibrary.library "1.0" none) .refuse _ .rendering _ missingKey missingKey
      rfl hserves hnames hraises hreports⟩

end Library
end SqlDialects
