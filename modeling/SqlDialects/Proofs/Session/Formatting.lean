import SqlDialects.Proofs.Session.Naming
import SqlDialects.Proofs.Session.Reports
import SqlDialects.Proofs.Text.Splitting

/-!
# Laying out a text, statement by statement

Laying out a text parses it once and renders its trees one after the other.  It ends at the first
failure, and then nothing is left of what has been rendered before.

**Input.**  A session that obtains a scripted engine, any script, and a text that the engine parses.

**Specification.**  `Scripted.renderings` lists what rendering the next trees gives by the script.
`LaidOut` says what the operation gives from that, and how many of the trees it has rendered.

**Results.**
* `Action.run_generateAll_of_renders` and `Action.run_generateAll_of_fails`: rendering trees in order,
  up to the first failure, by induction on the trees.
* `Joined.intercalate`: what can be said of texts that are joined by the separator.
* `Action.run_format_laidOut`: what laying out gives, and the calls that the engine gets.
-/

namespace SqlDialects

/-! ## The specification -/

namespace Scripted

/-- What rendering the next trees gives by a script, one tree after the other. -/
def renderings : (trees : Nat) → Script Method → List (Except Failure String)
  | 0, _ => []
  | trees + 1, script =>
    (nextOr .generate (.text "") script).1.map Value.display
      :: renderings trees (nextOr .generate (.text "") script).2

theorem length_renderings
    (trees : Nat)
    (script : Script Method) :
    (renderings trees script).length = trees := by
  induction trees generalizing script with
  | zero => rfl
  | succ trees ih => simp [renderings, ih]

end Scripted

/-- A text that consists of laid out statements. -/
structure Joined (texts : List String) (text : String) : Prop where
  joined : text = "; \n".intercalate texts
  empty : texts = [] → text = ""
  length : texts ≠ [] →
    text.length = (texts.map String.length).sum + 3 * (texts.length - 1)
  /-- The text begins with the first statement. -/
  first : ∀ t rest, texts = t :: rest → ∃ after, text = t ++ after
  /-- The text ends with the last statement: no separator follows it. -/
  last : ∀ t before, texts = before ++ [t] → ∃ head, text = head ++ t
  /-- Splitting at the separator gives the statements, whatever they end in. -/
  split : texts ≠ [] → (∀ t ∈ texts, ¬ "; \n".toList <:+: t.toList) →
    Text.split "; \n" text = texts

/--
What laying out a text gives, from what rendering each of its trees gives, and how many trees are
rendered: all of them, or those up to the first failure.  Of a report of the engine callers get what
emerges with the registered error classes `errors`.
-/
inductive LaidOut (hosts : HostClasses) (errors : Option ErrorRegistry) :
    List (Except Failure String) → Except Failure String → (rendered : Nat) → Prop
  | all (texts : List String) (text : String) (h : Joined texts text) :
      LaidOut hosts errors (texts.map .ok) (.ok text) texts.length
  | reported (texts : List String) (f g : Failure) (rest : List (Except Failure String))
      (hreport : f.cls = .engine)
      (h : f.Emerges hosts errors (f.kind.getD .internal) g) :
      LaidOut hosts errors (texts.map .ok ++ .error f :: rest) (.error g) (texts.length + 1)
  | other (texts : List String) (f : Failure) (rest : List (Except Failure String))
      (h : f.cls ≠ .engine) :
      LaidOut hosts errors (texts.map .ok ++ .error f :: rest) (.error f) (texts.length + 1)

/-- Results are all texts, or there is a first failure. -/
theorem exists_texts (results : List (Except Failure String)) :
    (∃ texts : List String, results = texts.map .ok) ∨
    ∃ (texts : List String) (f : Failure) (rest : List (Except Failure String)),
      results = texts.map .ok ++ .error f :: rest := by
  induction results with
  | nil =>
      exact .inl ⟨[], rfl⟩
  | cons result results ih =>
      cases result with
      | error f =>
          exact .inr ⟨[], f, results, rfl⟩
      | ok text =>
          rcases ih with ⟨texts, rfl⟩ | ⟨texts, f, rest, rfl⟩
          · exact .inl ⟨text :: texts, rfl⟩
          · exact .inr ⟨text :: texts, f, rest, rfl⟩

/-- Statements that are joined by the separator. -/
theorem Joined.intercalate (texts : List String) :
    Joined texts (Action.statementSeparator.intercalate texts) where
  joined := rfl
  empty := by
    rintro rfl
    rfl
  length := Text.length_intercalate _
  first := by
    rintro t rest rfl
    exact Text.exists_intercalate_cons _ t rest
  last := by
    rintro t before rfl
    exact Text.exists_intercalate_concat _ t before
  split := Text.split_intercalate rfl (by decide)

/-! ## Rendering trees in order -/

namespace Scripted

/-- A call of a scripted engine is written down, whatever it is answered. -/
theorem run_answer
    (m : Method)
    (c : Call)
    (fallback : Value)
    (s : Scene State) :
    Task.run (answer m c fallback) s =
      ((nextOr m fallback s.state.script).1,
        ⟨⟨(nextOr m fallback s.state.script).2, s.state.calls ++ [c]⟩, s.records⟩) := by
  simp [answer, note, Task.run_bind]

variable (version : String) (report : Value → Except Failure Report)

/-- The state after a tree has been laid out. -/
def State.laidOut (s : State) (d : Dialect) (tree : Value) : State :=
  ⟨(nextOr .generate (.text "") s.script).2, s.calls ++ [.generate tree d true]⟩

theorem run_generate
    (d : Dialect)
    (tree : Value)
    (s : Scene State) :
    Task.run ((engine version report).generate tree d true) s =
      ((nextOr .generate (.text "") s.state.script).1.map Value.display,
        ⟨s.state.laidOut d tree, s.records⟩) := by
  simp only [engine, Task.run_bind, run_answer]
  cases (nextOr .generate (.text "") s.state.script).1 <;> rfl

theorem run_parse_of_ok
    {sql : String} {d : Dialect} {s : Scene State} {v : Value} {script : Script Method}
    (h : nextOr .parse (.list []) s.state.script = (.ok v, script)) :
    Task.run ((engine version report).parse sql d) s =
      (.ok (asList v), ⟨⟨script, s.state.calls ++ [.parse sql d]⟩, s.records⟩) := by
  simp only [engine, Task.run_bind, run_answer, h]
  rfl

end Scripted

namespace Action

variable (version : String) (report : Value → Except Failure Report)

/-- The calls that render trees, in order. -/
def renderingCalls (d : Dialect) (trees : List Value) : List Scripted.Call :=
  trees.map fun t => .generate t d true

/-- A tree is rendered by the script, and the call is written down. -/
theorem run_engineTask_generate
    (d : Dialect)
    (tree : Value)
    (q : Session Scripted.State Value) :
    ∃ j, run (engineTask ((Scripted.engine version report).generate tree d true)) q =
      ((Scripted.nextOr .generate (.text "") q.world.script).1.map Value.display,
        q.reworked (q.world.laidOut d tree) j) :=
  run_engineTask_of_world (Scripted.run_generate version report d tree _) rfl

/-- If every tree can be rendered, all of them are. -/
theorem run_generateAll_of_renders
    (d : Dialect)
    (trees : List Value)
    (texts : List String)
    (q : Session Scripted.State Value)
    (h : Scripted.renderings trees.length q.world.script = texts.map .ok) :
    ∃ script j, run (generateAll (Scripted.engine version report) d trees) q =
      (.ok texts, q.reworked ⟨script, q.world.calls ++ renderingCalls d trees⟩ j) := by
  induction trees generalizing texts q with
  | nil =>
      obtain rfl : texts = [] := List.map_eq_nil_iff.mp h.symm
      exact ⟨q.world.script, q.journal, by simp [generateAll, renderingCalls]; rfl⟩
  | cons tree trees ih =>
      obtain ⟨text, texts, rfl, htext, hrest⟩ := List.map_eq_cons_iff.mp h.symm
      obtain ⟨j, hj⟩ := run_engineTask_generate version report d tree q
      rw [← htext] at hj
      obtain ⟨script, j', hj'⟩ := ih texts (q.reworked (q.world.laidOut d tree) j) hrest.symm
      refine ⟨script, j', ?_⟩
      rw [generateAll, run_bind_of_ok hj, run_bind_of_ok hj']
      simp [Session.reworked, renderingCalls, Scripted.State.laidOut]

/-- If a tree cannot be rendered, neither it nor any tree after it adds to what is given. -/
theorem run_generateAll_of_fails
    (d : Dialect)
    (trees : List Value)
    (texts : List String)
    (f : Failure)
    (rest : List (Except Failure String))
    (q : Session Scripted.State Value)
    (h : Scripted.renderings trees.length q.world.script = texts.map .ok ++ .error f :: rest) :
    ∃ script j, run (generateAll (Scripted.engine version report) d trees) q =
      (.error f, q.reworked
        ⟨script, q.world.calls ++ renderingCalls d (trees.take (texts.length + 1))⟩ j) := by
  induction trees generalizing texts q with
  | nil =>
      simp [Scripted.renderings] at h
  | cons tree trees ih =>
      obtain ⟨j, hj⟩ := run_engineTask_generate version report d tree q
      cases texts with
      | nil =>
          obtain ⟨htree, -⟩ := List.cons.inj h
          rw [htree] at hj
          exact ⟨_, j, by rw [generateAll, run_bind_of_error hj]; rfl⟩
      | cons text texts =>
          obtain ⟨htree, hrest⟩ := List.cons.inj h
          rw [htree] at hj
          obtain ⟨script, j', hj'⟩ := ih texts (q.reworked (q.world.laidOut d tree) j) hrest
          refine ⟨script, j', ?_⟩
          rw [generateAll, run_bind_of_ok hj, run_bind_of_error hj']
          simp [Session.reworked, renderingCalls, Scripted.State.laidOut]

/-! ## The operation -/

/-- A text is parsed by the script, and the call is written down. -/
theorem run_engineTask_parse_of_ok
    (sql : String)
    (d : Dialect)
    {v : Value} {script : Scripted.Script Scripted.Method}
    {q : Session Scripted.State Value}
    (h : Scripted.nextOr .parse (.list []) q.world.script = (.ok v, script)) :
    ∃ s, run (engineTask ((Scripted.engine version report).parse sql d)) q =
        (.ok (Scripted.asList v), s) ∧
      s.world = ⟨script, q.world.calls ++ [.parse sql d]⟩ ∧
      s.errors = q.errors ∧ s.hosts = q.hosts := by
  obtain ⟨j, hj⟩ := run_engineTask_of_world
    (Scripted.run_parse_of_ok version report (s := q.scene) h) rfl
  exact ⟨_, hj, rfl, rfl, rfl⟩

/--
Laying out a text that the engine parses calls for one parse and then for its trees in order, each
once and in the pretty style of the resolved dialect, up to the first call that fails.  What it gives
is `LaidOut`: the texts of all trees joined, or the failure of the last call and nothing else.
-/
theorem run_format_laidOut
    (sql dialect : String)
    (d : Dialect)
    (v : Value)
    (script : Scripted.Script Scripted.Method)
    (p q : Session Scripted.State Value)
    (hd : Dialect.resolve? dialect = some d)
    (hserves : run engine p = (.ok (Scripted.engine version report), q))
    (hparse : Scripted.nextOr .parse (.list []) q.world.script = (.ok v, script)) :
    ∃ result rendered r, run (format sql dialect) p = (result, r) ∧
      r.world.calls = q.world.calls ++
        .parse sql d :: renderingCalls d ((Scripted.asList v).take rendered) ∧
      LaidOut p.hosts p.errors (Scripted.renderings (Scripted.asList v).length script) result rendered := by
  obtain ⟨s, hs, hworld, herrors, hhosts⟩ := run_engineTask_parse_of_ok version report sql d hparse
  have hscript : script = s.world.script := by rw [hworld]
  have hcalls : s.world.calls = q.world.calls ++ [.parse sql d] := by rw [hworld]
  rw [run_format_of_serves sql hd hserves, hscript]
  rcases exists_texts (Scripted.renderings (Scripted.asList v).length s.world.script) with
    ⟨texts, htexts⟩ | ⟨texts, f, rest, htexts⟩
  · obtain ⟨script', j, hj⟩ :=
      run_generateAll_of_renders version report d (Scripted.asList v) texts s htexts
    have hall := run_translating_of_ok ((run_bind_of_ok hs _).trans hj) "format"
    have hlength : texts.length = (Scripted.asList v).length := by
      simpa [Scripted.length_renderings] using (congrArg List.length htexts).symm
    refine ⟨_, texts.length, _, run_bind_of_ok hall _, ?_, htexts ▸ .all texts _ (.intercalate _)⟩
    simp [Session.reworked, hcalls, hlength]
  · obtain ⟨script', j, hj⟩ :=
      run_generateAll_of_fails version report d (Scripted.asList v) texts f rest s htexts
    have hfails := (run_bind_of_ok hs _).trans hj
    rw [htexts]
    by_cases hreport : f.cls = .engine
    · obtain ⟨j', hj'⟩ := run_translating_of_report hfails hreport "format"
      refine ⟨_, texts.length + 1, _, run_bind_of_error hj' _, ?_, ?_⟩
      · simp [Session.reworked, Session.withJournal, hcalls]
      · rw [← errors_of_run_engine hserves, ← hosts_of_run_engine hserves, ← herrors, ← hhosts]
        exact .reported texts f _ rest hreport (Failure.emerges_emerging _ _ f)
    · have hother := run_translating_of_other hfails hreport "format"
      refine ⟨_, texts.length + 1, _, run_bind_of_error hother _, ?_, .other texts f rest hreport⟩
      simp [Session.reworked, hcalls]

/-- A session whose scripted engine is in use, with what it answers when it parses and renders. -/
def scriptedSession (trees : List Value) (answers : List Scripted.Answer) :
    Session Scripted.State Value :=
  Scripted.served [(.parse, [.ok (.list trees)]), (.generate, answers)]

/-- Two statements, the first of which ends like a separator begins. -/
theorem run_format_laidOut_semicolons :
    Dialect.resolve? "mysql" = some .mysql ∧
    ∃ result rendered r,
      run (format "a; b" "mysql")
        (scriptedSession [.text "a", .text "b"] [.ok (.text "A; "), .ok (.text "B;")]) =
        (result, r) ∧
      r.world.calls =
        .parse "a; b" .mysql :: renderingCalls .mysql ([.text "a", .text "b"].take rendered) ∧
      LaidOut .plain (some .standard) [.ok "A; ", .ok "B;"] result rendered := by
  have hmysql : Dialect.resolve? "mysql" = some .mysql := Dialect.resolve?_name .mysql
  have hserves := Scripted.run_engine_served
    [(.parse, [.ok (.list [.text "a", .text "b"])]),
      (.generate, [.ok (.text "A; "), .ok (.text "B;")])]
  exact ⟨hmysql, run_format_laidOut _ _ "a; b" "mysql" .mysql (.list [.text "a", .text "b"]) _ _ _
    hmysql hserves rfl⟩

/-- A failure that is no report of the engine ends the rendering just as well, and it is given as it
is: the second tree is not rendered, although the engine has reported nothing. -/
theorem run_format_of_missingKey :
    (Failure.of .key "k").cls ≠ .engine ∧
    (run (format "a; b" "mysql")
      (scriptedSession [.text "a", .text "b"] [.error (.of .key "k"), .ok (.text "B")])).1 =
      .error (.of .key "k") ∧
    (run (format "a; b" "mysql")
      (scriptedSession [.text "a", .text "b"]
        [.error (.of .key "k"), .ok (.text "B")])).2.world.calls ≠
      .parse "a; b" .mysql :: renderingCalls .mysql [.text "a", .text "b"] := by
  have hmysql : Dialect.resolve? "mysql" = some .mysql := Dialect.resolve?_name .mysql
  have hcalls : (run (format "a; b" "mysql")
      (scriptedSession [.text "a", .text "b"]
        [.error (.of .key "k"), .ok (.text "B")])).2.world.calls =
      .parse "a; b" .mysql :: renderingCalls .mysql [.text "a"] := by
    rw [format, run_resolve_bind_of_some hmysql]
    rfl
  refine ⟨by decide, ?_, ?_⟩
  · rw [format, run_resolve_bind_of_some hmysql]
    rfl
  · intro hall
    have hlength := congrArg List.length (hcalls.symm.trans hall)
    exact absurd hlength (by decide)

end Action
end SqlDialects
