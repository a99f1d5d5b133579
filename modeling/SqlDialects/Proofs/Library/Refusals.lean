import SqlDialects.Proofs.Json.Finishing
import SqlDialects.Proofs.Library.Classification
import SqlDialects.Proofs.Session.Payload

/-!
# Payloads that are refused

A payload is read and what is read is handed to the engine to load.  Both may go wrong, and in
either case the caller gets a report of malformed interchange text, never one of bad SQL.

**Input.**  Any text, and an engine that loads what it is given or fails as payloads fail.  The
engine of a library is such an engine if its library loads or fails in one of the classes that mean
that data describe no tree.

**View.**  `Failure.refusal` is the report, `Action.Taken` what becomes of a payload, with the state
that the engine leaves, and `Library.Loading` what the engine of a library makes of data.

**Results.**
* `Action.taken_fromPayload`: each payload comes to one of three ends.
* `Action.Taken.admits`: every failure is a report of malformed interchange text, and the engine
  loads what is read once.
* `Library.generated_generate`: an operation that renders a payload with the engine of a library
  ends so as well, or renders a tree.
* `payloadGate`: all of it together.
-/

namespace SqlDialects

/-- The report of malformed interchange text that something causes. -/
def Failure.refusal (cause : Failure) : Failure :=
  (Failure.of .boundary ("JSON deserialization error: " ++ cause.text)).causedBy cause

/-- A text is not read for a reason that means that it is no JSON. -/
theorem Json.Fault.isAnyOf_failure
    (cs : List Char)
    (fault : Json.Fault) :
    (fault.failure cs).isAnyOf Action.conversionClasses = true := by
  cases fault <;> rfl

namespace Action

variable {σ α β : Type}

/-- What becomes of a payload in a session, and the session that is left. -/
inductive Taken (e : Engine σ α) (payload : String) (p : Session σ α) :
    Except Failure α → Session σ α → Prop
  /-- It is not read, and the engine is not asked. -/
  | unread {fault : Json.Fault}
      (hread : Json.read payload = .error fault) :
      Taken e payload p (.error (fault.failure payload.toList).refusal) p
  /-- The engine loads what is read. -/
  | loaded {data : Json} {tree : α} {s : Scene σ}
      (hread : Json.read payload = .ok data)
      (hload : Task.run (e.load data) p.scene = (.ok tree, s)) :
      Taken e payload p (.ok tree) (p.resume s)
  /-- The engine rejects what is read. -/
  | rejected {data : Json} {f : Failure} {s : Scene σ} {j : Log.Journal}
      (hread : Json.read payload = .ok data)
      (hload : Task.run (e.load data) p.scene = (.error f, s))
      (hclass : f.isA .payload = true) :
      Taken e payload p (.error f.refusal) ((p.resume s).withJournal j)

theorem taken_fromPayload
    {e : Engine σ α} {p : Session σ α} {registry : ErrorRegistry}
    (herrors : p.errors = some registry)
    (hload : ∀ data f, (Task.run (e.load data) p.scene).1 = .error f → f.isA .payload = true)
    (payload : String) :
    Taken e payload p (run (fromPayload e payload) p).1 (run (fromPayload e payload) p).2 := by
  cases hread : Json.read payload with
  | error fault =>
      have hrun : run (fromPayload e payload) p =
          (.error (fault.failure payload.toList).refusal, p) := by
        simp only [fromPayload, hread, failMalformed, malformed, run_bind, run_get, run_pure,
          run_throw, herrors]
        rfl
      rw [hrun]
      exact .unread hread
  | ok data =>
      rcases hrun : Task.run (e.load data) p.scene with ⟨f | tree, s⟩
      · have hclass : f.isA .payload = true := hload data f (by rw [hrun])
        obtain ⟨j, hj⟩ := run_fromPayload_of_rejected hread (run_engineTask_of_run hrun) hclass
        have hreport : boundaryFailure (p.resume s).errors (deserializationError ++ f.text) =
            .of .boundary ("JSON deserialization error: " ++ f.text) := by
          rw [Session.resume_errors, herrors]
          rfl
        rw [hj, hreport]
        exact .rejected hread hrun hclass
      · rw [run_fromPayload_of_load hread (run_engineTask_of_run hrun)]
        exact .loaded hread hrun

/-- What a payload comes to. -/
structure Admits (e : Engine σ α) (payload : String) (p : Session σ α) (r : Except Failure α)
    (q : Session σ α) : Prop where
  taken : Taken e payload p r q
  /-- A failure is a report of malformed interchange text. -/
  boundary : ∀ {f : Failure}, r = .error f →
    f.cls = .boundary ∧ f.isA .parse = false ∧
      ∃ cause, f.cause = some cause ∧ f.text = "JSON deserialization error: " ++ cause.text ∧
        (cause.isAnyOf conversionClasses = true ∨ cause.isA .payload = true)
  /-- The engine has loaded what is read, once, and nothing if nothing is read. -/
  calls : ∀ {notes : σ → List Json},
    (∀ data s, notes (Task.run (e.load data) s).2.state = notes s.state ++ [data]) →
    notes q.world = notes p.world ++ (Json.read payload).toOption.toList

theorem Taken.admits
    {e : Engine σ α} {payload : String} {p q : Session σ α} {r : Except Failure α}
    (h : Taken e payload p r q) :
    Admits e payload p r q where
  taken := h
  boundary := by
    intro f hf
    cases h with
    | unread hread =>
        cases hf
        exact ⟨rfl, rfl, _, rfl, rfl, .inl (Json.Fault.isAnyOf_failure _ _)⟩
    | loaded hread hload =>
        cases hf
    | rejected hread hload hclass =>
        cases hf
        exact ⟨rfl, rfl, _, rfl, rfl, .inr hclass⟩
  calls := by
    intro notes hnotes
    cases h with
    | unread hread =>
        rw [hread]
        exact (List.append_nil _).symm
    | @loaded data tree s hread hload =>
        have hnoted := hnotes data p.scene
        rw [hload] at hnoted
        rw [hread]
        exact hnoted
    | @rejected data f s j hread hload hclass =>
        have hnoted := hnotes data p.scene
        rw [hload] at hnoted
        rw [hread]
        exact hnoted

end Action

namespace Library

variable {τ ε : Type} {lib : Library τ ε} {level : UnsupportedLevel}

/-! ## The engine of a library -/

/-- What the engine of a library makes of data, and the scene that the library leaves. -/
inductive Loading (lib : Library τ ε) (data : Json) (s : Scene τ) :
    Except Failure (Node ε) → Scene τ → Prop
  | tree {e : ε} {s' : Scene τ}
      (h : Task.run (lib.load data) s = (.ok (.tree e), s')) :
      Loading lib data s (.ok (.tree e)) s'
  /-- What the library loads is no tree. -/
  | stray {v : Value} {s' : Scene τ}
      (h : Task.run (lib.load data) s = (.ok (.other v), s')) :
      Loading lib data s
        (.error (.of .payload
          ("payload does not describe a SQL expression (got " ++ v.kindName ++ ")"))) s'
  | failed {f : Failure} {s' : Scene τ}
      (h : Task.run (lib.load data) s = (.error f, s')) :
      Loading lib data s
        (.error ((Failure.of .payload (f.cls.label ++ ": " ++ f.text)).causedBy f)) s'

theorem loading_loadTree
    {data : Json} {s : Scene τ}
    (hload : ∀ f, (Task.run (lib.load data) s).1 = .error f → f.isAnyOf loadFailures = true) :
    Loading lib data s (Task.run (loadTree lib data) s).1 (Task.run (loadTree lib data) s).2 := by
  rcases hrun : Task.run (lib.load data) s with ⟨f | _ | v, s'⟩
  · have hclass : f.isAnyOf loadFailures = true := hload f (by rw [hrun])
    simp only [loadTree, Task.run_bind, Task.run_outcome, hrun, hclass, if_true, Task.run_throw]
    exact .failed hrun
  · simp only [loadTree, Task.run_bind, Task.run_outcome, hrun, Task.run_pure]
    exact .tree hrun
  · simp only [loadTree, Task.run_bind, Task.run_outcome, hrun, Task.run_throw]
    exact .stray hrun

/-- Whatever the engine of a library does not load it rejects as payloads are rejected. -/
theorem isA_payload_of_loading
    {s : Scene τ}
    (h : ∀ data, Loading lib data s (Task.run ((lib.engine level).load data) s).1
      (Task.run ((lib.engine level).load data) s).2)
    (data : Json)
    (f : Failure)
    (hf : (Task.run ((lib.engine level).load data) s).1 = .error f) :
    f.isA .payload = true := by
  have hloading := h data
  rw [hf] at hloading
  cases hloading <;> rfl

theorem Loading.exists_tree
    {data : Json} {s s' : Scene τ} {n : Node ε}
    (h : Loading lib data s (.ok n) s') :
    ∃ e, n = .tree e := by
  cases h
  exact ⟨_, rfl⟩

/-- How an operation that renders a payload ends, from the session on in which it has its engine. -/
inductive Generated (lib : Library τ ε) (level : UnsupportedLevel) (payload : String) (d : Dialect)
    (p : Session τ (Node ε)) : Except Failure String → Session τ (Node ε) → Prop
  | refused {f : Failure} {q : Session τ (Node ε)}
      (h : Action.Admits (lib.engine level) payload p (.error f) q) :
      Generated lib level payload d p (.error f) q
  /-- What is rendered is a tree. -/
  | rendered {e : ε} {q q' : Session τ (Node ε)} {r : Except Failure String}
      (h : Action.Admits (lib.engine level) payload p (.ok (.tree e)) q)
      (hrun : Action.run (Action.translating "generate"
        (Action.engineTask ((lib.engine level).generate (.tree e) d false))) q = (r, q')) :
      Generated lib level payload d p r q'

theorem generated_generate
    {payload dialect : String} {d : Dialect} {p q : Session τ (Node ε)} {registry : ErrorRegistry}
    (herrors : p.errors = some registry)
    (hd : Dialect.resolve? dialect = some d)
    (hserves : Action.run Action.engine p = (.ok (lib.engine level), q))
    (hload : ∀ data, Loading lib data q.scene (Task.run ((lib.engine level).load data) q.scene).1
      (Task.run ((lib.engine level).load data) q.scene).2) :
    Generated lib level payload d q (Action.run (Action.generate payload dialect) p).1
      (Action.run (Action.generate payload dialect) p).2 := by
  have hkept : q.errors = some registry := (Action.errors_of_run_engine hserves).trans herrors
  have htaken := Action.taken_fromPayload hkept (isA_payload_of_loading hload) payload
  rw [Action.run_generate_of_serves payload hd hserves, Action.run_bind]
  rcases hrun : Action.run (Action.fromPayload (lib.engine level) payload) q with ⟨f | n, q'⟩
  · rw [hrun] at htaken
    exact .refused htaken.admits
  · rw [hrun] at htaken
    obtain ⟨e, rfl⟩ : ∃ e, n = .tree e := by
      cases htaken with
      | @loaded data tree s hread hloaded =>
          have hloading := hload data
          rw [hloaded] at hloading
          exact hloading.exists_tree
    exact .rendered htaken.admits rfl

end Library

/-- What stands between payloads and the engines that are to load them. -/
structure PayloadGate (σ α τ ε : Type) : Prop where
  /-- Reading comes to an end: a bound on its steps beyond what the text needs plays no part. -/
  ends : ∀ (payload : String) {fuel : Nat}, 2 * payload.toList.length < fuel →
    Json.readWithin fuel payload.toList = Json.read payload
  /-- With an engine that loads or rejects. -/
  engine : ∀ {e : Engine σ α} {p : Session σ α} {registry : ErrorRegistry},
    p.errors = some registry →
    (∀ data f, (Task.run (e.load data) p.scene).1 = .error f → f.isA .payload = true) →
    ∀ payload, Action.Admits e payload p (Action.run (Action.fromPayload e payload) p).1
      (Action.run (Action.fromPayload e payload) p).2
  /-- With the engine of a library that loads or fails in a class of failures of loading. -/
  library : ∀ {lib : Library τ ε} {level : UnsupportedLevel} {dialect : String} {d : Dialect}
    {p q : Session τ (Node ε)} {registry : ErrorRegistry},
    p.errors = some registry →
    Dialect.resolve? dialect = some d →
    Action.run Action.engine p = (.ok (lib.engine level), q) →
    (∀ data f, (Task.run (lib.load data) q.scene).1 = .error f →
      f.isAnyOf Library.loadFailures = true) →
    (∀ data, Library.Loading lib data q.scene (Task.run ((lib.engine level).load data) q.scene).1
      (Task.run ((lib.engine level).load data) q.scene).2) ∧
    ∀ payload, Library.Generated lib level payload d q
      (Action.run (Action.generate payload dialect) p).1
      (Action.run (Action.generate payload dialect) p).2

/--
Whatever text is handed over as a payload, it is read to an end, and what comes of it is what the
engine loads or a report of malformed interchange text that names what was wrong and is caused by
it.  The engine loads what is read, once.  With the engine of a library the same holds of an
operation that renders, and what it renders is a tree.
-/
theorem payloadGate (σ α τ ε : Type) :
    PayloadGate σ α τ ε where
  ends _ _ h := Json.readWithin_eq_readChars h
  engine herrors hload payload := (Action.taken_fromPayload herrors hload payload).admits
  library := by
    intro lib level dialect d p q registry herrors hd hserves hload
    have hloading : ∀ data, Library.Loading lib data q.scene
        (Task.run ((lib.engine level).load data) q.scene).1
        (Task.run ((lib.engine level).load data) q.scene).2 :=
      fun data => Library.loading_loadTree (hload data)
    exact ⟨hloading, fun payload => Library.generated_generate herrors hd hserves hloading⟩

/-- A library whose answers are written down. -/
abbrev writtenLibrary : Library ScriptedLibrary.State String :=
  ScriptedLibrary.library "1.0" none

/-- A session whose library misses a key in what it is to load. -/
def unloadable : Session ScriptedLibrary.State (Node String) :=
  .inUse (writtenLibrary.engine .refuse) ⟨[(.load, [.error (.of .key "this")])], []⟩

theorem payloadGate_unloadable :
    2 * "[1, ".toList.length < 9 ∧
    unloadable.errors = some .standard ∧
    Dialect.resolve? "mysql" = some .mysql ∧
    Action.run Action.engine unloadable = (.ok (writtenLibrary.engine .refuse), unloadable) ∧
    (∀ data f, (Task.run (writtenLibrary.load data) unloadable.scene).1 = .error f →
      f.isAnyOf Library.loadFailures = true) ∧
    Json.readWithin 9 "[1, ".toList = Json.read "[1, " ∧
    (∀ payload, Action.Admits (writtenLibrary.engine .refuse) payload unloadable
      (Action.run (Action.fromPayload (writtenLibrary.engine .refuse) payload) unloadable).1
      (Action.run (Action.fromPayload (writtenLibrary.engine .refuse) payload) unloadable).2) ∧
    (∀ payload, Library.Generated writtenLibrary .refuse payload .mysql unloadable
      (Action.run (Action.generate payload "mysql") unloadable).1
      (Action.run (Action.generate payload "mysql") unloadable).2) ∧
    ∃ f q, Action.run (Action.generate "[]" "mysql") unloadable = (.error f, q) ∧
      f.text = "JSON deserialization error: KeyError: 'this'" := by
  have hgate := payloadGate ScriptedLibrary.State (Node String) ScriptedLibrary.State String
  have hd : Dialect.resolve? "mysql" = some .mysql := by decide +kernel
  have hserves : Action.run Action.engine unloadable =
      (.ok (writtenLibrary.engine .refuse), unloadable) := Session.run_engine_inUse _ _
  have hload : ∀ data f, (Task.run (writtenLibrary.load data) unloadable.scene).1 = .error f →
      f.isAnyOf Library.loadFailures = true := by
    intro data f hf
    cases hf
    rfl
  obtain ⟨hloading, hgenerated⟩ := hgate.library rfl hd hserves hload
  refine ⟨by decide, rfl, hd, hserves, hload, hgate.ends "[1, " (by decide),
    hgate.engine rfl (Library.isA_payload_of_loading hloading), hgenerated, ?_⟩
  have hread : Json.read "[]" = .ok (.array []) := by cbv
  have hloaded : Action.run
      (Action.engineTask ((writtenLibrary.engine .refuse).load (.array []))) unloadable =
      (.error ((Failure.of .payload "KeyError: 'this'").causedBy (.of .key "this")), _) := rfl
  obtain ⟨j, hj⟩ := Action.run_fromPayload_of_rejected hread hloaded rfl
  rw [Action.run_generate_of_serves "[]" hd hserves, Action.run_bind_of_error hj]
  exact ⟨_, _, rfl, rfl⟩

end SqlDialects
