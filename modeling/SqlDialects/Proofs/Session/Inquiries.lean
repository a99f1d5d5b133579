import SqlDialects.Proofs.Session.Confinement
import SqlDialects.Proofs.Session.Payload

/-!
# What an engine is asked

Any engine can be made to write down what it is asked about SQL, next to its own state.  What is
written down while an action runs says in which dialects the action has the engine work.

**View.**  `Engine.heard` is the engine that writes its inquiries down.  Dumping and loading trees
names no dialect, so neither is an inquiry.

**Specification.**  `Action.Asks` says what an action asks: some given inquiries, then only inquiries
of a kind.  `Operation.opening?` is what an operation asks first.

**Results.**
* `Action.Asks.bind`: how the inquiries of a sequence add up.
* `Operation.exists_asked_of_onEngine`: an operation asks in the dialect that it is given and in no
  other, beginning with its opening.
-/

namespace SqlDialects

/-- What an engine is asked about SQL. -/
inductive Inquiry (α : Type) where
  | transpile (sql : String) (source target : Dialect)
  | parse (sql : String) (dialect : Dialect)
  | parseOne (sql : String) (dialect : Dialect)
  | generate (tree : α) (dialect : Dialect) (pretty : Bool)
  | validate (sql : String) (dialect : Dialect)
deriving DecidableEq

/-- The dialects that an inquiry names. -/
def Inquiry.dialects {α : Type} : Inquiry α → List Dialect
  | .transpile _ source target => [source, target]
  | .parse _ d | .parseOne _ d | .generate _ d _ | .validate _ d => [d]

/-- The inquiry names the dialect and no other. -/
def Inquiry.IsIn {α : Type} (d : Dialect) (x : Inquiry α) : Prop :=
  ∀ d' ∈ x.dialects, d' = d

theorem Inquiry.isIn_of_dialects
    {α : Type} {x : Inquiry α} {d : Dialect}
    (h : x.dialects = [d]) :
    x.IsIn d := by
  intro d' hd'
  rw [h] at hd'
  exact List.mem_singleton.mp hd'

/-! ## Engines that are heard -/

namespace Task

variable {σ α β : Type}

/-- The task, next to a list of inquiries. -/
def beside (t : Task σ β) : Task (σ × List (Inquiry α)) β :=
  ExceptT.mk fun s =>
    let (outcome, scene) := run t ⟨s.state.1, s.records⟩
    (outcome, ⟨(scene.state, s.state.2), scene.records⟩)

/-- The task, after its inquiry has been written down. -/
def heard (x : Inquiry α) (t : Task σ β) : Task (σ × List (Inquiry α)) β := do
  onState fun (w, heard) => ((), (w, heard ++ [x]))
  t.beside

theorem run_heard (x : Inquiry α) (t : Task σ β) (s : Scene (σ × List (Inquiry α))) :
    run (t.heard x) s =
      ((run t ⟨s.state.1, s.records⟩).1,
        ⟨((run t ⟨s.state.1, s.records⟩).2.state, s.state.2 ++ [x]),
          (run t ⟨s.state.1, s.records⟩).2.records⟩) := by
  rw [heard, run_bind, run_onState]
  rfl

end Task

/-- The engine, writing down what it is asked before it does it. -/
def Engine.heard {σ α : Type} (e : Engine σ α) : Engine (σ × List (Inquiry α)) α :=
  { kind := e.kind
    level := e.level
    version := e.version.beside
    transpile := fun sql source target =>
      (e.transpile sql source target).heard (.transpile sql source target)
    parse := fun sql d => (e.parse sql d).heard (.parse sql d)
    parseOne := fun sql d => (e.parseOne sql d).heard (.parseOne sql d)
    generate := fun tree d pretty => (e.generate tree d pretty).heard (.generate tree d pretty)
    validate := fun sql d => (e.validate sql d).heard (.validate sql d)
    dump := fun tree => (e.dump tree).beside
    load := fun data => (e.load data).beside }

/-- The tree that an engine loads of a payload, if there is one. -/
def Engine.loads? {σ α : Type} (e : Engine σ α) (w : σ) (payload : String) : Option α :=
  match Json.read payload with
  | .ok data => (Task.run (e.load data) ⟨w, []⟩).1.toOption
  | .error _ => none

/-! ## How inquiries add up -/

namespace Action

variable {σ α β γ : Type}

/-- While the action runs the engine is asked what is given, then only things of a kind. -/
def Asks (opening : List (Inquiry α)) (P : Inquiry α → Prop)
    (a : Action (σ × List (Inquiry α)) α β) : Prop :=
  ∀ p, ∃ rest, (run a p).2.world.2 = p.world.2 ++ (opening ++ rest) ∧ ∀ x ∈ rest, P x

section Algebra

variable {opening : List (Inquiry α)} {P : Inquiry α → Prop}
  {a : Action (σ × List (Inquiry α)) α β}
  {f : β → Action (σ × List (Inquiry α)) α γ}

/-- What leaves the list of inquiries as it is asks nothing. -/
theorem asks_of_same
    (h : ∀ p, (run a p).2.world.2 = p.world.2) :
    Asks [] P a :=
  fun p => ⟨[], by rw [h, List.append_nil, List.append_nil], by simp⟩

theorem asks_pure (b : β) :
    Asks [] P (pure b : Action (σ × List (Inquiry α)) α β) :=
  asks_of_same fun _ => rfl

theorem asks_throw (f : Failure) :
    Asks [] P (throw f : Action (σ × List (Inquiry α)) α β) :=
  asks_of_same fun _ => rfl

theorem asks_ofExcept (e : Except Failure β) :
    Asks [] P (ofExcept e : Action (σ × List (Inquiry α)) α β) :=
  asks_of_same fun _ => rfl

theorem asks_log (r : Log.Record) :
    Asks [] P (log r : Action (σ × List (Inquiry α)) α Unit) :=
  asks_of_same fun _ => rfl

theorem asks_beside (t : Task σ β) :
    Asks [] P (engineTask t.beside : Action (σ × List (Inquiry α)) α β) :=
  asks_of_same fun _ => rfl

theorem asks_heard (x : Inquiry α) (t : Task σ β) :
    Asks [x] P (engineTask (t.heard x) : Action (σ × List (Inquiry α)) α β) := by
  intro p
  refine ⟨[], ?_, by simp⟩
  rw [run_engineTask, Task.run_heard]
  rfl

/-- What comes first is of the kind, too. -/
theorem Asks.forget
    (h : Asks opening P a)
    (hopening : ∀ x ∈ opening, P x) :
    Asks [] P a := by
  intro p
  obtain ⟨rest, hrest, hP⟩ := h p
  exact ⟨opening ++ rest, hrest, List.forall_mem_append.mpr ⟨hopening, hP⟩⟩

theorem Asks.outcome
    (h : Asks opening P a) :
    Asks opening P (outcome a) :=
  h

theorem Asks.bind
    (ha : Asks opening P a)
    (hf : ∀ b, Asks [] P (f b)) :
    Asks opening P (a >>= f) := by
  intro p
  obtain ⟨rest, hrest, hP⟩ := ha p
  rcases hrun : run a p with ⟨e | b, q⟩ <;> rw [hrun] at hrest
  · exact ⟨rest, by rw [run_bind_of_error hrun, hrest], hP⟩
  · obtain ⟨more, hmore, hP'⟩ := hf b q
    refine ⟨rest ++ more, ?_, List.forall_mem_append.mpr ⟨hP, hP'⟩⟩
    rw [run_bind_of_ok hrun, hmore, hrest]
    simp only [List.nil_append, List.append_assoc]

theorem Asks.map
    (h : Asks opening P a)
    (g : β → γ) :
    Asks opening P (g <$> a) := by
  rw [map_eq_pure_bind]
  exact h.bind fun b => asks_pure (g b)

theorem asks_translated (kind : FaultKind) (message : String) :
    Asks [] P (translated kind message : Action (σ × List (Inquiry α)) α Failure) := by
  refine asks_of_same fun p => ?_
  obtain ⟨j, hj⟩ := run_translated kind message p
  rw [hj]
  rfl

theorem asks_failMalformed (what : String) (cause : Failure) :
    Asks [] P (failMalformed what cause : Action (σ × List (Inquiry α)) α β) :=
  asks_of_same fun _ => rfl

theorem Asks.translating
    (h : Asks opening P a)
    (operation : String) :
    Asks opening P (translating operation a) := by
  refine h.outcome.bind fun r => ?_
  cases r with
  | ok b =>
      exact asks_pure b
  | error e =>
      dsimp only
      split
      · exact (asks_log _).bind fun _ => (asks_translated _ _).bind fun _ => asks_throw _
      · exact asks_throw e

theorem Asks.writing
    (h : Asks opening P a) :
    Asks opening P (writing a) := by
  refine h.outcome.bind fun r => ?_
  cases r with
  | ok b =>
      exact asks_pure b
  | error e =>
      dsimp only
      split
      · exact asks_failMalformed _ e
      · exact asks_throw e

end Algebra

/-! ## Trees -/

section Trees

variable {P : Inquiry α → Prop} (e : Engine σ α)

theorem asks_dumpAll (trees : List α) :
    Asks [] P (dumpAll e.heard trees) := by
  induction trees with
  | nil =>
      exact asks_pure []
  | cons t ts ih =>
      exact (asks_beside (e.dump t)).bind fun _ => ih.bind fun _ => asks_pure _

theorem asks_toPayload (tree : α) :
    Asks [] P (toPayload e.heard tree) :=
  ((asks_beside (e.dump tree)).bind fun _ => asks_ofExcept _).writing

theorem asks_toPayloadMany (trees : List α) :
    Asks [] P (toPayloadMany e.heard trees) :=
  ((asks_dumpAll e trees).bind fun _ => asks_ofExcept _).writing

theorem asks_generateAll (d : Dialect) (trees : List α) :
    Asks [] (Inquiry.IsIn d) (generateAll e.heard d trees) := by
  induction trees with
  | nil =>
      exact asks_pure []
  | cons t ts ih =>
      have htree : Asks [] (Inquiry.IsIn d) (engineTask (e.heard.generate t d true)) :=
        (asks_heard _ (e.generate t d true)).forget
          (List.forall_mem_singleton.mpr (Inquiry.isIn_of_dialects rfl))
      exact htree.bind fun _ => ih.bind fun _ => asks_pure _

theorem asks_fromPayload (payload : String) :
    Asks [] P (fromPayload e.heard payload) := by
  unfold fromPayload
  cases Json.read payload with
  | error fault =>
      exact asks_failMalformed _ _
  | ok data =>
      refine (asks_beside (e.load data)).outcome.bind fun r => ?_
      cases r with
      | ok tree =>
          exact asks_pure tree
      | error f =>
          dsimp only
          split
          · exact (asks_log _).bind fun _ => asks_failMalformed _ f
          · exact asks_throw f

/-- A payload gives the tree that the engine loads, if there is one. -/
theorem toOption_run_fromPayload
    (payload : String)
    (q : Session (σ × List (Inquiry α)) α) :
    (run (fromPayload e.heard payload) q).1.toOption = e.loads? q.world.1 payload := by
  unfold Engine.loads?
  cases hread : Json.read payload with
  | error fault =>
      rw [fromPayload, hread]
      rfl
  | ok data =>
      dsimp only
      obtain ⟨r, htask⟩ : ∃ r, run (engineTask (e.heard.load data)) q =
          ((Task.run (e.load data) ⟨q.world.1, []⟩).1, r) := ⟨_, rfl⟩
      rcases hload : (Task.run (e.load data) ⟨q.world.1, []⟩).1 with f | tree
      all_goals rw [hload] at htask
      · cases hrejected : f.isA .payload with
        | true =>
            obtain ⟨j, hj⟩ := run_fromPayload_of_rejected hread htask hrejected
            rw [hj]
            rfl
        | false =>
            rw [run_fromPayload_of_other hread htask hrejected]
      · rw [run_fromPayload_of_load hread htask]

end Trees
end Action

/-! ## Operations -/

namespace Operation

variable {σ α : Type}

/-- What an operation asks first when its names stand for one dialect.  A payload is loaded before
anything is asked. -/
def opening? (e : Engine σ α) (w : σ) (d : Dialect) : Operation → Option (Inquiry α)
  | .transpile sql _ _ => some (.transpile sql d d)
  | .parse sql _ | .format sql _ => some (.parse sql d)
  | .parseOne sql _ => some (.parseOne sql d)
  | .generate payload _ => (e.loads? w payload).map fun tree => .generate tree d false
  | .validate sql _ => some (.validate sql d)

/-- An action that opens with an inquiry in a dialect asks in that dialect. -/
theorem exists_asked_of_asks
    {β : Type} {a : Action (σ × List (Inquiry α)) α β} {d : Dialect} {first : Inquiry α}
    (h : a.Asks [first] (Inquiry.IsIn d))
    (hfirst : first.IsIn d)
    (q : Session (σ × List (Inquiry α)) α) :
    ∃ asked, (Action.run a q).2.world.2 = q.world.2 ++ asked ∧
      (∀ x ∈ asked, x.IsIn d) ∧ asked.head? = some first := by
  obtain ⟨rest, hrest, hin⟩ := h q
  exact ⟨first :: rest, hrest, List.forall_mem_cons.mpr ⟨hfirst, hin⟩, rfl⟩

open SqlDialects.Action in
/--
All that an operation asks an engine is asked in the dialect that its names stand for, and what it
asks first is its opening; without one it asks nothing.
-/
theorem exists_asked_of_onEngine
    (e : Engine σ α)
    (op : Operation)
    {d : Dialect}
    (hd : ∀ name ∈ op.dialects, Dialect.resolve? name = some d)
    (q : Session (σ × List (Inquiry α)) α) :
    ∃ asked, (run (op.onEngine e.heard) q).2.world.2 = q.world.2 ++ asked ∧
      (∀ x ∈ asked, x.IsIn d) ∧ asked.head? = op.opening? e q.world.1 d := by
  cases op with
  | transpile sql source target =>
      rw [onEngine, run_resolve_bind_of_some (hd source (by simp [dialects])),
        run_resolve_bind_of_some (hd target (by simp [dialects]))]
      refine exists_asked_of_asks (((asks_heard _ (e.transpile sql d d)).translating _).map _) ?_ q
      simp [Inquiry.IsIn, Inquiry.dialects]
  | parse sql dialect =>
      rw [onEngine, run_resolve_bind_of_some (hd dialect (by simp [dialects]))]
      exact exists_asked_of_asks (((asks_heard _ (e.parse sql d)).translating _).bind fun trees =>
        (asks_toPayloadMany e trees).map _) (Inquiry.isIn_of_dialects rfl) q
  | parseOne sql dialect =>
      rw [onEngine, run_resolve_bind_of_some (hd dialect (by simp [dialects]))]
      exact exists_asked_of_asks (((asks_heard _ (e.parseOne sql d)).translating _).bind fun tree =>
        (asks_toPayload e tree).map _) (Inquiry.isIn_of_dialects rfl) q
  | generate payload dialect =>
      rw [onEngine, run_resolve_bind_of_some (hd dialect (by simp [dialects]))]
      have hloads := toOption_run_fromPayload e payload q
      obtain ⟨rest, hrest, hnone⟩ := asks_fromPayload (P := fun _ => False) e payload q
      obtain rfl : rest = [] := List.eq_nil_iff_forall_not_mem.mpr hnone
      rcases hrun : run (fromPayload e.heard payload) q with ⟨f | tree, r⟩
      all_goals rw [hrun] at hloads hrest
      · refine ⟨[], by rw [run_bind_of_error hrun, hrest, List.append_nil], by simp, ?_⟩
        rw [opening?, ← hloads]
        rfl
      · rw [run_bind_of_ok hrun, opening?, ← hloads]
        have hfirst : (Inquiry.generate tree d false).IsIn d := Inquiry.isIn_of_dialects rfl
        obtain ⟨asked, hasked, hin, hhead⟩ := exists_asked_of_asks
          (((asks_heard _ (e.generate tree d false)).translating "generate").map Answer.text)
          hfirst r
        refine ⟨asked, ?_, hin, hhead⟩
        rw [hrest, List.append_nil, List.append_nil] at hasked
        exact hasked
  | format sql dialect =>
      rw [onEngine, run_resolve_bind_of_some (hd dialect (by simp [dialects]))]
      exact exists_asked_of_asks ((((asks_heard _ (e.parse sql d)).bind
        (asks_generateAll e d)).translating _).bind fun _ => asks_pure _)
        (Inquiry.isIn_of_dialects rfl) q
  | validate sql dialect =>
      rw [onEngine, run_resolve_bind_of_some (hd dialect (by simp [dialects]))]
      exact exists_asked_of_asks (((asks_heard _ (e.validate sql d)).translating _).bind
        fun _ => asks_pure _) (Inquiry.isIn_of_dialects rfl) q

end Operation
end SqlDialects
