import SqlDialects.Proofs.Session.Serving
import SqlDialects.Proofs.Session.Translation

/-!
# Sessions that nobody can tell apart

Two sessions may differ in much, in their logs, their cached settings and their counters, and yet give
the same answers to everything that is done in them.

**View.**  `Action.Alike` compares two runs of one action, from sessions in some relation: both give
the same, and leave sessions in the relation again.  `Action.Keeps` compares the sessions alone.  Logs
and counters are not compared.

**Invariant.**  A `Likeness` is a relation between sessions in which obtaining the engine, and the work
of an engine that is obtained, are alike.

**Results.**
* `Action.Alike.bind` and its like: an action is alike if its parts are.
* `Likeness.of_quiet`: what changes the log only is alike.
* `Likeness.transpile` and its like: with a likeness all operations are alike.
* `Likeness.abreast`: a likeness stays one between sessions whose outputs are the same.
* `Blind.keeps_of_outward`: what changes the log and the output only keeps sessions alike for which
  neither counts.
* `blind_akin`: sessions are alike if their surroundings, their engines and the worlds on which these
  work are the same.
* `blind_steady`: they are alike if an engine can be obtained in both that answers in one way
  wherever its work may lead.
-/

namespace SqlDialects

/-- Something holds of every task that an engine can be given. -/
structure Engine.Each {σ α : Type} (P : {β : Type} → Task σ β → Prop) (e : Engine σ α) : Prop where
  version : P e.version
  transpile : ∀ sql source target, P (e.transpile sql source target)
  parse : ∀ sql d, P (e.parse sql d)
  parseOne : ∀ sql d, P (e.parseOne sql d)
  generate : ∀ tree d pretty, P (e.generate tree d pretty)
  validate : ∀ sql d, P (e.validate sql d)
  dump : ∀ tree, P (e.dump tree)
  load : ∀ data, P (e.load data)

theorem Engine.each_of_forall
    {σ α : Type} {P : {β : Type} → Task σ β → Prop}
    (h : ∀ {β : Type} (t : Task σ β), P t)
    (e : Engine σ α) :
    e.Each P :=
  ⟨h _, fun _ _ _ => h _, fun _ _ => h _, fun _ _ => h _, fun _ _ _ => h _, fun _ _ => h _,
    fun _ => h _, fun _ => h _⟩

theorem Engine.Each.imp
    {σ α : Type} {P Q : {β : Type} → Task σ β → Prop} {e : Engine σ α}
    (he : e.Each P)
    (h : ∀ {β : Type} (t : Task σ β), P t → Q t) :
    e.Each Q :=
  ⟨h _ he.version, fun _ _ _ => h _ (he.transpile _ _ _), fun _ _ => h _ (he.parse _ _),
    fun _ _ => h _ (he.parseOne _ _), fun _ _ _ => h _ (he.generate _ _ _),
    fun _ _ => h _ (he.validate _ _), fun _ => h _ (he.dump _), fun _ => h _ (he.load _)⟩

variable {σ α β γ : Type} {S : Session σ α → Session σ α → Prop}

namespace Action

/-- From related sessions the action gives the same and leaves related sessions. -/
def Alike (S : Session σ α → Session σ α → Prop) (a : Action σ α β) : Prop :=
  ∀ p q, S p q → (run a p).1 = (run a q).1 ∧ S (run a p).2 (run a q).2

/-! ## Parts and how they are put together -/

theorem alike_pure (b : β) :
    Alike S (pure b : Action σ α β) :=
  fun _ _ h => ⟨rfl, h⟩

theorem alike_throw (f : Failure) :
    Alike S (throw f : Action σ α β) :=
  fun _ _ h => ⟨rfl, h⟩

theorem alike_ofExcept (e : Except Failure β) :
    Alike S (ofExcept e : Action σ α β) :=
  fun _ _ h => ⟨rfl, h⟩

theorem alike_resolve (name : String) :
    Alike S (resolve name : Action σ α Dialect) := by
  intro p q h
  rw [run_resolve, run_resolve]
  exact ⟨rfl, h⟩

theorem Alike.outcome
    {a : Action σ α β}
    (h : Alike S a) :
    Alike S (outcome a) := by
  intro p q hpq
  rw [run_outcome, run_outcome]
  exact ⟨congrArg Except.ok (h p q hpq).1, (h p q hpq).2⟩

/-- What comes after needs to be alike only for values that are given. -/
theorem Alike.bind_of
    {a : Action σ α β} {f : β → Action σ α γ}
    (ha : Alike S a)
    (hf : ∀ p q r b, S p q → run a p = (.ok b, r) → Alike S (f b)) :
    Alike S (a >>= f) := by
  intro p q h
  obtain ⟨hvalue, hrest⟩ := ha p q h
  rw [run_bind, run_bind]
  rcases hp : run a p with ⟨value, p'⟩
  rcases hq : run a q with ⟨value', q'⟩
  rw [hp, hq] at hvalue hrest
  obtain rfl : value = value' := hvalue
  cases value with
  | error e =>
      exact ⟨rfl, hrest⟩
  | ok b =>
      exact hf p q p' b h hp p' q' hrest

theorem Alike.bind
    {a : Action σ α β} {f : β → Action σ α γ}
    (ha : Alike S a)
    (hf : ∀ b, Alike S (f b)) :
    Alike S (a >>= f) :=
  ha.bind_of fun _ _ _ b _ _ => hf b

/-! ## Actions that change the log only -/

/-- The action gives the same in all sessions and changes nothing but the log. -/
def Quiet (a : Action σ α β) : Prop :=
  ∃ r, ∀ p, ∃ j, run a p = (r, p.withJournal j)

theorem quiet_pure (b : β) :
    Quiet (pure b : Action σ α β) :=
  ⟨.ok b, fun p => ⟨p.journal, rfl⟩⟩

theorem quiet_throw (f : Failure) :
    Quiet (throw f : Action σ α β) :=
  ⟨.error f, fun p => ⟨p.journal, rfl⟩⟩

theorem quiet_ofExcept (e : Except Failure β) :
    Quiet (ofExcept e : Action σ α β) :=
  ⟨e, fun p => ⟨p.journal, rfl⟩⟩

theorem quiet_log (r : Log.Record) :
    Quiet (log r : Action σ α Unit) :=
  ⟨.ok (), fun p => ⟨p.journal.log r, rfl⟩⟩

theorem Quiet.bind
    {a : Action σ α β} {f : β → Action σ α γ}
    (ha : Quiet a)
    (hf : ∀ b, Quiet (f b)) :
    Quiet (a >>= f) := by
  obtain ⟨r, hr⟩ := ha
  cases r with
  | error e =>
      refine ⟨.error e, fun p => ?_⟩
      obtain ⟨j, hj⟩ := hr p
      exact ⟨j, run_bind_of_error hj f⟩
  | ok b =>
      obtain ⟨r, hb⟩ := hf b
      refine ⟨r, fun p => ?_⟩
      obtain ⟨j, hj⟩ := hr p
      obtain ⟨j', hj'⟩ := hb (p.withJournal j)
      exact ⟨j', (run_bind_of_ok hj f).trans hj'⟩

/-! ## Actions whose values do not matter -/

/-- From related sessions the action leaves related sessions, whatever it gives. -/
def Keeps (S : Session σ α → Session σ α → Prop) (a : Action σ α β) : Prop :=
  ∀ p q, S p q → S (run a p).2 (run a q).2

theorem Alike.keeps
    {a : Action σ α β}
    (h : Alike S a) :
    Keeps S a :=
  fun p q hpq => (h p q hpq).2

/-- What comes after may give what it likes. -/
theorem Alike.bind_keeps
    {a : Action σ α β} {f : β → Action σ α γ}
    (ha : Alike S a)
    (hf : ∀ b, Keeps S (f b)) :
    Keeps S (a >>= f) := by
  intro p q h
  obtain ⟨hvalue, hrest⟩ := ha p q h
  rw [run_bind, run_bind]
  rcases hp : run a p with ⟨value, p'⟩
  rcases hq : run a q with ⟨value', q'⟩
  rw [hp, hq] at hvalue hrest
  obtain rfl : value = value' := hvalue
  cases value with
  | error e =>
      exact hrest
  | ok b =>
      exact hf b p' q' hrest

/-- The action changes nothing but the log and the output. -/
def Outward (a : Action σ α β) : Prop :=
  ∀ p, ∃ o j, (run a p).2 = p.beside o j

theorem Quiet.outward
    {a : Action σ α β}
    (h : Quiet a) :
    Outward a := by
  obtain ⟨r, hr⟩ := h
  intro p
  obtain ⟨j, hj⟩ := hr p
  exact ⟨p.output, j, congrArg Prod.snd hj⟩

end Action

/-! ## Likenesses -/

/-- Sessions in the relation cannot be told apart by what is done in them. -/
structure Likeness (S : Session σ α → Session σ α → Prop) : Prop where
  environment : ∀ {p q}, S p q → p.environment = q.environment
  file : ∀ {p q}, S p q → p.file = q.file
  errors : ∀ {p q}, S p q → p.errors = q.errors
  hosts : ∀ {p q}, S p q → p.hosts = q.hosts
  /-- There is an engine or a factory. -/
  registered : ∀ {p q}, S p q → (p.engine.isSome || p.factory.isSome) = true ∧
    (q.engine.isSome || q.factory.isSome) = true
  /-- The logs may be any, and both outputs may change in one way. -/
  beside : ∀ {p q}, S p q → ∀ (change : Output → Output) j j',
    S (p.beside (change p.output) j) (q.beside (change q.output) j')
  engine : Action.Alike S Action.engine
  served : ∀ {p q r e}, S p q → Action.run Action.engine p = (.ok e, r) →
    e.Each fun t => Action.Alike S (Action.engineTask t)

namespace Likeness

open SqlDialects.Action

theorem withJournal
    (L : Likeness S)
    {p q : Session σ α}
    (h : S p q)
    (j j' : Log.Journal) :
    S (p.withJournal j) (q.withJournal j') :=
  L.beside h id j j'

theorem of_quiet
    (L : Likeness S)
    {a : Action σ α β}
    (h : Quiet a) :
    Alike S a := by
  obtain ⟨r, hr⟩ := h
  intro p q hpq
  obtain ⟨j, hj⟩ := hr p
  obtain ⟨j', hj'⟩ := hr q
  rw [hj, hj']
  exact ⟨rfl, L.withJournal hpq j j'⟩

theorem loadSettings
    (L : Likeness S)
    (overrides : List (String × Value)) :
    Alike S (Action.loadSettings overrides : Action σ α Settings) := by
  intro p q h
  simp only [Action.loadSettings, run_bind, run_get, run_ofExcept, L.environment h, L.file h]
  cases Settings.load ⟨overrides, q.environment, q.file⟩ with
  | error f =>
      exact ⟨rfl, h⟩
  | ok s =>
      exact ⟨rfl, L.withJournal h (p.journal.logAll s.loadingRecords)
        (q.journal.logAll s.loadingRecords)⟩

/-! ### Failures on their way to the caller -/

theorem translated
    (L : Likeness S)
    (kind : FaultKind)
    (message : String) :
    Alike S (Action.translated kind message : Action σ α Failure) := by
  intro p q h
  obtain ⟨j, hj⟩ := run_translated kind message p
  obtain ⟨j', hj'⟩ := run_translated kind message q
  rw [hj, hj', L.errors h, L.hosts h]
  exact ⟨rfl, L.withJournal h j j'⟩

theorem failMalformed
    (L : Likeness S)
    (what : String)
    (cause : Failure) :
    Alike S (Action.failMalformed what cause : Action σ α β) := by
  intro p q h
  have hrun : ∀ p : Session σ α, run (Action.failMalformed what cause : Action σ α β) p =
      (.error ((boundaryFailure p.errors (what ++ cause.text)).causedBy cause), p) := fun _ => rfl
  rw [hrun, hrun, L.errors h]
  exact ⟨rfl, h⟩

theorem translating
    (L : Likeness S)
    {a : Action σ α β}
    (h : Alike S a)
    (operation : String) :
    Alike S (Action.translating operation a) := by
  refine h.outcome.bind fun r => ?_
  cases r with
  | ok b =>
      exact alike_pure b
  | error e =>
      dsimp only
      split
      · exact (L.of_quiet (quiet_log _)).bind fun _ => (L.translated _ _).bind fun _ => alike_throw _
      · exact alike_throw e

theorem writing
    (L : Likeness S)
    {a : Action σ α β}
    (h : Alike S a) :
    Alike S (Action.writing a) := by
  refine h.outcome.bind fun r => ?_
  cases r with
  | ok b =>
      exact alike_pure b
  | error e =>
      dsimp only
      split
      · exact L.failMalformed _ e
      · exact alike_throw e

/-! ### The work of an engine -/

section Engines

variable {e : Engine σ α}

theorem dumpAll
    (he : e.Each fun t => Alike S (engineTask t))
    (trees : List α) :
    Alike S (Action.dumpAll e trees) := by
  induction trees with
  | nil =>
      exact alike_pure []
  | cons t ts ih =>
      exact (he.dump t).bind fun _ => ih.bind fun _ => alike_pure _

theorem generateAll
    (he : e.Each fun t => Alike S (engineTask t))
    (d : Dialect)
    (trees : List α) :
    Alike S (Action.generateAll e d trees) := by
  induction trees with
  | nil =>
      exact alike_pure []
  | cons t ts ih =>
      exact (he.generate t d true).bind fun _ => ih.bind fun _ => alike_pure _

theorem toPayload
    (L : Likeness S)
    (he : e.Each fun t => Alike S (engineTask t))
    (tree : α) :
    Alike S (Action.toPayload e tree) :=
  L.writing ((he.dump tree).bind fun _ => alike_ofExcept _)

theorem toPayloadMany
    (L : Likeness S)
    (he : e.Each fun t => Alike S (engineTask t))
    (trees : List α) :
    Alike S (Action.toPayloadMany e trees) :=
  L.writing ((dumpAll he trees).bind fun _ => alike_ofExcept _)

theorem fromPayload
    (L : Likeness S)
    (he : e.Each fun t => Alike S (engineTask t))
    (payload : String) :
    Alike S (Action.fromPayload e payload) := by
  unfold Action.fromPayload
  cases Json.read payload with
  | error fault =>
      exact L.failMalformed _ _
  | ok data =>
      refine (he.load data).outcome.bind fun r => ?_
      cases r with
      | ok tree =>
          exact alike_pure tree
      | error f =>
          dsimp only
          split
          · exact (L.of_quiet (quiet_log _)).bind fun _ => L.failMalformed _ f
          · exact alike_throw f

end Engines

/-! ### Operations -/

/-- What is done with an engine needs to be alike for engines that are obtained. -/
theorem engine_bind
    (L : Likeness S)
    {f : Engine σ α → Action σ α β}
    (hf : ∀ e : Engine σ α, (e.Each fun t => Alike S (engineTask t)) → Alike S (f e)) :
    Alike S (Action.engine >>= f) :=
  L.engine.bind_of fun _ _ _ e h hrun => hf e (L.served h hrun)

theorem transpile
    (L : Likeness S)
    (sql source target : String) :
    Alike S (Action.transpile sql source target : Action σ α (List String)) :=
  (alike_resolve source).bind fun d => (alike_resolve target).bind fun d' =>
    (L.of_quiet (quiet_log _)).bind fun _ => L.translating (L.engine_bind fun _ he => he.transpile sql d d') _

theorem parse
    (L : Likeness S)
    (sql dialect : String) :
    Alike S (Action.parse sql dialect : Action σ α String) :=
  (alike_resolve dialect).bind fun d => L.engine_bind fun _ he =>
    (L.translating (he.parse sql d) _).bind fun trees => L.toPayloadMany he trees

theorem parseOne
    (L : Likeness S)
    (sql dialect : String) :
    Alike S (Action.parseOne sql dialect : Action σ α String) :=
  (alike_resolve dialect).bind fun d => L.engine_bind fun _ he =>
    (L.translating (he.parseOne sql d) _).bind fun tree => L.toPayload he tree

theorem generate
    (L : Likeness S)
    (payload dialect : String) :
    Alike S (Action.generate payload dialect : Action σ α String) :=
  (alike_resolve dialect).bind fun d => L.engine_bind fun _ he =>
    (L.fromPayload he payload).bind fun tree => L.translating (he.generate tree d false) _

theorem format
    (L : Likeness S)
    (sql dialect : String) :
    Alike S (Action.format sql dialect : Action σ α String) :=
  (alike_resolve dialect).bind fun d => L.engine_bind fun _ he =>
    (L.translating ((he.parse sql d).bind fun trees => generateAll he d trees) _).bind fun _ =>
      alike_pure _

theorem validate
    (L : Likeness S)
    (sql dialect : String) :
    Alike S (Action.validate sql dialect : Action σ α String) :=
  (alike_resolve dialect).bind fun d =>
    (L.translating (L.engine_bind fun _ he => he.validate sql d) _).bind fun _ => alike_pure _

theorem engineVersion
    (L : Likeness S) :
    Alike S (Action.engineVersion : Action σ α String) := by
  have hversion : Alike S (Action.engine >>= fun e : Engine σ α => engineTask e.version) :=
    L.engine_bind fun _ he => he.version
  intro p q h
  obtain ⟨hp, hq⟩ := L.registered h
  simp only [Action.engineVersion, run_bind, run_get, hp, hq, if_true]
  simpa only [run_bind] using hversion p q h

end Likeness

/-! ## Likenesses that look at neither log nor output -/

/-- A likeness for which outputs may be any, like logs. -/
structure Blind (S : Session σ α → Session σ α → Prop) : Prop extends Likeness S where
  unseen : ∀ {p q}, S p q → ∀ o o' j j', S (p.beside o j) (q.beside o' j')

theorem Blind.keeps_of_outward
    (B : Blind S)
    {a : Action σ α β}
    (h : Action.Outward a) :
    Action.Keeps S a := by
  intro p q hpq
  obtain ⟨o, j, hp⟩ := h p
  obtain ⟨o', j', hq⟩ := h q
  rw [hp, hq]
  exact B.unseen hpq o o' j j'

/-! ## Outputs that are the same -/

/-- Sessions in the relation whose outputs are the same. -/
def Session.Abreast (S : Session σ α → Session σ α → Prop) (p q : Session σ α) : Prop :=
  S p q ∧ p.output = q.output

/-- What leaves the output as it is keeps outputs the same. -/
theorem Action.Alike.abreast
    {a : Action σ α β}
    (h : Alike S a)
    (houtput : ∀ p, (run a p).2.output = p.output) :
    Alike (Session.Abreast S) a := by
  intro p q hpq
  obtain ⟨hvalue, hrest⟩ := h p q hpq.1
  exact ⟨hvalue, hrest, (houtput p).trans (hpq.2.trans (houtput q).symm)⟩

theorem Likeness.abreast (L : Likeness S) : Likeness (Session.Abreast S) where
  environment := fun h => L.environment h.1
  file := fun h => L.file h.1
  errors := fun h => L.errors h.1
  hosts := fun h => L.hosts h.1
  registered := fun h => L.registered h.1
  beside := fun h change j j' => ⟨L.beside h.1 change j j', congrArg change h.2⟩
  engine := L.engine.abreast fun p => (Action.run_engine_keeps p).2.2
  served := fun h hrun => (L.served h.1 hrun).imp fun _ ht => ht.abreast fun _ => rfl

/-! ## Sessions with one engine and one world -/

/-- Sessions with the same surroundings, error classes, engine or factory, and world; their logs,
outputs, cached settings and counters may differ. -/
structure Session.Akin (environment : List (String × String)) (file : Option String)
    (p q : Session σ α) : Prop where
  environment : p.environment = environment ∧ q.environment = environment
  file : p.file = file ∧ q.file = file
  errors : p.errors = q.errors
  hosts : p.hosts = q.hosts
  engine : p.engine.map Served.engine = q.engine.map Served.engine
  factory : p.factory = q.factory
  registered : (p.engine.isSome || p.factory.isSome) = true
  world : p.world = q.world

section Akin

variable {environment : List (String × String)} {file : Option String} {p q : Session σ α}

theorem Session.akin_beside
    {p : Session σ α}
    (h : (p.engine.isSome || p.factory.isSome) = true)
    (o : Output)
    (j : Log.Journal) :
    Session.Akin p.environment p.file p (p.beside o j) :=
  ⟨⟨rfl, rfl⟩, ⟨rfl, rfl⟩, rfl, rfl, rfl, rfl, h, rfl⟩

theorem Session.Akin.registered_right
    (h : Session.Akin environment file p q) :
    (q.engine.isSome || q.factory.isSome) = true := by
  rw [← Option.isSome_map (f := Served.engine), ← h.engine, Option.isSome_map, ← h.factory]
  exact h.registered

theorem Session.Akin.resume
    (h : Session.Akin environment file p q)
    (s : Scene σ) :
    Session.Akin environment file (p.resume s) (q.resume s) :=
  ⟨h.environment, h.file, h.errors, h.hosts, h.engine, h.factory, h.registered, rfl⟩

/-- The engine's side does the same on the same world. -/
theorem alike_engineTask_akin (t : Task σ β) :
    Action.Alike (Session.Akin environment file) (Action.engineTask t : Action σ α β) := by
  intro p q h
  have hscene : p.scene = q.scene := by
    rw [Session.scene, Session.scene, h.world]
  rw [Action.run_engineTask, Action.run_engineTask, hscene]
  exact ⟨rfl, h.resume _⟩

theorem alike_engine_akin :
    Action.Alike (Session.Akin environment file) (Action.engine : Action σ α (Engine σ α)) := by
  intro p q h
  have hengine := h.engine
  have hregistered := h.registered
  cases hp : p.engine with
  | some s =>
      rw [hp] at hengine
      obtain ⟨s', hq, hs⟩ := Option.map_eq_some_iff.mp hengine.symm
      rw [Action.run_engine_of_served hp, Action.run_engine_of_served hq, hs]
      exact ⟨rfl, h⟩
  | none =>
      rw [hp] at hengine hregistered
      have hq : q.engine = none := Option.map_eq_none_iff.mp hengine.symm
      obtain ⟨f, hf⟩ := Option.isSome_iff_exists.mp (by simpa using hregistered)
      have hf' : q.factory = some f := h.factory ▸ hf
      have hscene : p.scene = q.scene := by
        rw [Session.scene, Session.scene, h.world]
      rw [Action.run_engine_of_factory hp hf, Action.run_engine_of_factory hq hf', hscene]
      rcases Task.run f q.scene with ⟨x | e, s⟩
      · exact ⟨rfl, h.environment, h.file, h.errors, h.hosts, h.engine, h.factory, h.registered, rfl⟩
      · exact ⟨rfl, h.environment, h.file, h.errors, h.hosts, rfl, h.factory, rfl, rfl⟩

theorem Session.Akin.beside
    (h : Session.Akin environment file p q)
    (o o' : Output)
    (j j' : Log.Journal) :
    Session.Akin environment file (p.beside o j) (q.beside o' j') :=
  ⟨h.environment, h.file, h.errors, h.hosts, h.engine, h.factory, h.registered, h.world⟩

theorem blind_akin : Blind (Session.Akin environment file (σ := σ) (α := α)) where
  environment := fun h => h.environment.1.trans h.environment.2.symm
  file := fun h => h.file.1.trans h.file.2.symm
  errors := fun h => h.errors
  hosts := fun h => h.hosts
  registered := fun h => ⟨h.registered, h.registered_right⟩
  beside := fun h _ _ _ => h.beside _ _ _ _
  unseen := Session.Akin.beside
  engine := alike_engine_akin
  served := fun _ _ => Engine.each_of_forall alike_engineTask_akin _

end Akin

/-! ## Engines that answer in one way -/

/-- In a class of worlds the task gives one answer, and it does not lead out of the class. -/
def Task.SteadyIn (K : σ → Prop) (t : Task σ β) : Prop :=
  ∃ r, ∀ w, K w → (Task.run t ⟨w, []⟩).1 = r ∧ K (Task.run t ⟨w, []⟩).2.state

/-- The engine answers every request in one way, whatever requests it has had before: in a class of
worlds out of which none of its work leads. -/
def Engine.SteadyIn (K : σ → Prop) (e : Engine σ α) : Prop :=
  e.Each fun t => t.SteadyIn K

/-- The session has an engine in use, or a factory makes it wherever in the class that happens. -/
structure Session.Offers (K : σ → Prop) (e : Engine σ α) (p : Session σ α) : Prop where
  world : K p.world
  provided : p.Serves e ∨
    p.engine = none ∧ ∃ f, p.factory = some f ∧ f.SteadyIn K ∧
      ∀ w, K w → (Task.run f ⟨w, []⟩).1 = .ok e

/-- Sessions with the same surroundings and error classes that offer one engine. -/
structure Session.Steady (K : σ → Prop) (e : Engine σ α) (hosts : HostClasses)
    (errors : Option ErrorRegistry) (environment : List (String × String)) (file : Option String)
    (p : Session σ α) : Prop where
  environment : p.environment = environment
  file : p.file = file
  errors : p.errors = errors
  hosts : p.hosts = hosts
  offers : p.Offers K e

section Steady

variable {K : σ → Prop} {e : Engine σ α} {hosts : HostClasses} {errors : Option ErrorRegistry}
  {environment : List (String × String)} {file : Option String}

/-- An engine that is obtained is the one that is offered. -/
theorem Session.Steady.run_engine
    {p : Session σ α}
    (h : p.Steady K e hosts errors environment file) :
    (Action.run Action.engine p).1 = .ok e ∧
      (Action.run Action.engine p).2.Steady K e hosts errors environment file := by
  obtain hserves | ⟨hnone, f, hf, hsteady, hgives⟩ := h.offers.provided
  · rw [Action.run_engine_of_serves hserves]
    exact ⟨rfl, h⟩
  · obtain ⟨r, hr⟩ := hsteady
    have hvalue := hgives p.world h.offers.world
    have hworld := (hr p.world h.offers.world).2
    rw [Action.run_engine_of_factory hnone hf, Session.scene]
    rcases hrun : Task.run f ⟨p.world, []⟩ with ⟨value, s⟩
    rw [hrun] at hvalue hworld
    obtain rfl : value = .ok e := hvalue
    exact ⟨rfl, h.environment, h.file, h.errors, h.hosts, hworld, .inl ⟨_, rfl⟩⟩

theorem Session.Steady.registered
    {p : Session σ α}
    (h : p.Steady K e hosts errors environment file) :
    (p.engine.isSome || p.factory.isSome) = true := by
  obtain ⟨n, hn⟩ | ⟨-, f, hf, -⟩ := h.offers.provided
  · simp [hn]
  · simp [hf]

theorem Session.Steady.beside
    {p : Session σ α}
    (h : p.Steady K e hosts errors environment file)
    (o : Output)
    (j : Log.Journal) :
    (p.beside o j).Steady K e hosts errors environment file :=
  ⟨h.environment, h.file, h.errors, h.hosts, h.offers.world, h.offers.provided⟩

/-- Work that is steady gives its one answer, and the session stays as it is said to be. -/
theorem Session.Steady.run_engineTask
    {t : Task σ β} {r : Except Failure β}
    (ht : ∀ w, K w → (Task.run t ⟨w, []⟩).1 = r ∧ K (Task.run t ⟨w, []⟩).2.state)
    {p : Session σ α}
    (h : p.Steady K e hosts errors environment file) :
    (Action.run (Action.engineTask t) p).1 = r ∧
      (Action.run (Action.engineTask t) p).2.Steady K e hosts errors environment file := by
  obtain ⟨hvalue, hworld⟩ := ht p.world h.offers.world
  exact ⟨hvalue, h.environment, h.file, h.errors, h.hosts, hworld, h.offers.provided⟩

theorem blind_steady (he : e.SteadyIn K) :
    Blind fun p q => p.Steady K e hosts errors environment file ∧
      q.Steady K e hosts errors environment file where
  environment := fun h => h.1.environment.trans h.2.environment.symm
  file := fun h => h.1.file.trans h.2.file.symm
  errors := fun h => h.1.errors.trans h.2.errors.symm
  hosts := fun h => h.1.hosts.trans h.2.hosts.symm
  registered := fun h => ⟨h.1.registered, h.2.registered⟩
  beside := fun h _ j j' => ⟨h.1.beside _ j, h.2.beside _ j'⟩
  unseen := fun h o o' j j' => ⟨h.1.beside o j, h.2.beside o' j'⟩
  engine := by
    rintro p q ⟨hp, hq⟩
    obtain ⟨hvaluep, hrestp⟩ := hp.run_engine
    obtain ⟨hvalueq, hrestq⟩ := hq.run_engine
    exact ⟨hvaluep.trans hvalueq.symm, hrestp, hrestq⟩
  served := by
    intro p q r e' h hrun
    obtain ⟨hvalue, -⟩ := h.1.run_engine
    rw [hrun] at hvalue
    obtain rfl : e' = e := Except.ok.inj hvalue
    refine he.imp ?_
    rintro β t ⟨answer, ht⟩ p q ⟨hp, hq⟩
    obtain ⟨hvaluep, hrestp⟩ := hp.run_engineTask ht
    obtain ⟨hvalueq, hrestq⟩ := hq.run_engineTask ht
    exact ⟨hvaluep.trans hvalueq.symm, hrestp, hrestq⟩

end Steady

end SqlDialects
