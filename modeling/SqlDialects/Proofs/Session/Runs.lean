import SqlDialects.Session.Payload

/-!
# How actions and tasks run

One equation for each way in which actions and tasks are put together, so that no later proof
opens the monad.

**View.**  `Action.run` gives the outcome of an action and the session after it.  A task of the
engine's side is seen in the same way through `Task.run`, on the scene on which it works.

**Results.**
* `Action.run_bind` and `Task.run_bind`: a sequence runs its second part from where the first one
  ended, or fails as the first one failed.
* `Action.run_engineTask`: the engine's side changes its own world and adds to the log; everything
  else in the session stays as it was (`Session.resume`).
-/

namespace SqlDialects

/-- A sequence of two parts that may fail and that share a state. -/
theorem exceptState_bind
    {S β γ : Type}
    (a : ExceptT Failure (StateM S) β)
    (f : β → ExceptT Failure (StateM S) γ)
    (s : S) :
    (ExceptT.run (a >>= f) s : Except Failure γ × S) =
      match (ExceptT.run a s : Except Failure β × S) with
      | (.ok b, t) => ExceptT.run (f b) t
      | (.error e, t) => (.error e, t) := by
  rw [ExceptT.run_bind]
  change (StateT.run (ExceptT.run a >>= _) s : Id _) = match StateT.run (ExceptT.run a) s with
    | (.ok b, t) => ExceptT.run (f b) t
    | (.error e, t) => (.error e, t)
  rw [StateT.run_bind]
  rcases (StateT.run (ExceptT.run a) s : Id _) with ⟨_ | _, t⟩ <;> rfl

namespace Task

variable {σ β γ : Type}

/-- The outcome of a task and the scene after it. -/
def run (t : Task σ β) (s : Scene σ) : Except Failure β × Scene σ :=
  (ExceptT.run t) s

/-- The task gives a value, whatever scene it works on. -/
def Gives (t : Task σ β) (b : β) : Prop :=
  ∀ s, (run t s).1 = .ok b

@[simp] theorem run_pure (b : β) (s : Scene σ) :
    run (pure b) s = (.ok b, s) := rfl

@[simp] theorem run_throw (f : Failure) (s : Scene σ) :
    run (throw f : Task σ β) s = (.error f, s) := rfl

@[simp] theorem run_ofExcept (e : Except Failure β) (s : Scene σ) :
    run (ofExcept e) s = (e, s) := rfl

@[simp] theorem run_log (r : Log.Record) (s : Scene σ) :
    run (log r) s = (.ok (), { s with records := s.records ++ [r] }) := rfl

@[simp] theorem run_onState (f : σ → β × σ) (s : Scene σ) :
    run (onState f) s = (.ok (f s.state).1, { s with state := (f s.state).2 }) := rfl

@[simp] theorem run_outcome (t : Task σ β) (s : Scene σ) :
    run (outcome t) s = (.ok (run t s).1, (run t s).2) := rfl

theorem run_bind (t : Task σ β) (f : β → Task σ γ) (s : Scene σ) :
    run (t >>= f) s =
      match run t s with
      | (.ok b, s') => run (f b) s'
      | (.error e, s') => (.error e, s') := by
  unfold run
  rw [exceptState_bind]
  rcases (ExceptT.run t s : Except Failure β × Scene σ) with ⟨_ | _, s'⟩ <;> rfl

theorem run_bind_of_ok
    {t : Task σ β} {s s' : Scene σ} {b : β}
    (h : run t s = (.ok b, s'))
    (f : β → Task σ γ) :
    run (t >>= f) s = run (f b) s' := by
  rw [run_bind, h]

theorem run_bind_of_error
    {t : Task σ β} {s s' : Scene σ} {e : Failure}
    (h : run t s = (.error e, s'))
    (f : β → Task σ γ) :
    run (t >>= f) s = (.error e, s') := by
  rw [run_bind, h]

theorem gives_pure (b : β) : Gives (pure b : Task σ β) b :=
  fun _ => rfl

theorem Gives.run_eq
    {t : Task σ β} {b : β}
    (h : Gives t b)
    (s : Scene σ) :
    run t s = (.ok b, (run t s).2) := by
  rw [← h s]

end Task

@[simp] theorem Output.append_empty (o : Output) :
    o.append "" = o := by
  rw [Output.append, String.append_empty]

namespace Session

variable {σ α : Type}

/-- The scene on which the engine's side starts. -/
def scene (p : Session σ α) : Scene σ :=
  ⟨p.world, []⟩

/-- The session after the engine's side has worked. -/
def resume (p : Session σ α) (s : Scene σ) : Session σ α :=
  { p with world := s.state, journal := p.journal.logAll s.records }

/-- The session with another log. -/
def withJournal (p : Session σ α) (j : Log.Journal) : Session σ α :=
  { p with journal := j }

/-- The session with another output and another log. -/
def beside (p : Session σ α) (o : Output) (j : Log.Journal) : Session σ α :=
  { p with output := o, journal := j }

variable (p : Session σ α) (s : Scene σ) (o : Output) (j : Log.Journal)

@[simp] theorem resume_errors : (p.resume s).errors = p.errors := rfl

@[simp] theorem withJournal_errors : (p.withJournal j).errors = p.errors := rfl

@[simp] theorem withJournal_hosts : (p.withJournal j).hosts = p.hosts := rfl

@[simp] theorem withJournal_scene : (p.withJournal j).scene = p.scene := rfl

@[simp] theorem beside_beside (o' : Output) (j' : Log.Journal) :
    (p.beside o j).beside o' j' = p.beside o' j' := rfl

@[simp] theorem beside_withJournal (j' : Log.Journal) :
    (p.beside o j).withJournal j' = p.beside o j' := rfl

end Session

namespace Action

variable {σ α β γ : Type}

@[simp] theorem run_pure (b : β) (p : Session σ α) :
    run (pure b) p = (.ok b, p) := rfl

@[simp] theorem run_throw (f : Failure) (p : Session σ α) :
    run (throw f : Action σ α β) p = (.error f, p) := rfl

@[simp] theorem run_get (p : Session σ α) :
    run get p = (.ok p, p) := rfl

@[simp] theorem run_set (q p : Session σ α) :
    run (set q) p = (.ok ⟨⟩, q) := rfl

@[simp] theorem run_modify (f : Session σ α → Session σ α) (p : Session σ α) :
    run (modify f) p = (.ok ⟨⟩, f p) := rfl

@[simp] theorem run_ofExcept (e : Except Failure β) (p : Session σ α) :
    run (ofExcept e) p = (e, p) := rfl

@[simp] theorem run_log (r : Log.Record) (p : Session σ α) :
    run (log r) p = (.ok (), p.withJournal (p.journal.log r)) := rfl

@[simp] theorem run_outcome (a : Action σ α β) (p : Session σ α) :
    run (outcome a) p = (.ok (run a p).1, (run a p).2) := rfl

theorem run_bind (a : Action σ α β) (f : β → Action σ α γ) (p : Session σ α) :
    run (a >>= f) p =
      match run a p with
      | (.ok b, q) => run (f b) q
      | (.error e, q) => (.error e, q) := by
  unfold run
  rw [exceptState_bind]
  rcases (ExceptT.run a p : Except Failure β × Session σ α) with ⟨_ | _, q⟩ <;> rfl

theorem run_bind_of_ok
    {a : Action σ α β} {p q : Session σ α} {b : β}
    (h : run a p = (.ok b, q))
    (f : β → Action σ α γ) :
    run (a >>= f) p = run (f b) q := by
  rw [run_bind, h]

theorem run_bind_of_error
    {a : Action σ α β} {p q : Session σ α} {e : Failure}
    (h : run a p = (.error e, q))
    (f : β → Action σ α γ) :
    run (a >>= f) p = (.error e, q) := by
  rw [run_bind, h]

theorem run_map (f : β → γ) (a : Action σ α β) (p : Session σ α) :
    run (f <$> a) p = ((run a p).1.map f, (run a p).2) := by
  rw [map_eq_pure_bind, run_bind]
  rcases run a p with ⟨_ | _, q⟩ <;> rfl

/-- The engine's side changes its own world and adds to the log, and nothing else. -/
theorem run_engineTask (t : Task σ β) (p : Session σ α) :
    run (engineTask t) p = ((Task.run t p.scene).1, p.resume (Task.run t p.scene).2) := rfl

theorem run_engineTask_of_run
    {t : Task σ β} {p : Session σ α} {r : Except Failure β} {s : Scene σ}
    (h : Task.run t p.scene = (r, s)) :
    run (engineTask t) p = (r, p.resume s) := by
  rw [run_engineTask, h]

end Action
end SqlDialects
