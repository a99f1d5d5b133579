import SqlDialects.Proofs.Session.Samples
import SqlDialects.Session.Operations

/-!
# Names are resolved before anything else

The operations on texts as data, and what becomes of an operation one of whose dialect names
stands for no dialect.

**Results.**
* `Operation.run_of_unresolved`: the operation fails for the first such name, and the session is
  exactly as it was.  Nothing that the session holds plays a part in it: neither the engine or the
  factory, nor the settings, the registered classes or the payload.
-/

namespace SqlDialects

/-- An operation on texts, with what it is given. -/
inductive Operation where
  | transpile (sql source target : String)
  | parse (sql dialect : String)
  | parseOne (sql dialect : String)
  | generate (payload dialect : String)
  | format (sql dialect : String)
  | validate (sql dialect : String)
deriving DecidableEq, Repr

/-- What an operation gives: a text, or several. -/
inductive Answer where
  | text (s : String)
  | texts (l : List String)
deriving DecidableEq, Repr

namespace Operation

variable {σ α : Type}

/-- The dialect names that an operation is given, in the order in which they are resolved. -/
def dialects : Operation → List String
  | .transpile _ source target => [source, target]
  | .parse _ dialect => [dialect]
  | .parseOne _ dialect => [dialect]
  | .generate _ dialect => [dialect]
  | .format _ dialect => [dialect]
  | .validate _ dialect => [dialect]

/-- What an operation does in a session. -/
def action : Operation → Action σ α Answer
  | .transpile sql source target => .texts <$> Action.transpile sql source target
  | .parse sql dialect => .text <$> Action.parse sql dialect
  | .parseOne sql dialect => .text <$> Action.parseOne sql dialect
  | .generate payload dialect => .text <$> Action.generate payload dialect
  | .format sql dialect => .text <$> Action.format sql dialect
  | .validate sql dialect => .text <$> Action.validate sql dialect

end Operation

namespace Action

variable {σ α β : Type}

/-- A name gives its dialect or fails as it was given. -/
theorem run_resolve (name : String) (p : Session σ α) :
    run (resolve name) p =
      ((Dialect.resolve? name).elim (.error (.unknownDialect name)) .ok, p) := by
  delta resolve
  generalize Dialect.resolve? name = d
  cases d <;> rfl

/-- What starts by resolving a name that stands for no dialect ends there. -/
theorem run_resolve_bind_of_none
    {name : String}
    (h : Dialect.resolve? name = none)
    (f : Dialect → Action σ α β)
    (p : Session σ α) :
    run (resolve name >>= f) p = (.error (.unknownDialect name), p) := by
  rw [run_bind, run_resolve, h]
  rfl

/-- What starts by resolving a name goes on with its dialect. -/
theorem run_resolve_bind_of_some
    {name : String} {d : Dialect}
    (h : Dialect.resolve? name = some d)
    (f : Dialect → Action σ α β)
    (p : Session σ α) :
    run (resolve name >>= f) p = run (f d) p := by
  rw [run_bind, run_resolve, h]
  rfl

end Action

namespace Operation

variable {σ α : Type}

/-- The first name that stands for no dialect, with the names before and after it. -/
theorem exists_first_unresolved
    (names : List String)
    (h : ∃ name ∈ names, Dialect.resolve? name = none) :
    ∃ before name after,
      names = before ++ name :: after ∧
      (∀ n ∈ before, Dialect.resolve? n ≠ none) ∧
      Dialect.resolve? name = none := by
  induction names with
  | nil =>
      simp at h
  | cons n names ih =>
      by_cases hn : Dialect.resolve? n = none
      · exact ⟨[], n, names, rfl, by simp, hn⟩
      · have hrest : ∃ name ∈ names, Dialect.resolve? name = none := by
          simpa [hn] using h
        obtain ⟨before, name, after, rfl, hbefore, hname⟩ := ih hrest
        refine ⟨n :: before, name, after, rfl, ?_, hname⟩
        intro m hm
        rcases List.mem_cons.mp hm with rfl | hm
        · exact hn
        · exact hbefore m hm

/-- An operation stops at the first of its names that stands for no dialect. -/
theorem run_of_first_unresolved
    (op : Operation)
    (p : Session σ α)
    {before after : List String} {name : String}
    (hnames : op.dialects = before ++ name :: after)
    (hbefore : ∀ n ∈ before, Dialect.resolve? n ≠ none)
    (hname : Dialect.resolve? name = none) :
    Action.run op.action p = (.error (.unknownDialect name), p) := by
  cases op with
  | transpile sql source target =>
      simp only [action, Action.run_map, Action.transpile]
      cases before with
      | nil =>
          obtain ⟨rfl, -⟩ : source = name ∧ _ := by simpa [dialects] using hnames
          rw [Action.run_resolve_bind_of_none hname]
          rfl
      | cons n before =>
          obtain ⟨rfl, rest⟩ : source = n ∧ [target] = before ++ name :: after := by
            simpa [dialects] using hnames
          obtain ⟨rfl, rfl, -⟩ : before = [] ∧ target = name ∧ after = [] := by
            cases before <;> simp_all
          obtain ⟨d, hd⟩ := Option.ne_none_iff_exists'.mp (hbefore source (by simp))
          rw [Action.run_resolve_bind_of_some hd, Action.run_resolve_bind_of_none hname]
          rfl
  | parse sql dialect | parseOne sql dialect | generate payload dialect | format sql dialect
  | validate sql dialect =>
      obtain ⟨rfl, rfl, -⟩ : before = [] ∧ dialect = name ∧ after = [] := by
        cases before <;> simp_all [dialects]
      simp only [action, Action.run_map, Action.parse, Action.parseOne, Action.generate,
        Action.format, Action.validate]
      rw [Action.run_resolve_bind_of_none hname]
      rfl

/--
If some name of an operation stands for no dialect, the operation fails for the first such name
and carries it as it was given.  The session is as it was: its engine and the world that engines
and factories work on, the factory and how often it ran, the settings, the registered classes and
the log.
-/
theorem run_of_unresolved
    (op : Operation)
    (p : Session σ α)
    (h : ∃ name ∈ op.dialects, Dialect.resolve? name = none) :
    ∃ before name after f,
      op.dialects = before ++ name :: after ∧
      (∀ n ∈ before, Dialect.resolve? n ≠ none) ∧
      Dialect.resolve? name = none ∧
      f.cls = .unknownDialect ∧
      f.argument = name ∧
      Action.run op.action p = (.error f, p) := by
  obtain ⟨before, name, after, hnames, hbefore, hname⟩ := exists_first_unresolved op.dialects h
  exact ⟨before, name, after, .unknownDialect name, hnames, hbefore, hname, rfl, rfl,
    run_of_first_unresolved op p hnames hbefore hname⟩

/-- A session in which nothing works: the factory fails and the settings do not validate. -/
def unready : Session Scripted.State Value :=
  { Scripted.begun [] with
    factory := some (Task.ofExcept (.error (.of .runtime "no engine")))
    environment := [("POLYGLOT_DEBUG", "perhaps")] }

theorem run_of_unresolved_unready :
    (∃ name ∈ (Operation.transpile "SELECT 1" "mysql" "nope").dialects,
      Dialect.resolve? name = none) ∧
    ∃ before name after f,
      (Operation.transpile "SELECT 1" "mysql" "nope").dialects = before ++ name :: after ∧
      (∀ n ∈ before, Dialect.resolve? n ≠ none) ∧
      Dialect.resolve? name = none ∧
      f.cls = .unknownDialect ∧
      f.argument = name ∧
      Action.run (Operation.transpile "SELECT 1" "mysql" "nope").action unready =
        (.error f, unready) := by
  have h : ∃ name ∈ (Operation.transpile "SELECT 1" "mysql" "nope").dialects,
      Dialect.resolve? name = none :=
    ⟨"nope", by simp [dialects], by decide +kernel⟩
  exact ⟨h, run_of_unresolved (Operation.transpile "SELECT 1" "mysql" "nope") unready h⟩

end Operation
end SqlDialects
