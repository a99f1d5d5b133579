import SqlDialects.Proofs.Dialect.Table
import SqlDialects.Proofs.Session.Resolution
import SqlDialects.Session.Host

/-!
# Names of one dialect

A dialect has many names, and a host may give it as such.  Which of them is used makes no difference
to an operation, nor to an operation as hosts call it.

**View.**  `HostOperation` has the operations of hosts as data.  Two operations are `Renamed` if they
differ in one place, where both give one dialect.

**Results.**
* `Operation.action_of_renamed` and `HostOperation.action_of_renamed`: renamed operations are one
  action.
* `run_of_renamed`: in every session they have one outcome and leave one session.
-/

namespace SqlDialects

variable {σ α : Type}

/-! ## The operations of hosts -/

/-- An operation as hosts call it, with what it is given. -/
inductive HostOperation where
  | transpile (sql : String) (source target : DialectChoice)
  | parse (sql : String) (dialect : DialectChoice)
  | parseOne (sql : String) (dialect : DialectChoice)
  | generate (tree : Value) (dialect : DialectChoice)
  | format (sql : String) (dialect : DialectChoice)
  | validate (sql : String) (dialect : DialectChoice)

/-- What an operation gives to a host. -/
inductive HostAnswer where
  | text (s : String)
  | texts (l : List String)
  | value (v : Value)
  | report (r : Report)

/-- What an operation of a host does in a session. -/
def HostOperation.action : HostOperation → Action σ α HostAnswer
  | .transpile sql source target => .texts <$> Action.hostTranspile sql source target
  | .parse sql dialect => .value <$> Action.hostParse sql dialect
  | .parseOne sql dialect => .value <$> Action.hostParseOne sql dialect
  | .generate tree dialect => .text <$> Action.hostGenerate tree dialect
  | .format sql dialect => .text <$> Action.hostFormat sql dialect
  | .validate sql dialect => .report <$> Action.hostValidate sql dialect

/-! ## Names -/

/-- The names stand for one dialect. -/
def Dialect.SameNamed (a b : String) : Prop :=
  ∃ d, Dialect.resolve? a = some d ∧ Dialect.resolve? b = some d

/-- The dialect that a choice gives, if it gives one without regard to the session. -/
def DialectChoice.dialect? : DialectChoice → Option Dialect
  | .unspecified => none
  | .member d => some d
  | .name s => Dialect.resolve? s

/-- The choices give one dialect. -/
def DialectChoice.SameGiven (a b : DialectChoice) : Prop :=
  ∃ d, a.dialect? = some d ∧ b.dialect? = some d

namespace Action

/-- Names of one dialect are resolved alike. -/
theorem resolve_of_sameNamed
    {a b : String}
    (h : Dialect.SameNamed a b) :
    (resolve a : Action σ α Dialect) = resolve b := by
  obtain ⟨d, ha, hb⟩ := h
  unfold resolve
  rw [ha, hb]

/-- A choice that gives a dialect has a name of it, in every session. -/
theorem chosenName_of_dialect?
    {c : DialectChoice} {d : Dialect}
    (h : c.dialect? = some d) :
    ∃ name, (chosenName c : Action σ α String) = pure name ∧ Dialect.resolve? name = some d := by
  cases c with
  | unspecified =>
      cases h
  | member d' =>
      cases h
      exact ⟨d.name, rfl, d.resolve?_name⟩
  | name s =>
      exact ⟨s, rfl, h⟩

/-- Choices that give one dialect have names of it. -/
theorem chosenName_of_sameGiven
    {a b : DialectChoice}
    (h : DialectChoice.SameGiven a b) :
    ∃ n m, (chosenName a : Action σ α String) = pure n ∧
      (chosenName b : Action σ α String) = pure m ∧ Dialect.SameNamed n m := by
  obtain ⟨d, ha, hb⟩ := h
  obtain ⟨n, hn, hnd⟩ := chosenName_of_dialect? (σ := σ) (α := α) ha
  obtain ⟨m, hm, hmd⟩ := chosenName_of_dialect? (σ := σ) (α := α) hb
  exact ⟨n, m, hn, hm, d, hnd, hmd⟩

/-- What a host's operation does with the name of a dialect depends on the dialect alone. -/
theorem chosenName_bind_of_sameGiven
    {β : Type} {a b : DialectChoice} {f : String → Action σ α β}
    (h : DialectChoice.SameGiven a b)
    (hf : ∀ n m, Dialect.SameNamed n m → f n = f m) :
    (chosenName a >>= f) = (chosenName b >>= f) := by
  obtain ⟨n, m, hn, hm, hnm⟩ := chosenName_of_sameGiven (σ := σ) (α := α) h
  rw [hn, hm, pure_bind, pure_bind, hf n m hnm]

end Action

/-! ## Operations -/

/-- The operations differ in the name of one dialect. -/
inductive Operation.Renamed : Operation → Operation → Prop
  | source {sql a b target : String} (h : Dialect.SameNamed a b) :
      Renamed (.transpile sql a target) (.transpile sql b target)
  | target {sql source a b : String} (h : Dialect.SameNamed a b) :
      Renamed (.transpile sql source a) (.transpile sql source b)
  | parse {sql a b : String} (h : Dialect.SameNamed a b) :
      Renamed (.parse sql a) (.parse sql b)
  | parseOne {sql a b : String} (h : Dialect.SameNamed a b) :
      Renamed (.parseOne sql a) (.parseOne sql b)
  | generate {payload a b : String} (h : Dialect.SameNamed a b) :
      Renamed (.generate payload a) (.generate payload b)
  | format {sql a b : String} (h : Dialect.SameNamed a b) :
      Renamed (.format sql a) (.format sql b)
  | validate {sql a b : String} (h : Dialect.SameNamed a b) :
      Renamed (.validate sql a) (.validate sql b)

/-- The operations differ in the choice of one dialect. -/
inductive HostOperation.Renamed : HostOperation → HostOperation → Prop
  | source {sql : String} {a b target : DialectChoice} (h : DialectChoice.SameGiven a b) :
      Renamed (.transpile sql a target) (.transpile sql b target)
  | target {sql : String} {source a b : DialectChoice} (h : DialectChoice.SameGiven a b) :
      Renamed (.transpile sql source a) (.transpile sql source b)
  | parse {sql : String} {a b : DialectChoice} (h : DialectChoice.SameGiven a b) :
      Renamed (.parse sql a) (.parse sql b)
  | parseOne {sql : String} {a b : DialectChoice} (h : DialectChoice.SameGiven a b) :
      Renamed (.parseOne sql a) (.parseOne sql b)
  | generate {tree : Value} {a b : DialectChoice} (h : DialectChoice.SameGiven a b) :
      Renamed (.generate tree a) (.generate tree b)
  | format {sql : String} {a b : DialectChoice} (h : DialectChoice.SameGiven a b) :
      Renamed (.format sql a) (.format sql b)
  | validate {sql : String} {a b : DialectChoice} (h : DialectChoice.SameGiven a b) :
      Renamed (.validate sql a) (.validate sql b)

/-- Renamed operations are one action. -/
theorem Operation.action_of_renamed
    {op op' : Operation}
    (h : op.Renamed op') :
    (op.action : Action σ α Answer) = op'.action := by
  cases h with
  | source h | target h =>
      simp only [action, Action.transpile, Action.resolve_of_sameNamed h]
  | parse h | parseOne h | generate h | format h | validate h =>
      simp only [action, Action.parse, Action.parseOne, Action.generate, Action.format,
        Action.validate, Action.resolve_of_sameNamed h]

/-- Renamed operations of hosts are one action. -/
theorem HostOperation.action_of_renamed
    {op op' : HostOperation}
    (h : op.Renamed op') :
    (op.action : Action σ α HostAnswer) = op'.action := by
  cases h with
  | source h =>
      refine congrArg (Functor.map HostAnswer.texts) ?_
      refine Action.chosenName_bind_of_sameGiven h fun n m hnm => ?_
      simp only [Action.transpile, Action.resolve_of_sameNamed hnm]
  | @target sql source a b h =>
      have hrest : ∀ n : String, (Action.chosenName a >>= fun m => Action.transpile sql n m) =
          (Action.chosenName b >>= fun m => Action.transpile (σ := σ) (α := α) sql n m) := by
        intro n
        refine Action.chosenName_bind_of_sameGiven h fun m m' hm => ?_
        simp only [Action.transpile, Action.resolve_of_sameNamed hm]
      simp only [action, Action.hostTranspile, hrest]
  | parse h =>
      refine congrArg (Functor.map HostAnswer.value) ?_
      refine Action.chosenName_bind_of_sameGiven h fun n m hnm => ?_
      simp only [Action.parse, Action.resolve_of_sameNamed hnm]
  | parseOne h =>
      refine congrArg (Functor.map HostAnswer.value) ?_
      refine Action.chosenName_bind_of_sameGiven h fun n m hnm => ?_
      simp only [Action.parseOne, Action.resolve_of_sameNamed hnm]
  | @generate tree a b h =>
      have hrest : ∀ payload, (Action.chosenName a >>= Action.generate payload) =
          (Action.chosenName b >>= Action.generate (σ := σ) (α := α) payload) := by
        intro payload
        refine Action.chosenName_bind_of_sameGiven h fun n m hnm => ?_
        simp only [Action.generate, Action.resolve_of_sameNamed hnm]
      simp only [action, Action.hostGenerate, hrest]
  | format h =>
      refine congrArg (Functor.map HostAnswer.text) ?_
      refine Action.chosenName_bind_of_sameGiven h fun n m hnm => ?_
      simp only [Action.format, Action.resolve_of_sameNamed hnm]
  | validate h =>
      refine congrArg (Functor.map HostAnswer.report) ?_
      refine Action.chosenName_bind_of_sameGiven h fun n m hnm => ?_
      simp only [Action.validate, Action.resolve_of_sameNamed hnm]

/--
Two operations differ in the name of one dialect, or two operations of hosts in how they choose one,
by its names or as such.  In every session both have the same outcome, be it an answer or a failure,
and leave the same session: the engine and the world that it works on with all calls that it has
received, the factory, the settings, the error classes and the log.
-/
theorem run_of_renamed (p : Session σ α) :
    (∀ op op' : Operation, op.Renamed op' →
      Action.run op.action p = Action.run op'.action p) ∧
    (∀ op op' : HostOperation, op.Renamed op' →
      Action.run op.action p = Action.run op'.action p) := by
  constructor
  · intro op op' h
    rw [Operation.action_of_renamed h]
  · intro op op' h
    rw [HostOperation.action_of_renamed h]

theorem run_of_renamed_unready :
    (Operation.transpile "SELECT 1" "nope" "PostgreSQL").Renamed
      (.transpile "SELECT 1" "nope" "post-gres") ∧
    (HostOperation.transpile "SELECT 1" (.name "_POST_GRES_QL") .unspecified).Renamed
      (.transpile "SELECT 1" (.member .postgres) .unspecified) ∧
    Action.run (Operation.transpile "SELECT 1" "nope" "PostgreSQL").action Operation.unready =
      Action.run (Operation.transpile "SELECT 1" "nope" "post-gres").action Operation.unready ∧
    Action.run (HostOperation.transpile "SELECT 1" (.name "_POST_GRES_QL") .unspecified).action
        Operation.unready =
      Action.run (HostOperation.transpile "SELECT 1" (.member .postgres) .unspecified).action
        Operation.unready := by
  have hnames : Dialect.SameNamed "PostgreSQL" "post-gres" :=
    ⟨.postgres, by decide +kernel, by decide +kernel⟩
  have hchoices : DialectChoice.SameGiven (.name "_POST_GRES_QL") (.member .postgres) :=
    ⟨.postgres, by decide +kernel, rfl⟩
  exact ⟨.target hnames, .source hchoices, (run_of_renamed Operation.unready).1 _ _ (.target hnames),
    (run_of_renamed Operation.unready).2 _ _ (.source hchoices)⟩

end SqlDialects
