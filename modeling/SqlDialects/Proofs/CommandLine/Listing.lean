import SqlDialects.Proofs.CommandLine.Pipeline
import SqlDialects.Proofs.Json.Listing

/-!
# Statements as output

What a command line that transpiles writes, from the statements that the engine gives.

**Input.**  A command line that carries a text from one known dialect to another, in a session whose
settings load and in which an engine can be obtained.  Nothing is asked of the engine but that it
gives statements, and nothing of the statements.

**View.**  `Transpiles` ties a command line and a session to the statements.

**Results.**
* `writes_of_transpiles`: the run succeeds and writes the statements.
* `output_of_transpiles`: as JSON they are ASCII and can be read back from the output, so that no other
  statements have the same output; one to a line, others may have.
-/

namespace SqlDialects
namespace CommandLine

variable {σ α σ' α' : Type}

/-- A command line for which the engine gives statements. -/
inductive Transpiles (i : Invocation) (g : Globals) (p : Session σ α) (l : List String) : Prop where
  | intro (sql source target : String) (d d' : Dialect) (s : Settings) (e : Engine σ α)
      (q : Session σ α)
      (hreads : i.Reads g (.transpile sql source target))
      (hs : loaded p g.overrides = .ok s)
      (hd : Dialect.resolve? source = some d)
      (hd' : Dialect.resolve? target = some d')
      (hserves : Action.run Action.engine p = (.ok e, q))
      (hgives : (Task.run (e.transpile (givenText i.input sql) d d') q.scene).1 = .ok l)

/-- What the engine gives is what the operation gives, and the operation writes nothing. -/
theorem run_transpile_of_gives
    {sql source target : String} {d d' : Dialect} {p q : Session σ α} {e : Engine σ α}
    {l : List String}
    (hd : Dialect.resolve? source = some d)
    (hd' : Dialect.resolve? target = some d')
    (hserves : Action.run Action.engine p = (.ok e, q))
    (hgives : (Task.run (e.transpile sql d d') q.scene).1 = .ok l) :
    ∃ r, Action.run (Action.transpile sql source target) p = (.ok l, r) ∧ r.output = q.output := by
  obtain ⟨a, p', j, hrun, ha⟩ := Action.run_transpile_of_serves sql hd hd' hserves
  rw [Action.run_engineTask, Session.withJournal_scene, hgives] at ha
  exact ⟨_, hrun.trans (Action.run_translating_of_ok ha "transpile"), rfl⟩

/-- A run succeeds with a text as its output. -/
def Writes (i : Invocation) (p : Session σ α) (output : String) : Prop :=
  ∃ errors, (Action.run (run i) p).1 = .ok ⟨0, output, errors, none⟩

/-- A run for which the engine gives statements succeeds and writes them. -/
theorem writes_of_transpiles
    {i : Invocation} {g : Globals} {p : Session σ α} {l : List String}
    (h : Transpiles i g p l) :
    Writes i p (listOutput g.json l) := by
  obtain ⟨sql, source, target, d, d', s, e, q, ⟨name, words, hglobals, hcommand⟩, hs, hd, hd',
    hserves, hgives⟩ := h
  obtain ⟨j, hnamed⟩ := run_runNamed_of_ok (i := i) hs hcommand ⟨g.json, ""⟩ (startLog p.journal)
  -- what has been logged and written by now makes no other engine
  obtain ⟨j', hserves'⟩ := Action.run_engine_beside p ⟨g.json, ""⟩ j
  rw [hserves] at hserves'
  obtain ⟨r, htranspile, houtput⟩ := run_transpile_of_gives hd hd' hserves' hgives
  have houtput : r.output = ⟨g.json, ""⟩ := houtput
  have hwritten := run_writeStatements l r r.output r.journal
  rw [houtput, Output.append, String.empty_append] at hwritten
  have hbeside : r.beside ⟨g.json, ""⟩ r.journal = r := by rw [← houtput]; rfl
  rw [hbeside] at hwritten
  have hwords : Action.run (runWords i) (started p) =
      (.ok 0, r.beside ⟨g.json, listOutput g.json l⟩ r.journal) := by
    rw [started, run_runWords_of_ok hglobals, hnamed, runCommand, run_withOperation_of_ok htranspile]
    exact hwritten
  exact ⟨_, congrArg Prod.fst (run_run hwords)⟩

/-! ## What the output tells -/

theorem ascii_listOutput (l : List String) :
    Json.Ascii (listOutput true l).toList := by
  have hend : Json.Ascii ['\n'] := by decide
  rw [listOutput, if_pos rfl, String.toList_ofList]
  exact (Json.ascii_listing l).append hend

theorem read_listOutput (l : List String) :
    Json.read (listOutput true l) = .ok (.array (l.map Json.text)) :=
  Json.read_listing l (by simp [Json.isBlank])

/-- As JSON, different lists are different outputs. -/
theorem listOutput_injective
    {l l' : List String}
    (h : listOutput true l = listOutput true l') :
    l = l' := by
  have hread : Json.read (listOutput true l') = .ok (.array (l.map Json.text)) := by
    rw [← h]
    exact read_listOutput l
  rw [read_listOutput l'] at hread
  have htexts : l'.map Json.text = l.map Json.text := Json.array.inj (Except.ok.inj hread)
  exact ((List.map_inj_right fun _ _ => Json.text.inj).mp htexts).symm

/-- One to a line, a statement with a line end inside cannot be told from two statements. -/
theorem listOutput_lines
    (before after : List String)
    (s t : String) :
    listOutput false (before ++ (s ++ "\n" ++ t) :: after) =
      listOutput false (before ++ s :: t :: after) := by
  simp [listOutput, String.join_append, String.join_cons, String.append_assoc]

/--
What two command lines write for which the engine gives statements, any number of any strings.

As JSON, the whole output is ASCII and is read as the array of the statements, in their order; so two
outputs are the same only if the statements are.  One to a line, a statement with a line end inside
is written as two statements are.
-/
theorem output_of_transpiles
    {i i' : Invocation} {g g' : Globals} {p : Session σ α} {p' : Session σ' α'} {l l' : List String}
    (h : Transpiles i g p l)
    (h' : Transpiles i' g' p' l') :
    ∃ output output',
      Writes i p output ∧
      Writes i' p' output' ∧
      (g.json = true →
        Json.Ascii output.toList ∧ Json.read output = .ok (.array (l.map Json.text))) ∧
      (g.json = true → g'.json = true → (output = output' ↔ l = l')) ∧
      (g.json = false → g'.json = false → ∀ before s t after,
        l = before ++ (s ++ "\n" ++ t) :: after → l' = before ++ s :: t :: after →
          output = output') := by
  refine ⟨_, _, writes_of_transpiles h, writes_of_transpiles h', ?_, ?_, ?_⟩
  · intro hjson
    rw [hjson]
    exact ⟨ascii_listOutput l, read_listOutput l⟩
  · intro hjson hjson'
    rw [hjson, hjson']
    exact ⟨listOutput_injective, congrArg (listOutput true)⟩
  · rintro hjson hjson' before s t after rfl rfl
    rw [hjson, hjson']
    exact listOutput_lines before after s t

/-- An engine that gives the same statements for every text. -/
def giver (l : List String) : Engine Unit Value :=
  { checker unclosed with transpile := fun _ _ _ => return l }

/-- A session in which such an engine is registered. -/
def giving (l : List String) : Session Unit Value :=
  .supplied (giver l) ()

/-- Statements with a line end, a quote, a backslash, control characters and a character beyond the
sixteen-bit range. -/
def awkward : List String :=
  ["SELECT '\\\"\n\t'", "", String.ofList [Char.ofNat 0, Char.ofNat 127, Char.ofNat 128512]]

theorem output_of_transpiles_awkward :
    let i : Invocation :=
      ⟨["--json", "transpile", "-", "--from", "mysql", "--to", "postgres"], "SELECT 1", 80⟩
    Transpiles i ⟨true, false⟩ (giving awkward) awkward ∧
    Transpiles i ⟨true, false⟩ (giving []) [] ∧
    ∃ output output',
      Writes i (giving awkward) output ∧
      Writes i (giving []) output' ∧
      Json.Ascii output.toList ∧
      Json.read output = .ok (.array (awkward.map Json.text)) ∧
      output ≠ output' := by
  intro i
  have hreads : i.Reads ⟨true, false⟩ (.transpile "-" "mysql" "postgres") := ⟨_, _, rfl, rfl⟩
  have htranspiles : ∀ l, Transpiles i ⟨true, false⟩ (giving l) l := fun l =>
    .intro "-" "mysql" "postgres" _ _ _ (giver l) _ hreads rfl rfl rfl rfl rfl
  refine ⟨htranspiles awkward, htranspiles [], ?_⟩
  obtain ⟨output, output', hwrites, hwrites', hread, hsame, -⟩ :=
    output_of_transpiles (htranspiles awkward) (htranspiles [])
  refine ⟨output, output', hwrites, hwrites', (hread rfl).1, (hread rfl).2, ?_⟩
  rw [ne_eq, hsame rfl rfl]
  exact List.cons_ne_nil _ _

end CommandLine
end SqlDialects
