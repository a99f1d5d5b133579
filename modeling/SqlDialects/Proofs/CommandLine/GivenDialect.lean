import SqlDialects.Proofs.CommandLine.Flags
import SqlDialects.Proofs.CommandLine.Pipeline
import SqlDialects.Proofs.Session.Inquiries

/-!
# Dialects that are given to commands

A command works in the dialect that it is given by its option.  The default dialect has no part in
it, unless the name that is given is empty.

**Input.**  A command line with a dialect option that is not empty, any text, any input, and a session
whose settings load under the global options.

**Results.**
* `run_of_unknownName`: if the name stands for no dialect the run ends with exit code 2, writes
  nothing but a message that quotes the name, and leaves the session as it was, apart from the log and
  the way in which results are written.
* `exists_asked_of_run`: if it does, all that the engine is asked is asked in that dialect.
* `given_dialect`: both of them, whatever the default dialect is.
* `run_of_emptyName`: an empty name is taken for a name that is left out.
-/

namespace SqlDialects
namespace CommandLine

open SqlDialects.Action

variable {σ α β : Type}

/-- The dialect option of a command that has one. -/
def Command.option? : Command → Option String
  | .parse _ d | .parseOne _ d | .generate _ d | .format _ d | .validate _ d => d
  | .transpile _ _ _ | .dialects | .version => none

/-- What a command with a dialect does, whatever the default dialect is: it performs its operation, and
then it changes nothing but the log and the output. -/
theorem exists_runCommand_of_given
    {c : Command} {name : String}
    (hgiven : c.option? = some name)
    (hname : name ≠ "")
    (i : Invocation)
    (fallback : String) :
    ∃ (op : Operation) (a : Action σ α String) (go : String → Action σ α Nat),
      c.operation? i.input fallback = some op ∧
      op.dialects = [name] ∧
      op.action = Answer.text <$> a ∧
      (runCommand i c : Action σ α Nat) = withOperation i.width a go ∧
      ∀ s, Outward (go s) := by
  have hchosen : chosen fallback (some name) = name := by
    have hopen : name.isEmpty = false := by
      rw [Bool.eq_false_iff, ne_eq, String.isEmpty_iff]
      exact hname
    rw [chosen, isOpen, hopen, if_neg Bool.false_ne_true]
    rfl
  cases c with
  | transpile sql source target | dialects | version =>
      cases hgiven
  | parse sql d | parseOne sql d | generate payload d | format sql d =>
      obtain rfl : d = some name := hgiven
      exact ⟨_, _, _, rfl, by rw [Operation.dialects, hchosen], by rw [hchosen]; rfl,
        by rw [runCommand, inDialect_of_given hname],
        fun s => (presenting_writeText s).outward⟩
  | validate sql d =>
      obtain rfl : d = some name := hgiven
      exact ⟨_, _, _, rfl, by rw [Operation.dialects, hchosen], by rw [hchosen]; rfl,
        by rw [runCommand, inDialect_of_given hname],
        fun s => (presenting_showReport i s).outward⟩

/-- A run with an operation changes the session as the operation does, apart from the log and the
output. -/
theorem run_withOperation_snd
    (width : Nat)
    (a : Action σ α β)
    {go : β → Action σ α Nat}
    (hgo : ∀ b, Outward (go b))
    (p : Session σ α) :
    ∃ o j, (Action.run (withOperation width a go) p).2 = (Action.run a p).2.beside o j := by
  rw [withOperation, run_bind, run_outcome]
  rcases Action.run a p with ⟨f | b, q⟩
  · exact (quiet_failed width f).outward q
  · exact hgo b q

/-- What is shown for a name that stands for no dialect: the name as it was given, in quotes. -/
def unknownMessage (name : String) : String :=
  "unknown dialect: '" ++ name ++ "'. Use polyglot_bridge.dialects() to see supported dialects"

section Given

variable {i : Invocation} {g : Globals} {c : Command} {name : String}
  (hreads : i.Reads g c)
  (hgiven : c.option? = some name)
  (hname : name ≠ "")
include hreads hgiven hname

/-- A name that stands for no dialect ends the run: it is shown, nothing else is written, and the
session stays as it was, apart from the log and the way in which results are written. -/
theorem run_of_unknownName
    {p : Session σ α} {s : Settings}
    (hs : loaded p g.overrides = .ok s)
    (hunknown : Dialect.resolve? name = none) :
    ∃ before shown j,
      printMarkup i.width (messageMarkup none (unknownMessage name)) = .ok shown ∧
      Action.run (run i) p = (.ok ⟨2, "", before ++ shown, none⟩, p.beside ⟨g.json, ""⟩ j) := by
  obtain ⟨word, words, hglobals, hcommand⟩ := hreads
  obtain ⟨j, hj⟩ := run_runNamed_of_ok hs hcommand ⟨g.json, ""⟩ (startLog p.journal)
  obtain ⟨op, a, go, -, hdialects, haction, hrun, -⟩ :=
    @exists_runCommand_of_given σ α _ _ hgiven hname i name
  obtain ⟨shown, hshown⟩ := exists_printMarkup_message i.width none (unknownMessage name)
  have hfails : Action.run a (p.beside ⟨g.json, ""⟩ j) =
      (.error (.unknownDialect name), p.beside ⟨g.json, ""⟩ j) := by
    have hop := @Operation.run_of_first_unresolved σ α op (p.beside ⟨g.json, ""⟩ j) [] [] name
      hdialects (by simp) hunknown
    rw [haction, run_map] at hop
    rcases ha : Action.run a (p.beside ⟨g.json, ""⟩ j) with ⟨f | text, q⟩
    · rw [ha] at hop
      cases hop
      rfl
    · rw [ha] at hop
      cases hop
  have hwords : Action.run (runWords i) (started p) =
      (.ok 2, p.beside ⟨g.json, ""⟩ (j.write .terminal shown)) := by
    rw [started, run_runWords_of_ok hglobals, hj, hrun]
    exact run_withOperation_of_shown hfails rfl hshown go
  exact ⟨j.terminal, shown, _, hshown, run_run hwords⟩

/-- All that the engine is asked in the run is asked in the dialect that the name stands for, beginning
with the opening of the operation. -/
theorem exists_asked_of_run
    {e : Engine σ α} {p q : Session (σ × List (Inquiry α)) α} {s : Settings} {d : Dialect}
    (hs : loaded p g.overrides = .ok s)
    (hd : Dialect.resolve? name = some d)
    (hserves : Action.run Action.engine p = (.ok e.heard, q)) :
    ∃ op asked,
      c.operation? i.input s.defaultDialect.name = some op ∧
      (Action.run (run i) p).2.world.2 = q.world.2 ++ asked ∧
      (∀ x ∈ asked, x.IsIn d) ∧
      asked.head? = op.opening? e q.world.1 d := by
  obtain ⟨word, words, hglobals, hcommand⟩ := hreads
  obtain ⟨j, hj⟩ := run_runNamed_of_ok hs hcommand ⟨g.json, ""⟩ (startLog p.journal)
  obtain ⟨op, a, go, hop, hdialects, haction, hrun, hgo⟩ :=
    @exists_runCommand_of_given (σ × List (Inquiry α)) α _ _ hgiven hname i s.defaultDialect.name
  have hnames : ∀ n ∈ op.dialects, Dialect.resolve? n = some d := by
    rw [hdialects]
    exact List.forall_mem_singleton.mpr hd
  -- the operation, from the log and the output that the run has reached
  obtain ⟨j₁, hserves₁⟩ := run_engine_beside p ⟨g.json, ""⟩ j
  rw [hserves] at hserves₁
  obtain ⟨j₂, hobtained⟩ := Operation.run_of_obtained
    (fun n hn => Option.ne_none_iff_exists'.mpr ⟨d, hnames n hn⟩) hserves₁
  obtain ⟨asked, hasked, hin, hhead⟩ :=
    op.exists_asked_of_onEngine e hnames ((q.beside ⟨g.json, ""⟩ j₁).withJournal j₂)
  refine ⟨op, asked, hop, ?_, hin, hhead⟩
  rw [← hobtained, haction, run_map] at hasked
  -- what is shown and written changes the log and the output only
  obtain ⟨o, j₃, hsnd⟩ := run_withOperation_snd i.width a hgo (p.beside ⟨g.json, ""⟩ j)
  have hafter : (Action.run (run i) p).2 =
      (Action.run a (p.beside ⟨g.json, ""⟩ j)).2.beside o j₃ := by
    rw [← hsnd, ← hrun, ← hj, ← run_runWords_of_ok hglobals p ⟨p.output.json, ""⟩]
    exact after_eq i p
  rw [hafter]
  exact hasked

end Given

/--
A dialect that is given under a name that is not empty is not replaced by the default dialect, whatever
that is.

If the name stands for no dialect the exit code is 2, there is no output, and the message quotes the
name; the session stays as it was, apart from the log and the way in which results are written, so the
engine is not even obtained.  If it stands for a dialect, all that the engine is asked about SQL in the
run is asked in that dialect, and what is asked first is what the operation opens with.  Every
operation opens with an inquiry but that on a payload of which no tree can be loaded.
-/
theorem given_dialect
    {i : Invocation} {g : Globals} {c : Command} {name : String} {s : Settings}
    {p : Session (σ × List (Inquiry α)) α}
    (hreads : i.Reads g c)
    (hgiven : c.option? = some name)
    (hname : name ≠ "")
    (hs : loaded p g.overrides = .ok s) :
    (Dialect.resolve? name = none →
      ∃ before shown j,
        printMarkup i.width (messageMarkup none (unknownMessage name)) = .ok shown ∧
        Action.run (run i) p = (.ok ⟨2, "", before ++ shown, none⟩, p.beside ⟨g.json, ""⟩ j)) ∧
    ∀ d e q, Dialect.resolve? name = some d →
      Action.run Action.engine p = (.ok (Engine.heard e), q) →
      ∃ op asked,
        c.operation? i.input s.defaultDialect.name = some op ∧
        (Action.run (run i) p).2.world.2 = q.world.2 ++ asked ∧
        (∀ x ∈ asked, x.IsIn d) ∧
        asked.head? = op.opening? e q.world.1 d :=
  ⟨run_of_unknownName hreads hgiven hname hs,
    fun _ _ _ hd hserves => exists_asked_of_run hreads hgiven hname hs hd hserves⟩

/-- A session whose engine passes texts on and is heard, and whose default dialect is MySQL. -/
def overheard : Session (Unit × List (Inquiry String)) String :=
  { Session.supplied relay.heard ((), []) with
    environment := [("POLYGLOT_DEFAULT_DIALECT", "mysql")] }

/-- A text is parsed in a given dialect. -/
def parsingIn (name : String) : Invocation :=
  ⟨["parse-one", "SELECT 1", "--dialect", name], "", 80⟩

theorem given_dialect_overheard :
    (∃ s, loaded overheard (Globals.overrides ⟨false, false⟩) = .ok s ∧ s.defaultDialect = .mysql) ∧
    (Dialect.resolve? "nowhere" = none ∧
      (parsingIn "nowhere").Reads ⟨false, false⟩ (.parseOne "SELECT 1" (some "nowhere")) ∧
      ∃ before shown j,
        printMarkup 80 (messageMarkup none (unknownMessage "nowhere")) = .ok shown ∧
        Action.run (run (parsingIn "nowhere")) overheard =
          (.ok ⟨2, "", before ++ shown, none⟩, overheard.beside ⟨false, ""⟩ j)) ∧
    (Dialect.resolve? "PostgreSQL" = some .postgres ∧
      (parsingIn "PostgreSQL").Reads ⟨false, false⟩ (.parseOne "SELECT 1" (some "PostgreSQL")) ∧
      (∀ x ∈ (Action.run (run (parsingIn "PostgreSQL")) overheard).2.world.2, x.IsIn .postgres) ∧
      (Action.run (run (parsingIn "PostgreSQL")) overheard).2.world.2.head? =
        some (.parseOne "SELECT 1" .postgres)) := by
  have hreads : ∀ name, (parsingIn name).Reads ⟨false, false⟩ (.parseOne "SELECT 1" (some name)) :=
    fun name => reads_parseOne (.inr (by decide)) name "" 80
  obtain ⟨s, hs, hmysql⟩ : ∃ s, loaded overheard (Globals.overrides ⟨false, false⟩) = .ok s ∧
      s.defaultDialect = .mysql := ⟨_, rfl, rfl⟩
  have hnowhere : Dialect.resolve? "nowhere" = none := by decide +kernel
  have hpostgres : Dialect.resolve? "PostgreSQL" = some .postgres := by decide +kernel
  refine ⟨⟨s, hs, hmysql⟩, ⟨hnowhere, hreads _, ?_⟩, hpostgres, hreads _, ?_⟩
  · exact (given_dialect (hreads "nowhere") rfl (by decide) hs).1 hnowhere
  · obtain ⟨op, asked, hop, hasked, hin, hhead⟩ :=
      (given_dialect (hreads "PostgreSQL") rfl (by decide) hs).2 .postgres relay _ hpostgres rfl
    cases hop
    rw [hasked]
    exact ⟨hin, hhead⟩

/-! ## Names that are empty -/

/-- The command with its dialect left open. -/
def Command.leftOpen : Command → Command
  | .parse sql _ => .parse sql none
  | .parseOne sql _ => .parseOne sql none
  | .generate payload _ => .generate payload none
  | .format sql _ => .format sql none
  | .validate sql _ => .validate sql none
  | c => c

/-- A name that is empty is taken for a name that is left out. -/
theorem run_of_emptyName
    {i i' : Invocation} {g : Globals} {c : Command}
    (hreads : i.Reads g c)
    (hempty : c.option? = some "")
    (hreads' : i'.Reads g c.leftOpen)
    (hinput : i.input = i'.input)
    (hwidth : i.width = i'.width) :
    (run i : Action σ α Outcome) = run i' := by
  refine run_congr hreads hreads' hwidth ?_
  have hreport := showReport_congr (σ := σ) (α := α) hwidth
  cases c with
  | transpile sql source target | dialects | version =>
      cases hempty
  | parse sql d | parseOne sql d | generate payload d | format sql d =>
      obtain rfl : d = some "" := hempty
      rw [Command.leftOpen, runCommand, runCommand, hinput, hwidth]
      rfl
  | validate sql d =>
      obtain rfl : d = some "" := hempty
      simp only [Command.leftOpen, runCommand, hinput, hwidth, hreport]
      rfl

/-- So a name that stands for no dialect does not end a run: the engine is asked in the default
dialect. -/
theorem run_parsingIn_empty :
    (parsingIn "").Reads ⟨false, false⟩ (.parseOne "SELECT 1" (some "")) ∧
    Dialect.resolve? "" = none ∧
    (Action.run (run (parsingIn "")) overheard).1.toOption.map Outcome.exitCode = some 0 ∧
    (Action.run (run (parsingIn "")) overheard).2.world.2 = [.parseOne "SELECT 1" .mysql] := by
  have hrun : ((Action.run (run (parsingIn "")) overheard).1.toOption.map Outcome.exitCode,
      (Action.run (run (parsingIn "")) overheard).2.world.2) =
      (some 0, [.parseOne "SELECT 1" .mysql]) := by decide +kernel
  obtain ⟨hcode, hasked⟩ := Prod.mk.inj hrun
  exact ⟨reads_parseOne (.inr (by decide)) "" "" 80, by decide +kernel, hcode, hasked⟩

end CommandLine
end SqlDialects
