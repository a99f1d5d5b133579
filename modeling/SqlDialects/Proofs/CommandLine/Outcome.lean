import SqlDialects.Proofs.CommandLine.Commands
import SqlDialects.Proofs.Session.Samples

/-!
# How a command line ends

The exit code and the output of a command line, from what the settings and its operation come to.

**Input.**  A command line that can be read and performs an operation, any text on the input, any
environment, and a session with the standard error classes in which a disciplined engine can be
obtained.

**Specification.**  `Course` says which operation is performed, or why there is none, and how the run
ends.

**Results.**
* `run_runWords`: a run takes its course, whatever has been logged and written before.
* `run_course`: the law of exit codes and outputs.
* `run_run_of_unread`: a report that is not read back ends the run with a failure of another kind.
-/

namespace SqlDialects
namespace CommandLine

variable {σ α : Type}

/-! ## The specification -/

/-- The overrides with which settings are loaded before a command runs. -/
def Globals.overrides (g : Globals) : List (String × Value) :=
  if g.verbose then [("debug", .bool true)] else []

/-- The course of a run in a session, with how it ends, what it writes and the session that it leaves:
the settings do not load, or those that hold without overrides do not and are needed, or the operation
is performed. -/
inductive Course (p : Session σ α) (input : String) (g : Globals) (c : Command) :
    Except Failure Nat → (output : String) → Session σ α → Prop where
  | unloaded (f : Failure)
      (h : loaded p g.overrides = .error f) :
      Course p input g c (.ok 2) "" p
  | undecided (s : Settings) (f : Failure)
      (h : loaded p g.overrides = .ok s)
      (huses : c.usesDefault = true)
      (hdefault : loaded p [] = .error f) :
      Course p input g c (.ok 2) "" p
  | performed (s : Settings) (op : Operation) (ending : Except Failure Nat) (output : String)
      (h : loaded p g.overrides = .ok s)
      (hdefault : c.usesDefault = true → ∃ t, loaded p [] = .ok t)
      (hop : c.operation? input s.defaultDialect.name = some op)
      (hends : Ends g.json op (Action.run op.action p).1 ending output) :
      Course p input g c ending output (Action.run op.action p).2

/-! ## Runs -/

/-- The log at the start of a run. -/
def startLog (j : Log.Journal) : Log.Journal :=
  { j with terminal := "" }

/-- The session at the start of a run: nothing has been written or shown yet. -/
def started (p : Session σ α) : Session σ α :=
  p.beside ⟨p.output.json, ""⟩ (startLog p.journal)

/-- What a run leaves behind, from what its words have written and shown and how they have ended. -/
def outcomeOf (output errors : String) : Except Failure Nat → Outcome
  | .ok code => ⟨code, output, errors, none⟩
  | .error f => ⟨1, output, errors, some f⟩

/-- A run of a command line is a run of its words: it leaves the session as they do, and behind it what
they have written and shown. -/
theorem run_run
    {i : Invocation} {p q : Session σ α} {ending : Except Failure Nat}
    (h : Action.run (runWords i) (started p) = (ending, q)) :
    Action.run (run i) p = (.ok (outcomeOf q.output.written q.journal.terminal ending), q) := by
  have hstart : Action.run beginRun p = (.ok (), started p) := rfl
  rw [run, Action.run_bind_of_ok hstart, Action.run_bind, Action.run_outcome, h]
  cases ending <;> rfl

/-- Whether results are written as JSON is settled before anything else. -/
theorem run_runWords_of_ok
    {i : Invocation} {g : Globals} {name : String} {words : List String}
    (hglobals : readGlobals i.words = .ok (g, name, words))
    (p : Session σ α)
    (o : Output)
    (j : Log.Journal) :
    Action.run (runWords i) (p.beside o j) =
      Action.run (runNamed i g name words) (p.beside ⟨g.json, o.written⟩ j) := by
  rw [runWords, hglobals]
  rfl

/-- Settings that do not load end the run, from how that is shown. -/
theorem run_runNamed_of_shown
    {i : Invocation} {p : Session σ α} {g : Globals} {f : Failure} {shown : String}
    (h : loaded p g.overrides = .error f)
    (hshown : printMarkup i.width (messageMarkup none f.text) = .ok shown)
    (name : String)
    (words : List String) :
    Action.run (runNamed i g name words) p =
      (.ok 2, p.withJournal (p.journal.write .terminal shown)) := by
  have hload : Action.run (Action.loadSettings g.overrides) p = (.error f, p) :=
    run_loadSettings_of_error h
  have hconfiguration : f.isA .configuration = true := by
    rw [Failure.isA, Settings.cls_of_load h]
    rfl
  rw [runNamed, Action.run_bind, Action.run_outcome, ← Globals.overrides, hload]
  dsimp only
  rw [if_pos hconfiguration]
  exact run_showMessage_code_of_shown hshown 2 p

theorem run_runNamed_of_error
    {i : Invocation} {p : Session σ α} {g : Globals} {f : Failure}
    (h : loaded p g.overrides = .error f)
    (name : String)
    (words : List String)
    (o : Output)
    (j : Log.Journal) :
    ∃ j', Action.run (runNamed i g name words) (p.beside o j) = (.ok 2, p.beside o j') := by
  obtain ⟨shown, hshown⟩ := exists_printMarkup_message i.width none f.text
  exact ⟨_, run_runNamed_of_shown (p := p.beside o j) h hshown name words⟩

/-- What a run does once its settings have loaded. -/
def runRead (i : Invocation) (name : String) (words : List String) : Action σ α Nat :=
  match readCommand name words with
  | .help => return 0
  | .misuse => return 2
  | .ok c => runCommand i c

theorem run_runNamed_of_loaded
    {p : Session σ α} {g : Globals} {s : Settings}
    (h : loaded p g.overrides = .ok s)
    (i : Invocation)
    (name : String)
    (words : List String)
    (o : Output)
    (j : Log.Journal) :
    ∃ j', Action.run (runNamed i g name words) (p.beside o j) =
      Action.run (runRead i name words) (p.beside o j') := by
  have hload : Action.run (Action.loadSettings g.overrides) (p.beside o j) =
      (.ok s, p.beside o (j.logAll s.loadingRecords)) :=
    run_loadSettings_of_ok (p := p.beside o j) h
  rw [runNamed, Action.run_bind, Action.run_outcome, ← Globals.overrides, hload]
  exact ⟨_, rfl⟩

theorem run_runNamed_of_ok
    {i : Invocation} {p : Session σ α} {g : Globals} {s : Settings} {name : String}
    {words : List String} {c : Command}
    (h : loaded p g.overrides = .ok s)
    (hcommand : readCommand name words = .ok c)
    (o : Output)
    (j : Log.Journal) :
    ∃ j', Action.run (runNamed i g name words) (p.beside o j) =
      Action.run (runCommand i c) (p.beside o j') := by
  obtain ⟨j', hj'⟩ := run_runNamed_of_loaded h i name words o j
  rw [runRead, hcommand] at hj'
  exact ⟨j', hj'⟩

/-- Settings that load with and without debugging have one default dialect. -/
theorem defaultDialect_of_loaded
    {p : Session σ α} {g : Globals} {s t : Settings}
    (hs : loaded p g.overrides = .ok s)
    (ht : loaded p [] = .ok t) :
    s.defaultDialect = t.defaultDialect := by
  unfold Globals.overrides at hs
  split at hs
  · exact Settings.defaultDialect_of_load hs ht
  · rw [ht] at hs
    cases hs
    rfl

/-- What a dialect that is left open comes to. -/
theorem fallback_of_loaded
    {p : Session σ α} {g : Globals} {s : Settings} {needed : Prop}
    (hs : loaded p g.overrides = .ok s)
    (hdefault : needed → ∃ t, loaded p [] = .ok t) :
    needed → ∃ t, loaded p [] = .ok t ∧ t.defaultDialect.name = s.defaultDialect.name := by
  intro hneeded
  obtain ⟨t, ht⟩ := hdefault hneeded
  exact ⟨t, ht, by rw [defaultDialect_of_loaded hs ht]⟩

/-- Runs that end with exit code 1 or 2 write nothing. -/
theorem Course.output_eq
    {p q : Session σ α} {input : String} {g : Globals} {c : Command} {ending : Except Failure Nat}
    {output errors : String}
    (h : Course p input g c ending output q)
    (hcode : (outcomeOf output errors ending).exitCode = 1 ∨
      (outcomeOf output errors ending).exitCode = 2) :
    output = "" := by
  cases h with
  | unloaded f h => rfl
  | undecided s f h huses hdefault => rfl
  | performed s op ending output h hdefault hop hends =>
      generalize (Action.run op.action p).1 = answer at hends
      cases hends with
      | misused op f h => rfl
      | failed op f hbridge h => rfl
      | unread sql dialect r f hlong hread => rfl
      | statements sql source target l => simp [outcomeOf] at hcode
      | text op s hop => simp [outcomeOf] at hcode
      | report sql dialect r hread => cases hvalid : r.valid <;> simp [outcomeOf, hvalid] at hcode

/-- The words of a command line take their course, whatever has been logged and written before. -/
theorem run_runWords
    {i : Invocation} {p q : Session σ α} {e : Engine σ α} {g : Globals} {name : String}
    {words : List String} {c : Command}
    (hglobals : readGlobals i.words = .ok (g, name, words))
    (hcommand : readCommand name words = .ok c)
    (hoperates : c ≠ .dialects ∧ c ≠ .version)
    (herrors : p.errors = some .standard)
    (hserves : Action.run Action.engine p = (.ok e, q))
    (he : e.Disciplined)
    (hreports : ∀ sql d, c = .validate sql d → Presents g.json e)
    (o : Output)
    (j : Log.Journal) :
    ∃ ending output r j', Action.run (runWords i) (p.beside o j) =
        (ending, r.beside ⟨g.json, o.written ++ output⟩ j') ∧
      Course p i.input g c ending output r := by
  rw [run_runWords_of_ok hglobals]
  cases hs : loaded p g.overrides with
  | error f =>
      obtain ⟨j', hj'⟩ := run_runNamed_of_error (i := i) hs name words ⟨g.json, o.written⟩ j
      exact ⟨.ok 2, "", p, j', by rw [String.append_empty]; exact hj', .unloaded f hs⟩
  | ok s =>
      obtain ⟨j₁, hj₁⟩ := run_runNamed_of_ok (i := i) hs hcommand ⟨g.json, o.written⟩ j
      rw [hj₁]
      by_cases hdecided : c.usesDefault = true → ∃ t, loaded p [] = .ok t
      · obtain ⟨op, hop⟩ := Command.exists_operation hoperates i.input s.defaultDialect.name
        obtain ⟨ending, output, j', hrun, hends⟩ := run_runCommand (o := ⟨g.json, o.written⟩) herrors
          hserves he hreports (fallback_of_loaded hs hdecided) hop j₁
        exact ⟨ending, output, _, j', hrun, .performed s op ending output hs hdecided hop hends⟩
      · obtain ⟨huses, hnone⟩ := Classical.not_imp.mp hdecided
        cases hdefault : loaded p [] with
        | ok t =>
            exact absurd ⟨t, hdefault⟩ hnone
        | error f =>
            obtain ⟨j', hj'⟩ := run_runCommand_of_undecided
              (p := p.beside ⟨g.json, o.written⟩ j₁) (i := i) huses hdefault
            exact ⟨.ok 2, "", p, j', by rw [String.append_empty]; exact hj',
              .undecided s f hs huses hdefault⟩

/-- An engine whose trees are texts and which gives the same report on every text. -/
def checker (report : Report) : Engine Unit Value :=
  { kind := "checker"
    level := none
    version := return "1.0"
    transpile := fun sql _ _ => return [sql]
    parse := fun sql _ => return [.text sql]
    parseOne := fun sql _ => return .text sql
    generate := fun tree _ _ =>
      match tree with
      | .text sql => return sql
      | _ => throw (.ofEngine .generate "no text")
    validate := fun _ _ => return report
    dump := fun tree => return tree
    load := fun data =>
      match data with
      | .text sql => return .text sql
      | _ => throw (.of .payload "no text") }

theorem disciplined_checker (report : Report) :
    (checker report).Disciplined where
  transpile := fun _ _ _ _ _ h => by cases h
  parse := fun _ _ _ _ h => by cases h
  parseOne := fun _ _ _ _ h => by cases h
  generate := fun tree _ _ _ _ h => by cases tree <;> cases h <;> rfl
  validate := fun _ _ _ _ h => by cases h
  dump := fun _ _ _ h => by cases h
  load := fun data _ _ h => by cases data <;> cases h <;> rfl

/-- A session in which such an engine is registered. -/
def checking (report : Report) (environment : List (String × String)) : Session Unit Value :=
  { Session.supplied (checker report) () with environment := environment }

/-- A report whose message looks like markup. -/
def unclosed : Report :=
  ⟨false, [⟨"expected [/b] \\", some 1, some 8, .error, "parse"⟩]⟩

theorem presents_unclosed :
    Presents false (checker unclosed) := by
  intro sql d scene r hr _ issue hi
  cases hr
  obtain rfl := List.mem_singleton.mp hi
  decide

/-- The settings load only with debugging turned on. -/
def unsettled : Session Unit Value :=
  checking unclosed [("POLYGLOT_DEBUG", "perhaps")]

theorem loaded_unsettled :
    (∃ s, loaded unsettled [("debug", .bool true)] = .ok s ∧ s.defaultDialect = .generic) ∧
    ∃ f, loaded unsettled [] = .error f := by
  constructor
  · exact ⟨_, rfl, rfl⟩
  · exact ⟨_, rfl⟩

/-- The report is about a line far before the first one: its number is a minus sign, a one and some
zeros. -/
def remote (zeros : Nat) : Report :=
  .warningAt (-(10 ^ zeros : Nat))

theorem read_remote
    {zeros : Nat}
    (h : Validation.StrictJson.wholeLimit ≤ zeros) :
    ∃ f, Report.read (remote zeros).render = .error f := by
  have hpos : 0 < 10 ^ zeros := Nat.pow_pos (by decide)
  have hneg : (-(10 ^ zeros : Nat) : Int) < 0 := by omega
  have hdigits := Decimal.lt_length_natChars_pow zeros
  refine Report.read_render_of_long hneg ?_
  rw [Int.natAbs_neg, Int.natAbs_natCast]
  omega

/-- The text of a report that is not read back ends a run with the failure to read it. -/
theorem Ends.eq_error_of_read
    {json : Bool} {sql dialect text output : String} {ending : Except Failure Nat} {f : Failure}
    (h : Ends json (.validate sql dialect) (.ok (.text text)) ending output)
    (hread : Report.read text = .error f) :
    ending = .error f := by
  cases h with
  | text op s hop =>
      exact absurd rfl (hop sql dialect)
  | report sql dialect r hback =>
      rw [hback] at hread
      cases hread
  | unread sql dialect r f' hlong hback =>
      rw [hback] at hread
      cases hread
      rfl

/-- A report that is not read back ends a run that is to check a text, and no exit code says so. -/
theorem run_run_of_unread
    {i : Invocation} {p q : Session σ α} {e : Engine σ α} {g : Globals} {name sql : String}
    {words : List String} {option : Option String} {s : Settings} {text : String} {f : Failure}
    (hglobals : readGlobals i.words = .ok (g, name, words))
    (hcommand : readCommand name words = .ok (.validate sql option))
    (herrors : p.errors = some .standard)
    (hserves : Action.run Action.engine p = (.ok e, q))
    (he : e.Disciplined)
    (hreports : Presents g.json e)
    (hs : loaded p g.overrides = .ok s)
    (hoption : isOpen option = false)
    (hgives : (Action.run (Operation.validate (givenText i.input sql)
      (chosen s.defaultDialect.name option)).action p).1 = .ok (.text text))
    (hread : Report.read text = .error f) :
    ∃ o, (Action.run (run i) p).1 = .ok o ∧ o.exitCode = 1 ∧ o.failure = some f := by
  obtain ⟨ending, output, r, j, hwords, hcourse⟩ := run_runWords hglobals hcommand ⟨by simp, by simp⟩
    herrors hserves he (fun _ _ _ => hreports) ⟨p.output.json, ""⟩ (startLog p.journal)
  have hended : ending = .error f := by
    cases hcourse with
    | unloaded f' h =>
        rw [hs] at h
        cases h
    | undecided s' f' h huses hdefault =>
        rw [Command.usesDefault, hoption] at huses
        cases huses
    | performed s' op ending output h hdefault hop hends =>
        rw [hs] at h
        cases h
        cases hop
        rw [hgives] at hends
        exact hends.eq_error_of_read hread
  rw [run_run hwords, hended]
  exact ⟨_, rfl, rfl, rfl⟩

/-- A text is laid out in the default dialect, with debugging turned on. -/
def verboseFormat : Invocation :=
  ⟨["--verbose", "format", "SELECT 1"], "", 80⟩

/-- A text is checked in a given dialect. -/
def givenCheck : Invocation :=
  ⟨["validate", "-d", "mysql", "SELECT 1"], "", 80⟩

end CommandLine
end SqlDialects
