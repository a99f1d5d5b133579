import SqlDialects.Proofs.CommandLine.Outcome
import SqlDialects.Proofs.Session.Likeness

/-!
# Flags end with their run

A process runs one command line after another, while its surroundings change.  A run leaves to the
next ones the log as it has set it up, the way in which its results were written, the engine, and the
world on which the engine works.  Of the first two a later run takes no notice: it settles them anew
before it writes anything.

**Input.**  Two processes of runs and changes whose earlier command lines differ in their global
options, in a session in which an engine or a factory is registered.

**View.**  `play` gives what can be seen of each run from outside, its exit code and its output, and
the session after all of them.

**Invariant.**  With a `Likeness` of sessions, runs of one command line are alike (`run_alike`): once
it is settled how results are written their outputs go abreast.  If the likeness looks at neither log
nor output, runs with other global options leave sessions that are alike, as long as the settings load
in both or in neither (`run_reflagged`).

**Results.**
* `reflagged_of_flags`: other words for global options make no other command of the rest.
* `later_runs_alike`: what later runs give does not depend on the global options of earlier ones.
* `later_run_of_unsettled`: settings that load only with debugging turned on decide whether an engine
  is asked, and an engine may remember that.
-/

namespace SqlDialects
namespace CommandLine

open SqlDialects.Action

variable {σ α β γ : Type}

/-! ## Command lines with other global options -/

/-- Readings with one command, or none for one reason; global options may differ. -/
inductive ReadAlike : Reading (Globals × String × List String) →
    Reading (Globals × String × List String) → Prop
  | help : ReadAlike .help .help
  | misuse : ReadAlike .misuse .misuse
  | ok (g g' : Globals) (name : String) (words : List String) :
      ReadAlike (.ok (g, name, words)) (.ok (g', name, words))

theorem readAlike_refl (r : Reading (Globals × String × List String)) :
    ReadAlike r r := by
  cases r with
  | help => exact .help
  | misuse => exact .misuse
  | ok read => exact .ok read.1 read.1 read.2.1 read.2.2

theorem ReadAlike.symm
    {r r' : Reading (Globals × String × List String)}
    (h : ReadAlike r r') :
    ReadAlike r' r := by
  cases h with
  | help => exact .help
  | misuse => exact .misuse
  | ok g g' name words => exact .ok g' g name words

theorem ReadAlike.trans
    {r r' r'' : Reading (Globals × String × List String)}
    (h : ReadAlike r r')
    (h' : ReadAlike r' r'') :
    ReadAlike r r'' := by
  cases h with
  | help => exact h'
  | misuse => exact h'
  | ok g g' name words =>
      cases h' with
      | ok _ g'' _ _ => exact .ok g g'' name words

/-- Invocations that differ in nothing but global options. -/
structure Invocation.Reflagged (i i' : Invocation) : Prop where
  words : ReadAlike (readGlobals i.words) (readGlobals i'.words)
  input : i'.input = i.input
  width : i'.width = i.width

/-- The words that turn a global option on or off. -/
def flagWords : List String :=
  ["--json", "--no-json", "--verbose", "-v"]

theorem scan_flag
    {word : String}
    (h : word ∈ flagWords)
    (words : List String) :
    ∃ o : Occurrence, o.key ≠ .help ∧ scan globalForms false (word :: words) =
      (scan globalForms false words).map fun (os, as) => (o :: os, as) := by
  simp only [flagWords, List.mem_cons, List.not_mem_nil, or_false] at h
  rcases h with rfl | rfl | rfl | rfl
  · exact ⟨⟨.json, ""⟩, by decide, rfl⟩
  · exact ⟨⟨.noJson, ""⟩, by decide, rfl⟩
  · exact ⟨⟨.verbose, ""⟩, by decide, rfl⟩
  · exact ⟨⟨.verbose, ""⟩, by decide, rfl⟩

theorem scan_flags
    {flags : List String}
    (h : ∀ w ∈ flags, w ∈ flagWords)
    (words : List String) :
    ∃ os : List Occurrence, wantsHelp os = false ∧ scan globalForms false (flags ++ words) =
      (scan globalForms false words).map fun (os', as) => (os ++ os', as) := by
  induction flags with
  | nil =>
      exact ⟨[], rfl, by simp⟩
  | cons flag flags ih =>
      obtain ⟨hflag, hflags⟩ := List.forall_mem_cons.mp h
      obtain ⟨os, hos, hscan⟩ := ih hflags
      obtain ⟨o, ho, hfirst⟩ := scan_flag hflag (flags ++ words)
      refine ⟨o :: os, ?_, ?_⟩
      · rw [wantsHelp] at hos ⊢
        simpa [ho] using hos
      · rw [List.cons_append, hfirst, hscan, Option.map_map]
        rfl

/-- Words that turn global options on or off leave the reading of the rest as it is. -/
theorem readGlobals_flags
    {flags : List String}
    (h : ∀ w ∈ flags, w ∈ flagWords)
    (words : List String) :
    ReadAlike (readGlobals words) (readGlobals (flags ++ words)) := by
  obtain ⟨os, hos, hscan⟩ := scan_flags h words
  rw [wantsHelp] at hos
  cases words with
  | nil =>
      have hnone : readGlobals (flags ++ []) = .misuse := by
        rw [readGlobals, hscan]
        split
        · rfl
        · simp [scan, wantsHelp, hos]
      rw [hnone]
      exact .misuse
  | cons word words =>
      rw [readGlobals, readGlobals, hscan, List.isEmpty_cons, if_neg Bool.false_ne_true,
        if_neg (by simp)]
      rcases scan globalForms false (word :: words) with _ | ⟨os', as⟩
      · exact .misuse
      · dsimp only [Option.map_some]
        rw [wantsHelp, wantsHelp, List.any_append, hos, Bool.false_or]
        split
        · exact .help
        · cases as with
          | nil =>
              exact .misuse
          | cons name rest =>
              dsimp only
              split
              · exact .ok _ _ name rest
              · exact readAlike_refl _

theorem reflagged_of_flags
    {flags flags' : List String}
    (h : ∀ w ∈ flags, w ∈ flagWords)
    (h' : ∀ w ∈ flags', w ∈ flagWords)
    (words : List String)
    (input : String)
    (width : Nat) :
    Invocation.Reflagged ⟨flags ++ words, input, width⟩ ⟨flags' ++ words, input, width⟩ :=
  ⟨(readGlobals_flags h words).symm.trans (readGlobals_flags h' words), rfl, rfl⟩

/-! ## What is shown -/

theorem quiet_toTerminal (s : String) :
    Quiet (toTerminal s : Action σ α Unit) :=
  ⟨.ok (), fun p => ⟨p.journal.write .terminal s, rfl⟩⟩

theorem quiet_showMessage
    (width : Nat)
    (label : Option String)
    (message : String) :
    Quiet (showMessage width label message : Action σ α Unit) :=
  (quiet_ofExcept _).bind fun _ => quiet_toTerminal _

/-- An operation that has failed is shown, or not caught. -/
theorem quiet_failed (width : Nat) (f : Failure) :
    Quiet (if f.isAnyOf usageClasses then do
        showMessage width none f.text
        return 2
      else if f.isA .bridge then do
        showMessage width (some f.cls.label) f.text
        return 1
      else throw f : Action σ α Nat) := by
  split
  · exact (quiet_showMessage _ _ _).bind fun _ => quiet_pure _
  · split
    · exact (quiet_showMessage _ _ _).bind fun _ => quiet_pure _
    · exact quiet_throw f

/-! ## What is written -/

/-- The action gives and writes what depends on nothing but whether results are written as JSON, and
it changes nothing but the log and the output. -/
def Presenting (a : Action σ α β) : Prop :=
  ∀ json, ∃ r s, ∀ (p : Session σ α) (written : String) (j : Log.Journal), ∃ j',
    Action.run a (p.beside ⟨json, written⟩ j) = (r, p.beside ⟨json, written ++ s⟩ j')

theorem presenting_of_quiet
    {a : Action σ α β}
    (h : Quiet a) :
    Presenting a := by
  obtain ⟨r, hr⟩ := h
  refine fun json => ⟨r, "", fun p written j => ?_⟩
  obtain ⟨j', hj'⟩ := hr (p.beside ⟨json, written⟩ j)
  exact ⟨j', by rw [hj', String.append_empty]; rfl⟩

theorem presenting_writesJson :
    Presenting (writesJson : Action σ α Bool) :=
  fun json => ⟨.ok json, "", fun _ written j => ⟨j, by rw [String.append_empty]; rfl⟩⟩

theorem presenting_toOutput (s : String) :
    Presenting (toOutput s : Action σ α Unit) :=
  fun _ => ⟨.ok (), s, fun _ _ j => ⟨j, rfl⟩⟩

theorem Presenting.bind
    {a : Action σ α β} {f : β → Action σ α γ}
    (ha : Presenting a)
    (hf : ∀ b, Presenting (f b)) :
    Presenting (a >>= f) := by
  intro json
  obtain ⟨r, s, hrun⟩ := ha json
  cases r with
  | error e =>
      refine ⟨.error e, s, fun p written j => ?_⟩
      obtain ⟨j', hj'⟩ := hrun p written j
      exact ⟨j', run_bind_of_error hj' f⟩
  | ok b =>
      obtain ⟨r', s', hrest⟩ := hf b json
      refine ⟨r', s ++ s', fun p written j => ?_⟩
      obtain ⟨j₁, hj₁⟩ := hrun p written j
      obtain ⟨j₂, hj₂⟩ := hrest p (written ++ s) j₁
      exact ⟨j₂, by rw [run_bind_of_ok hj₁, hj₂, String.append_assoc]⟩

theorem Presenting.outward
    {a : Action σ α β}
    (h : Presenting a) :
    Outward a := by
  intro p
  obtain ⟨r, s, hrun⟩ := h p.output.json
  obtain ⟨j, hj⟩ := hrun p p.output.written p.journal
  exact ⟨_, j, congrArg Prod.snd hj⟩

/-- Where outputs are the same they stay the same. -/
theorem Presenting.alike
    {S : Session σ α → Session σ α → Prop}
    (L : Likeness S)
    {a : Action σ α β}
    (h : Presenting a) :
    Alike (Session.Abreast S) a := by
  intro p q hpq
  obtain ⟨r, s, hrun⟩ := h p.output.json
  obtain ⟨j, hj⟩ := hrun p p.output.written p.journal
  obtain ⟨j', hj'⟩ := hrun q p.output.written q.journal
  have hp : Action.run a p = (r, p.beside (p.output.append s) j) := hj
  have hq : Action.run a q = (r, q.beside (q.output.append s) j') := by
    rw [← hpq.2]
    have hsame : q.beside p.output q.journal = q := by rw [hpq.2]; rfl
    rw [← hsame]
    exact hj'
  rw [hp, hq]
  exact ⟨rfl, L.abreast.beside hpq (Output.append · s) j j'⟩

theorem presenting_writeStatements (l : List String) :
    Presenting (writeStatements l : Action σ α Nat) :=
  presenting_writesJson.bind fun _ => (presenting_toOutput _).bind fun _ =>
    presenting_of_quiet (quiet_pure 0)

theorem presenting_writeText (s : String) :
    Presenting (writeText s : Action σ α Nat) :=
  (presenting_toOutput _).bind fun _ => presenting_of_quiet (quiet_pure 0)

theorem presenting_presentReport
    (i : Invocation)
    (payload : String)
    (r : Report) :
    Presenting (presentReport i payload r : Action σ α Unit) := by
  refine presenting_writesJson.bind fun json => ?_
  cases json with
  | true =>
      exact presenting_toOutput _
  | false =>
      exact presenting_of_quiet ((quiet_toTerminal _).bind fun _ => (quiet_ofExcept _).bind fun _ =>
        quiet_toTerminal _)

theorem presenting_showReport
    (i : Invocation)
    (payload : String) :
    Presenting (showReport i payload : Action σ α Nat) :=
  (presenting_of_quiet (quiet_ofExcept _)).bind fun r =>
    (presenting_presentReport i payload r).bind fun _ => presenting_of_quiet (quiet_pure _)

theorem presenting_dialects (i : Invocation) :
    Presenting (runCommand i .dialects : Action σ α Nat) := by
  have hshow : Presenting (showDialects i : Action σ α Unit) := by
    refine presenting_writesJson.bind fun json => ?_
    cases json with
    | true => exact presenting_toOutput _
    | false => exact presenting_of_quiet (quiet_toTerminal _)
  exact hshow.bind fun _ => presenting_of_quiet (quiet_pure 0)

/-! ## Runs from sessions that are alike -/

section Alike

variable {S : Session σ α → Session σ α → Prop}

theorem alike_givenDialect
    (L : Likeness S)
    (option : Option String) :
    Alike S (givenDialect option : Action σ α String) := by
  have hdefault : Alike S (do return (← loadSettings []).defaultDialect.name : Action σ α String) :=
    (L.loadSettings []).bind fun _ => alike_pure _
  cases option with
  | none =>
      exact hdefault
  | some d =>
      rw [givenDialect]
      split
      · exact hdefault
      · exact alike_pure d

theorem alike_inDialect
    (L : Likeness S)
    {operation : String → String → Action σ α β}
    (h : ∀ text d, Alike S (operation text d))
    (text : String)
    (option : Option String) :
    Alike S (inDialect operation text option) :=
  (alike_givenDialect L option).bind fun d => h text d

/-- What a run does with the value of its operation decides whether runs are alike. -/
theorem alike_withOperation
    (L : Likeness S)
    (width : Nat)
    {a : Action σ α β} {go : β → Action σ α Nat}
    (ha : Alike S a)
    (hgo : ∀ b, Alike S (go b)) :
    Alike S (withOperation width a go) := by
  refine ha.outcome.bind fun r => ?_
  cases r with
  | ok b =>
      exact hgo b
  | error f =>
      exact L.of_quiet (quiet_failed width f)

theorem alike_runCommand
    (L : Likeness S)
    (i : Invocation)
    (c : Command) :
    Alike (Session.Abreast S) (runCommand i c : Action σ α Nat) := by
  have M := L.abreast
  have htext : ∀ s, Alike (Session.Abreast S) (writeText s : Action σ α Nat) :=
    fun s => (presenting_writeText s).alike L
  cases c with
  | transpile sql source target =>
      exact alike_withOperation M _ (M.transpile _ _ _) fun l =>
        (presenting_writeStatements l).alike L
  | parse sql d =>
      exact alike_withOperation M _ (alike_inDialect M M.parse _ d) htext
  | parseOne sql d =>
      exact alike_withOperation M _ (alike_inDialect M M.parseOne _ d) htext
  | generate payload d =>
      exact alike_withOperation M _ (alike_inDialect M M.generate _ d) htext
  | format sql d =>
      exact alike_withOperation M _ (alike_inDialect M M.format _ d) htext
  | validate sql d =>
      exact alike_withOperation M _ (alike_inDialect M M.validate _ d) fun s =>
        (presenting_showReport i s).alike L
  | dialects =>
      exact (presenting_dialects i).alike L
  | version =>
      exact M.engineVersion.bind htext

theorem alike_runNamed
    (L : Likeness S)
    (i : Invocation)
    (g : Globals)
    (name : String)
    (words : List String) :
    Alike (Session.Abreast S) (runNamed i g name words : Action σ α Nat) := by
  refine (L.abreast.loadSettings _).outcome.bind fun r => ?_
  cases r with
  | error f =>
      dsimp only
      split
      · exact L.abreast.of_quiet ((quiet_showMessage _ _ _).bind fun _ => quiet_pure _)
      · exact alike_throw f
  | ok s =>
      have hlogging : Quiet (configureLogging s .terminal : Action σ α Unit) :=
        ⟨.ok (), fun p => ⟨_, rfl⟩⟩
      refine (L.abreast.of_quiet hlogging).bind fun _ => ?_
      cases readCommand name words with
      | help => exact alike_pure _
      | misuse => exact alike_pure _
      | ok c => exact alike_runCommand L i c

/-- The words of one command line end in the same way, write the same, and leave sessions that are
alike: a run settles how its results are written before it writes any. -/
theorem runWords_alike
    (L : Likeness S)
    {p q : Session σ α}
    (h : S p q)
    (i : Invocation) :
    (Action.run (runWords i) (started p)).1 = (Action.run (runWords i) (started q)).1 ∧
      (Action.run (runWords i) (started p)).2.output.written =
        (Action.run (runWords i) (started q)).2.output.written ∧
      S (Action.run (runWords i) (started p)).2 (Action.run (runWords i) (started q)).2 := by
  cases hr : readGlobals i.words with
  | help | misuse =>
      rw [runWords, hr]
      exact ⟨rfl, rfl, L.beside h (fun o => ⟨o.json, ""⟩) _ _⟩
  | ok read =>
      obtain ⟨g, name, words⟩ := read
      rw [started, started, run_runWords_of_ok hr, run_runWords_of_ok hr]
      obtain ⟨hending, hrest, houtput⟩ := alike_runNamed L i g name words _ _
        ⟨L.beside h (fun _ => ⟨g.json, ""⟩) (startLog p.journal) (startLog q.journal), rfl⟩
      exact ⟨hending, congrArg Output.written houtput, hrest⟩

end Alike

/-! ## Runs with other global options -/

/-- The settings load that a run of the command line begins with, if it gets that far. -/
def Invocation.Settles (i : Invocation) (environment : List (String × String))
    (file : Option String) : Prop :=
  ∀ g name words, readGlobals i.words = .ok (g, name, words) →
    ∃ s, Settings.load ⟨g.overrides, environment, file⟩ = .ok s

theorem settles_of_read
    {i : Invocation} {g : Globals} {name : String} {words : List String}
    (h : readGlobals i.words = .ok (g, name, words))
    (environment : List (String × String))
    (file : Option String) :
    i.Settles environment file ↔ ∃ s, Settings.load ⟨g.overrides, environment, file⟩ = .ok s := by
  constructor
  · intro hsettles
    exact hsettles g name words h
  · rintro hloads g' name' words' h'
    obtain ⟨rfl, -⟩ := Prod.mk.inj (Reading.ok.inj (h.symm.trans h'))
    exact hloads

/-- Settings that do not load end a run before it has changed anything but the log and the output. -/
theorem run_runWords_of_unsettled
    {i : Invocation} {p : Session σ α}
    (h : ¬ i.Settles p.environment p.file) :
    ∃ o j, Action.run (runWords i) (started p) = (.ok 2, p.beside o j) := by
  cases hr : readGlobals i.words with
  | help =>
      exact (h fun _ _ _ hok => by rw [hr] at hok; cases hok).elim
  | misuse =>
      exact (h fun _ _ _ hok => by rw [hr] at hok; cases hok).elim
  | ok read =>
      obtain ⟨g, name, words⟩ := read
      rw [settles_of_read hr] at h
      cases hload : Settings.load ⟨g.overrides, p.environment, p.file⟩ with
      | ok s =>
          exact (h ⟨s, hload⟩).elim
      | error f =>
          rw [started, run_runWords_of_ok hr]
          exact ⟨_, run_runNamed_of_error hload name words ⟨g.json, ""⟩ (startLog p.journal)⟩

section Reflagged

variable {S : Session σ α → Session σ α → Prop} {p q : Session σ α}

theorem keeps_withOperation
    (B : Blind S)
    (width : Nat)
    {a : Action σ α β} {go : β → Action σ α Nat}
    (ha : Alike S a)
    (hgo : ∀ b, Outward (go b)) :
    Keeps S (withOperation width a go) := by
  refine ha.outcome.bind_keeps fun r => ?_
  cases r with
  | ok b =>
      exact B.keeps_of_outward (hgo b)
  | error f =>
      exact (B.of_quiet (quiet_failed width f)).keeps

/-- How results are written, and whether that succeeds, changes nothing that stays. -/
theorem keeps_runCommand
    (B : Blind S)
    (i : Invocation)
    (c : Command) :
    Keeps S (runCommand i c : Action σ α Nat) := by
  have L := B.toLikeness
  have htext : ∀ s, Outward (writeText s : Action σ α Nat) :=
    fun s => (presenting_writeText s).outward
  cases c with
  | transpile sql source target =>
      exact keeps_withOperation B _ (L.transpile _ _ _) fun l =>
        (presenting_writeStatements l).outward
  | parse sql d =>
      exact keeps_withOperation B _ (alike_inDialect L L.parse _ d) htext
  | parseOne sql d =>
      exact keeps_withOperation B _ (alike_inDialect L L.parseOne _ d) htext
  | generate payload d =>
      exact keeps_withOperation B _ (alike_inDialect L L.generate _ d) htext
  | format sql d =>
      exact keeps_withOperation B _ (alike_inDialect L L.format _ d) htext
  | validate sql d =>
      exact keeps_withOperation B _ (alike_inDialect L L.validate _ d) fun s =>
        (presenting_showReport i s).outward
  | dialects =>
      exact B.keeps_of_outward (presenting_dialects i).outward
  | version =>
      exact L.engineVersion.bind_keeps fun s => B.keeps_of_outward (htext s)

theorem keeps_runRead
    (B : Blind S)
    (i : Invocation)
    (name : String)
    (words : List String) :
    Keeps S (runRead i name words : Action σ α Nat) := by
  unfold runRead
  cases readCommand name words with
  | help => exact (alike_pure _).keeps
  | misuse => exact (alike_pure _).keeps
  | ok c => exact keeps_runCommand B i c

/-- How a report is shown depends on the width only. -/
theorem showReport_congr
    {i i' : Invocation}
    (hwidth : i'.width = i.width) :
    (showReport i' : String → Action σ α Nat) = showReport i := by
  funext payload
  simp only [showReport, presentReport, hwidth]

theorem runNamed_congr
    {i i' : Invocation}
    (hinput : i'.input = i.input)
    (hwidth : i'.width = i.width)
    (g : Globals)
    (name : String)
    (words : List String) :
    (runNamed i' g name words : Action σ α Nat) = runNamed i g name words := by
  have hcommand : ∀ c, (runCommand i' c : Action σ α Nat) = runCommand i c := by
    intro c
    cases c <;> simp only [runCommand, showDialects, showReport_congr hwidth, hinput, hwidth]
  simp only [runNamed, hcommand, hwidth]

/-- Runs with other global options leave sessions that are alike, if the settings load in both or in
neither. -/
theorem run_runWords_reflagged
    (B : Blind S)
    (h : S p q)
    {i i' : Invocation}
    (hflags : i.Reflagged i')
    (hsettles : i.Settles p.environment p.file ↔ i'.Settles p.environment p.file) :
    S (Action.run (runWords i) (started p)).2 (Action.run (runWords i') (started q)).2 := by
  by_cases hsettled : i.Settles p.environment p.file
  · have hsettled' := hsettles.mp hsettled
    have hwords := hflags.words
    generalize hr : readGlobals i.words = r at hwords
    generalize hr' : readGlobals i'.words = r' at hwords
    cases hwords with
    | help | misuse =>
        rw [runWords, runWords, hr, hr']
        exact B.unseen h _ _ _ _
    | ok g g' name words =>
        obtain ⟨s, hs⟩ := (settles_of_read hr _ _).mp hsettled
        obtain ⟨s', hs'⟩ := (settles_of_read hr' _ _).mp hsettled'
        rw [B.environment h, B.file h] at hs'
        obtain ⟨j, hj⟩ := run_runNamed_of_loaded hs i name words ⟨g.json, ""⟩ (startLog p.journal)
        obtain ⟨j', hj'⟩ := run_runNamed_of_loaded hs' i name words ⟨g'.json, ""⟩ (startLog q.journal)
        rw [started, started, run_runWords_of_ok hr, run_runWords_of_ok hr',
          runNamed_congr hflags.input hflags.width, hj, hj']
        exact keeps_runRead B i name words _ _ (B.unseen h _ _ j j')
  · have hunsettled : ¬ i'.Settles q.environment q.file := by
      rw [← B.environment h, ← B.file h, ← hsettles]
      exact hsettled
    obtain ⟨o, j, hj⟩ := run_runWords_of_unsettled hsettled
    obtain ⟨o', j', hj'⟩ := run_runWords_of_unsettled hunsettled
    rw [hj, hj']
    exact B.unseen h o o' j j'

end Reflagged

/-! ## Whole runs -/

/-- What can be seen of a run from outside: its exit code and its output. -/
def Outcome.seen (o : Outcome) : Nat × String :=
  (o.exitCode, o.output)

/-- What can be seen of a run of a command line in a session. -/
def seen (i : Invocation) (p : Session σ α) : Option (Nat × String) :=
  (Action.run (run i) p).1.toOption.map Outcome.seen

/-- The session after a run. -/
def after (i : Invocation) (p : Session σ α) : Session σ α :=
  (Action.run (run i) p).2

/-- A run always ends with an exit code, and is seen as its words have ended and by what they have
written. -/
theorem seen_eq (i : Invocation) (p : Session σ α) :
    seen i p = some (outcomeOf (Action.run (runWords i) (started p)).2.output.written ""
      (Action.run (runWords i) (started p)).1).seen := by
  rcases hwords : Action.run (runWords i) (started p) with ⟨ending, q⟩
  rw [seen, run_run hwords]
  cases ending <;> rfl

theorem after_eq (i : Invocation) (p : Session σ α) :
    after i p = (Action.run (runWords i) (started p)).2 := by
  rcases hwords : Action.run (runWords i) (started p) with ⟨ending, q⟩
  rw [after, run_run hwords]

theorem after_of_unsettled
    {i : Invocation} {p : Session σ α}
    (h : ¬ i.Settles p.environment p.file) :
    ∃ o j, after i p = p.beside o j := by
  obtain ⟨o, j, hj⟩ := run_runWords_of_unsettled h
  exact ⟨o, j, by rw [after_eq, hj]⟩

section Runs

variable {S : Session σ α → Session σ α → Prop} {p q : Session σ α}

/-- Runs of one command line are alike. -/
theorem run_alike
    (L : Likeness S)
    (h : S p q)
    (i : Invocation) :
    seen i p = seen i q ∧ S (after i p) (after i q) := by
  obtain ⟨hending, hwritten, hrest⟩ := runWords_alike L h i
  rw [seen_eq, seen_eq, hending, hwritten, after_eq, after_eq]
  exact ⟨rfl, hrest⟩

/-- Runs of command lines with other global options leave sessions that are alike, if the settings
load for both or for neither. -/
theorem run_reflagged
    (B : Blind S)
    (h : S p q)
    {i i' : Invocation}
    (hflags : i.Reflagged i')
    (hsettles : i.Settles p.environment p.file ↔ i'.Settles p.environment p.file) :
    S (after i p) (after i' q) := by
  rw [after_eq, after_eq]
  exact run_runWords_reflagged B h hflags hsettles

end Runs

/-! ## Processes -/

/-- What happens in a process: a command line is run, or the surroundings change. -/
inductive Event where
  | run (i : Invocation)
  | surround (environment : List (String × String)) (file : Option String)

/-- The session in other surroundings. -/
def surrounded (p : Session σ α) (environment : List (String × String)) (file : Option String) :
    Session σ α :=
  { p with environment := environment, file := file }

/-- What can be seen of the runs in a process, and the session in the end. -/
def play : List Event → Session σ α → List (Option (Nat × String)) × Session σ α
  | [], p => ([], p)
  | .run i :: events, p =>
    let (rest, q) := play events (after i p)
    (seen i p :: rest, q)
  | .surround environment file :: events, p => play events (surrounded p environment file)

/-- Processes with the same changes of the surroundings and, in the surroundings of the moment, with
related command lines. -/
inductive Replayed
    (R : List (String × String) → Option String → Invocation → Invocation → Prop) :
    List (String × String) → Option String → List Event → List Event → Prop
  | nil {environment file} : Replayed R environment file [] []
  | run {environment file i i' events events'} :
      R environment file i i' →
      Replayed R environment file events events' →
      Replayed R environment file (.run i :: events) (.run i' :: events')
  | surround {environment file environment' file' events events'} :
      Replayed R environment' file' events events' →
      Replayed R environment file (.surround environment' file' :: events)
        (.surround environment' file' :: events')

theorem Replayed.and
    {R R' : List (String × String) → Option String → Invocation → Invocation → Prop}
    {environment : List (String × String)}
    {file : Option String}
    {events events' : List Event}
    (h : Replayed R environment file events events')
    (h' : Replayed R' environment file events events') :
    Replayed (fun environment file i i' => R environment file i i' ∧ R' environment file i i')
      environment file events events' := by
  induction h with
  | nil =>
      exact .nil
  | run hi _ ih =>
      cases h' with
      | run hi' h' => exact .run ⟨hi, hi'⟩ (ih h')
  | surround _ ih =>
      cases h' with
      | surround h' => exact .surround (ih h')

section Processes

/-- Relations between sessions, for all surroundings that a process may have. -/
structure Surrounding
    (S : List (String × String) → Option String → Session σ α → Session σ α → Prop) : Prop where
  likeness : ∀ environment file, Likeness (S environment file)
  surrounded : ∀ {environment file p q}, S environment file p q → ∀ environment' file',
    S environment' file' (surrounded p environment' file') (CommandLine.surrounded q environment' file')

variable {S : List (String × String) → Option String → Session σ α → Session σ α → Prop}
  {environment : List (String × String)} {file : Option String} {p q : Session σ α}

/-- In sessions that are alike a process is seen alike. -/
theorem play_alike
    (L : Surrounding S)
    (h : S environment file p q)
    (events : List Event) :
    (play events p).1 = (play events q).1 := by
  induction events generalizing environment file p q with
  | nil =>
      rfl
  | cons event events ih =>
      cases event with
      | run i =>
          obtain ⟨hseen, hafter⟩ := run_alike (L.likeness environment file) h i
          exact congrArg₂ List.cons hseen (ih hafter)
      | surround environment' file' =>
          exact ih (L.surrounded h environment' file')

/-- If related runs lead from sessions that are alike to sessions that are alike, so do processes. -/
theorem play_replayed
    (L : Surrounding S)
    {R : List (String × String) → Option String → Invocation → Invocation → Prop}
    (hstep : ∀ {environment file i i'} {p q : Session σ α}, R environment file i i' →
      S environment file p q → S environment file (after i p) (after i' q))
    {events events' : List Event}
    (hreplayed : Replayed R environment file events events')
    (h : S environment file p q) :
    ∃ environment' file', S environment' file' (play events p).2 (play events' q).2 := by
  induction hreplayed generalizing p q with
  | nil =>
      exact ⟨_, _, h⟩
  | run hrelated _ ih =>
      exact ih (hstep hrelated h)
  | surround _ ih =>
      exact ih (L.surrounded h _ _)

end Processes

theorem surrounding_akin : Surrounding (Session.Akin (σ := σ) (α := α)) where
  likeness := fun _ _ => blind_akin.toLikeness
  surrounded := fun h _ _ =>
    ⟨⟨rfl, rfl⟩, ⟨rfl, rfl⟩, h.errors, h.hosts, h.engine, h.factory, h.registered, h.world⟩

section Steady

variable {K : σ → Prop} {e : Engine σ α} {hosts : HostClasses} {errors : Option ErrorRegistry}

theorem Session.Steady.surrounded
    {environment : List (String × String)} {file : Option String} {p : Session σ α}
    (h : p.Steady K e hosts errors environment file)
    (environment' : List (String × String))
    (file' : Option String) :
    (surrounded p environment' file').Steady K e hosts errors environment' file' :=
  ⟨rfl, rfl, h.errors, h.hosts, h.offers.world, h.offers.provided⟩

theorem surrounding_steady (he : e.SteadyIn K) :
    Surrounding fun environment file p q => p.Steady K e hosts errors environment file ∧
      q.Steady K e hosts errors environment file where
  likeness := fun _ _ => (blind_steady he).toLikeness
  surrounded := fun h _ _ => ⟨Session.Steady.surrounded h.1 _ _, Session.Steady.surrounded h.2 _ _⟩

end Steady

/-! ## Later runs -/

/-- Later runs are seen alike after either of two processes, and what is seen of a run depends on its
command line, its surroundings, the error classes, and the engine or factory with its world: neither on
the log, as runs leave it, nor on how results were written before. -/
structure Forgets (p : Session σ α) (earlier earlier' : List Event) : Prop where
  /-- Later runs end with the same exit codes and outputs. -/
  later : ∀ events,
    (play events (play earlier p).2).1 = (play events (play earlier' p).2).1
  /-- All runs end so in every session with the same surroundings, error classes, engine or factory
  and world, however the log is set up, whatever settings are in use, and whether or not results have
  been written as JSON. -/
  own : ∀ q, Session.Akin p.environment p.file p q → ∀ events, (play events p).1 = (play events q).1
  /-- Every run ends with an exit code. -/
  ended : ∀ events, none ∉ (play events p).1

theorem none_not_mem_play (events : List Event) (p : Session σ α) :
    none ∉ (play events p).1 := by
  induction events generalizing p with
  | nil =>
      simp [play]
  | cons event events ih =>
      cases event with
      | run i =>
          rw [play, seen_eq]
          exact List.not_mem_cons_of_ne_of_not_mem (by simp) (ih _)
      | surround environment file =>
          exact ih _

/--
What later runs give, in a session in which an engine or a factory is registered, does not depend on
the global options of earlier runs: if in each of the earlier runs the settings load with the one
global options exactly if they load with the others, or if the engine answers in one way whatever it
has been asked before.
-/
theorem later_runs_alike
    (p : Session σ α)
    (earlier earlier' : List Event)
    (hregistered : (p.engine.isSome || p.factory.isSome) = true)
    (hflags : Replayed (fun _ _ => Invocation.Reflagged) p.environment p.file earlier earlier')
    (hsettles : Replayed (fun environment file i i' =>
        i.Settles environment file ↔ i'.Settles environment file)
        p.environment p.file earlier earlier' ∨
      ∃ (K : σ → Prop) (e : Engine σ α), e.SteadyIn K ∧ p.Offers K e) :
    Forgets p earlier earlier' where
  later := by
    intro events
    rcases hsettles with hsettles | ⟨K, e, he, hoffers⟩
    · -- The engine is told the same, in the same surroundings, in every earlier run.
      have hakin : Session.Akin p.environment p.file p p :=
        Session.akin_beside hregistered p.output p.journal
      obtain ⟨_, _, hend⟩ := play_replayed surrounding_akin
        (fun {environment file i i' p q} hi h => run_reflagged blind_akin h hi.1 <| by
          rw [h.environment.1, h.file.1]
          exact hi.2)
        (hflags.and hsettles) hakin
      exact play_alike surrounding_akin hend events
    · -- The engine may be told other things, but it answers later runs in the same way.
      have hsteady : p.Steady K e p.hosts p.errors p.environment p.file :=
        ⟨rfl, rfl, rfl, rfl, hoffers⟩
      obtain ⟨_, _, hend⟩ := play_replayed (surrounding_steady he)
        (fun {environment file i i' p q} _ h =>
          ⟨(run_alike (blind_steady he).toLikeness ⟨h.1, h.1⟩ i).2.1,
            (run_alike (blind_steady he).toLikeness ⟨h.2, h.2⟩ i').2.1⟩)
        hflags ⟨hsteady, hsteady⟩
      exact play_alike (surrounding_steady he) hend events
  own := fun _ h events => play_alike surrounding_akin h events
  ended := fun events => none_not_mem_play events p

/-! ### Runs whose settings load or do not load -/

/-- A session whose engine parses one text into something else every time. -/
def alternating : Session Scripted.State Value :=
  Scripted.served
    [(.parse, [.ok (.list [.text "a"]), .ok (.list [.text "b"]), .ok (.list [.text "c"])])]

/-- A text is parsed, with global options. -/
def query (flags : List String) : Invocation :=
  ⟨flags ++ ["parse", "SELECT 1", "--dialect", "mysql"], "", 80⟩

/-- Two runs, the second of them while the settings do not load without overrides. -/
def queries (flags flags' : List String) : List Event :=
  [.run (query flags), .surround [("POLYGLOT_DEBUG", "perhaps")] none, .run (query flags'),
    .surround [] none]

theorem replayed_queries
    {R : List (String × String) → Option String → Invocation → Invocation → Prop}
    {first first' second second' : List String}
    (h : R [] none (query first) (query first'))
    (h' : R [("POLYGLOT_DEBUG", "perhaps")] none (query second) (query second')) :
    Replayed R [] none (queries first second) (queries first' second') :=
  .run h (.surround (.run h' (.surround .nil)))

theorem later_runs_alike_queries :
    (alternating.engine.isSome || alternating.factory.isSome) = true ∧
    Replayed (fun _ _ => Invocation.Reflagged) alternating.environment alternating.file
      (queries ["--verbose", "--json"] ["--json"]) (queries [] ["--no-json"]) ∧
    Replayed (fun environment file i i' => i.Settles environment file ↔ i'.Settles environment file)
      alternating.environment alternating.file
      (queries ["--verbose", "--json"] ["--json"]) (queries [] ["--no-json"]) ∧
    Forgets alternating (queries ["--verbose", "--json"] ["--json"]) (queries [] ["--no-json"]) := by
  have hflags : Replayed (fun _ _ => Invocation.Reflagged) alternating.environment alternating.file
      (queries ["--verbose", "--json"] ["--json"]) (queries [] ["--no-json"]) :=
    replayed_queries (reflagged_of_flags (by decide) (by decide) _ _ _)
      (reflagged_of_flags (by decide) (by decide) _ _ _)
  have hsettles : Replayed
      (fun environment file i i' => i.Settles environment file ↔ i'.Settles environment file)
      alternating.environment alternating.file
      (queries ["--verbose", "--json"] ["--json"]) (queries [] ["--no-json"]) := by
    refine replayed_queries ?_ ?_
    · rw [settles_of_read (g := ⟨true, true⟩) rfl, settles_of_read (g := ⟨false, false⟩) rfl]
      exact iff_of_true ⟨_, rfl⟩ ⟨_, rfl⟩
    · rw [settles_of_read (g := ⟨true, false⟩) rfl, settles_of_read (g := ⟨false, false⟩) rfl]
      rfl
  exact ⟨rfl, hflags, hsettles, later_runs_alike alternating _ _ rfl hflags (.inl hsettles)⟩

/-- With debugging turned on the second run gets as far as the engine, which then answers the third
one in another way. -/
theorem later_run_of_unsettled :
    (alternating.engine.isSome || alternating.factory.isSome) = true ∧
    Replayed (fun _ _ => Invocation.Reflagged) alternating.environment alternating.file
      (queries [] ["--verbose"]) (queries [] []) ∧
    (play [.run (query [])] (play (queries [] ["--verbose"]) alternating).2).1 =
      [some (0, "[\"c\"]\n")] ∧
    (play [.run (query [])] (play (queries [] []) alternating).2).1 = [some (0, "[\"b\"]\n")] := by
  refine ⟨rfl, ?_, ?_, ?_⟩
  · exact replayed_queries (reflagged_of_flags (by decide) (by decide) _ _ _)
      (reflagged_of_flags (by decide) (by decide) _ _ _)
  · decide +kernel
  · -- What the second run shows of the settings is long, and the third one does not depend on it.
    have hunsettled : ¬ (query []).Settles [("POLYGLOT_DEBUG", "perhaps")] none := by
      rw [settles_of_read (g := ⟨false, false⟩) rfl]
      rintro ⟨s, hs⟩
      cases hs
    obtain ⟨-, hfirst⟩ := run_alike blind_akin.toLikeness
      (Session.akin_beside (p := alternating) rfl alternating.output alternating.journal) (query [])
    have hsecond := surrounding_akin.surrounded hfirst [("POLYGLOT_DEBUG", "perhaps")] none
    obtain ⟨o, j, hj⟩ := after_of_unsettled
      (p := surrounded (after (query []) alternating) [("POLYGLOT_DEBUG", "perhaps")] none) hunsettled
    have hthird := surrounding_akin.surrounded
      (Session.akin_beside hsecond.registered o j) [] none
    rw [← hj] at hthird
    have hplayed : (play (queries [] []) alternating).2 = surrounded (after (query []) (surrounded
      (after (query []) alternating) [("POLYGLOT_DEBUG", "perhaps")] none)) [] none := rfl
    rw [hplayed, ← play_alike surrounding_akin hthird]
    decide +kernel

end CommandLine
end SqlDialects
