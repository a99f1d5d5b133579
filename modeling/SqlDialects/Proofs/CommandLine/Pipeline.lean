import SqlDialects.Proofs.CommandLine.Outcome
import SqlDialects.Proofs.Json.Controls
import SqlDialects.Proofs.Session.Consulting
import SqlDialects.Proofs.Session.HostTrees
import SqlDialects.Proofs.Session.Succeeding
import SqlDialects.Proofs.Validation.Faithful

/-!
# Output that is passed on

A command that parses a statement writes a payload to the output, with a line end behind it.  A
command that renders takes that output for its input.

**Input.**  A session whose engine dumps exchangeable data of fewer than a hundred nested containers;
any invocations, however their words are put.

**View.**  `Invocation.Reads` says which command the words of an invocation come to.  `Conveyed`
payloads are read alike with a line end behind them.

**Results.**
* `conveyed_of_encode`: what is written of exchangeable data is conveyed.
* `run_congr`: invocations with one command on one text are one run.
* `pipeline`: rendering the output of a command that has parsed a statement is rendering the payload,
  and JSON output of a command that checks is read as the report of the engine.
-/

namespace SqlDialects
namespace CommandLine

variable {σ α β : Type}

/-! ## Words -/

/-- The words of an invocation come to a command, with global options. -/
def Invocation.Reads (i : Invocation) (g : Globals) (c : Command) : Prop :=
  ∃ name words, readGlobals i.words = .ok (g, name, words) ∧ readCommand name words = .ok c

/-- A word that is an argument wherever it stands: it is a hyphen or does not begin with one. -/
def IsArgument (word : String) : Prop :=
  word = "-" ∨ word.toList.head? ≠ some '-'

/-- An argument is left where it stands among options. -/
theorem scan_argument
    {word : String}
    (h : IsArgument word)
    (forms : List OptionForm)
    (words : List String) :
    scan forms true (word :: words) =
      (scan forms true words).map fun (os, as) => (os, word :: as) := by
  rcases h with rfl | hhead
  · rfl
  · rw [scan]
    split
    · rename_i hword
      simp [hword] at hhead
    · rename_i hword
      simp [hword] at hhead
    · rfl

/-- An argument and a dialect after the name of a command. -/
theorem readOne_argument
    {text : String}
    (h : IsArgument text)
    (make : String → Option String → Command)
    (dialect : String) :
    readOne make [text, "--dialect", dialect] = .ok (make text (some dialect)) := by
  have hdialect : scan dialectForms true ["--dialect", dialect] =
      some ([⟨.dialect, dialect⟩], []) := rfl
  rw [readOne, readWith, scan_argument h, hdialect]
  rfl

theorem reads_generate (dialect input : String) (width : Nat) :
    Invocation.Reads ⟨["generate", "-", "--dialect", dialect], input, width⟩ ⟨false, false⟩
      (.generate "-" (some dialect)) :=
  ⟨_, _, rfl, readOne_argument (.inl rfl) .generate dialect⟩

/-- Behind two hyphens every payload is an argument. -/
theorem reads_generate_behind (payload dialect input : String) (width : Nat) :
    Invocation.Reads ⟨["generate", "--dialect", dialect, "--", payload], input, width⟩
      ⟨false, false⟩ (.generate payload (some dialect)) :=
  ⟨_, _, rfl, rfl⟩

theorem reads_parseOne
    {sql : String}
    (h : IsArgument sql)
    (dialect input : String)
    (width : Nat) :
    Invocation.Reads ⟨["parse-one", sql, "--dialect", dialect], input, width⟩ ⟨false, false⟩
      (.parseOne sql (some dialect)) :=
  ⟨_, _, rfl, readOne_argument h .parseOne dialect⟩

theorem reads_validate
    {sql : String}
    (h : IsArgument sql)
    (dialect input : String)
    (width : Nat) :
    Invocation.Reads ⟨["--json", "validate", sql, "--dialect", dialect], input, width⟩ ⟨true, false⟩
      (.validate sql (some dialect)) :=
  ⟨_, _, rfl, readOne_argument h .validate dialect⟩

/-! ## Runs that are one -/

/-- A dialect that is given is taken as it is. -/
theorem inDialect_of_given
    {dialect : String}
    (h : dialect ≠ "")
    (operation : String → String → Action σ α β)
    (text : String) :
    inDialect operation text (some dialect) = operation text dialect := by
  have hopen : dialect.isEmpty = false := by
    rw [Bool.eq_false_iff, ne_eq, String.isEmpty_iff]
    exact h
  rw [inDialect, givenDialect, hopen, if_neg Bool.false_ne_true, pure_bind]

/-- Invocations whose commands do the same on a terminal of one width are one run. -/
theorem run_congr
    {i i' : Invocation} {g : Globals} {c c' : Command}
    (h : i.Reads g c)
    (h' : i'.Reads g c')
    (hwidth : i.width = i'.width)
    (hcommand : (runCommand i c : Action σ α Nat) = runCommand i' c') :
    (run i : Action σ α Outcome) = run i' := by
  obtain ⟨name, words, hglobals, hc⟩ := h
  obtain ⟨name', words', hglobals', hc'⟩ := h'
  have hwords : (runWords i : Action σ α Nat) = runWords i' := by
    rw [runWords, runWords, hglobals, hglobals']
    simp only [runNamed, hc, hc', hwidth, hcommand]
  rw [run, run, hwords]

/-! ## Runs that succeed -/

/-- A run with exit code 0 or 3 has carried its command out. -/
theorem exists_run_of_exitCode
    {i : Invocation} {g : Globals} {c : Command} {p p' : Session σ α} {o : Outcome}
    (hreads : i.Reads g c)
    (hrun : Action.run (run i) p = (.ok o, p'))
    (hcode : o.exitCode = 0 ∨ o.exitCode = 3) :
    ∃ j, Action.run (runCommand i c) (p.beside ⟨g.json, ""⟩ j) = (.ok o.exitCode, p') ∧
      o.output = p'.output.written := by
  obtain ⟨name, words, hglobals, hcommand⟩ := hreads
  rcases hwords : Action.run (runWords i) (started p) with ⟨ending, q⟩
  rw [run_run hwords] at hrun
  cases hrun
  rw [started, run_runWords_of_ok hglobals] at hwords
  cases hs : loaded p g.overrides with
  | error f =>
      obtain ⟨j, hj⟩ := run_runNamed_of_error hs name words ⟨g.json, ""⟩ (startLog p.journal)
      cases hwords.symm.trans hj
      simp [outcomeOf] at hcode
  | ok s =>
      obtain ⟨j, hj⟩ := run_runNamed_of_ok hs hcommand ⟨g.json, ""⟩ (startLog p.journal)
      cases ending with
      | error f =>
          simp [outcomeOf] at hcode
      | ok code =>
          exact ⟨j, hj.symm.trans hwords, rfl⟩

/-- An operation that ends a run with exit code 0 or 3 has succeeded. -/
theorem of_run_withOperation
    {width : Nat} {a : Action σ α β} {go : β → Action σ α Nat} {p q : Session σ α} {code : Nat}
    (h : Action.run (withOperation width a go) p = (.ok code, q))
    (hcode : code = 0 ∨ code = 3) :
    ∃ b r, Action.run a p = (.ok b, r) ∧ Action.run (go b) r = (.ok code, q) := by
  rcases ha : Action.run a p with ⟨f | b, r⟩
  · -- a failure that is shown ends the run with exit code 1 or 2, and any other is thrown again
    have hshown : ∀ (cls : Option ErrorClass) (code' : Nat), code' ≠ 0 ∧ code' ≠ 3 →
        Action.run (do
          showMessage width (cls.map ErrorClass.label) f.text
          return code') r ≠ (.ok code, q) := by
      intro cls code' hne heq
      obtain ⟨j, hj⟩ := run_showMessage_code width cls f.text code' r
      rw [hj] at heq
      cases heq
      exact hcode.elim hne.1 hne.2
    rw [withOperation, Action.run_bind, Action.run_outcome, ha] at h
    dsimp only at h
    split at h
    · exact absurd h (hshown none 2 (by decide))
    · split at h
      · exact absurd h (hshown (some f.cls) 1 (by decide))
      · cases h
  · rw [run_withOperation_of_ok ha] at h
    exact ⟨b, r, rfl, h⟩

/-! ## Payloads -/

/-- The payload is no hyphen, and is read as it is also with a line end behind it. -/
structure Conveyed (payload : String) : Prop where
  text : ∀ argument, givenText argument payload = payload
  input : givenText (payload ++ "\n") "-" = payload ++ "\n"
  read : ∃ data, Json.read payload = .ok data ∧ Json.read (payload ++ "\n") = .ok data

/-- A hyphen is no JSON text. -/
theorem ne_hyphen_of_read
    {payload : String} {data : Json}
    (h : Json.read payload = .ok data) :
    payload ≠ "-" := by
  rintro rfl
  have hnone : (Json.read "-").toOption.isNone = true := by decide +kernel
  rw [h] at hnone
  cases hnone

/-- What is written of exchangeable data is conveyed. -/
theorem conveyed_of_encode
    {v : Value} {payload : String}
    (h : v.Exchangeable)
    (hdepth : v.fitsWithin 99 = true)
    (hpayload : Value.encode Json.plain v = .ok payload) :
    Conveyed payload := by
  obtain ⟨j, hj, hexact, -⟩ := Value.hasForm_of_exchangeable h hdepth
  have hexact : j.ExactWithin Json.nestingLimit := hexact.mono (by decide)
  have hrender : payload = Json.render Json.plain j := by
    rw [Value.encode, Value.toJson, hj _ (by decide)] at hpayload
    exact (Except.ok.inj hpayload).symm
  have hlast : payload ++ "\n" = String.ofList (Json.chars Json.plain j ++ ['\n']) := by
    rw [hrender, Json.render, String.ofList_append]
  have hread : Json.read payload = .ok j.normal := by
    rw [hrender]
    exact Json.read_render Json.separates_plain hexact
  refine ⟨?_, ?_, j.normal, hread, ?_⟩
  · intro argument
    exact if_neg (ne_hyphen_of_read hread)
  · rw [givenText, if_pos rfl, hlast, String.toList_ofList,
      Text.universalNewlines_of_visible (Json.visible_chars hexact)]
  · rw [hlast]
    exact Json.read_chars_append Json.separates_plain hexact (by simp [Json.isBlank])

/-- Rendering a payload that is read from the input is rendering the payload. -/
theorem generate_input
    {payload : String}
    (h : Conveyed payload)
    (target : String) :
    (Action.generate (givenText (payload ++ "\n") "-") target : Action σ α String) =
      Action.generate payload target := by
  obtain ⟨data, hread, hread'⟩ := h.read
  rw [h.input]
  exact Action.eq_of_run fun p => Action.run_generate_congr hread' hread target p

/-! ## What a run has written -/

/-- An action that gives the text of an operation gives it whatever has been logged and written. -/
theorem of_run_beside_text
    {op : Operation} {a : Action σ α String} {p r : Session σ α} {o : Output} {j : Log.Journal}
    {s : String}
    (hop : op.action = Answer.text <$> a)
    (h : Action.run a (p.beside o j) = (.ok s, r)) :
    ∃ q j', Action.run a p = (.ok s, q) ∧ r = q.beside o j' := by
  have hbeside : Action.run op.action (p.beside o j) = (.ok (.text s), r) := by
    rw [hop, Action.run_map, h]
    rfl
  obtain ⟨q, j', hgives, hr⟩ := Operation.run_of_run_beside hbeside
  rw [hop, Action.run_map] at hgives
  rcases ha : Action.run a p with ⟨f | s', q'⟩
  · rw [ha] at hgives
    cases hgives
  · rw [ha] at hgives
    cases hgives
    exact ⟨q', j', rfl, hr⟩

/-- A run with exit code 0 of a command that writes a text: the operation has given the text, and the
session is as the operation leaves it, apart from the log and the output. -/
theorem of_run_text
    {i : Invocation} {g : Globals} {c : Command} {op : Operation}
    {operation : String → String → Action σ α String} {text dialect : String}
    {p p' : Session σ α} {o : Outcome}
    (hreads : i.Reads g c)
    (hcommand : (runCommand i c : Action σ α Nat) =
      withOperation i.width (inDialect operation text (some dialect)) writeText)
    (hop : op.action = Answer.text <$> operation text dialect)
    (hdialect : dialect ≠ "")
    (hrun : Action.run (run i) p = (.ok o, p'))
    (hcode : o.exitCode = 0) :
    ∃ s q j, Action.run (operation text dialect) p = (.ok s, q) ∧
      p' = q.beside ⟨g.json, o.output⟩ j ∧ o.output = s ++ "\n" := by
  obtain ⟨j, hended, houtput⟩ := exists_run_of_exitCode hreads hrun (.inl hcode)
  rw [hcommand, inDialect_of_given hdialect] at hended
  obtain ⟨s, r, hs, hwritten⟩ := of_run_withOperation hended (.inl hcode)
  obtain ⟨q, j', hgives, rfl⟩ := of_run_beside_text hop hs
  rw [run_writeText, Output.append, String.empty_append] at hwritten
  have hp' : q.beside ⟨g.json, s ++ "\n"⟩ j' = p' := (Prod.mk.inj hwritten).2
  rw [← hp'] at houtput
  have houtput : o.output = s ++ "\n" := houtput
  exact ⟨s, q, j', hgives, by rw [houtput, hp'], houtput⟩

/-! ## Pipelines -/

/-- What a command that renders does with an output on the input: what it does with the payload as
its argument. -/
structure Piped (σ α : Type) (payload output : String) : Prop where
  alike : ∀ {i i' : Invocation} {g : Globals} {dialect : String}, dialect ≠ "" →
    i.Reads g (.generate "-" (some dialect)) → i.input = output →
    i'.Reads g (.generate payload (some dialect)) → i.width = i'.width →
    (run i : Action σ α Outcome) = run i'
  rendered : ∀ {i : Invocation} {g : Globals} {dialect : String} {p p' : Session σ α} {o : Outcome},
    dialect ≠ "" → i.Reads g (.generate "-" (some dialect)) → i.input = output →
    Action.run (run i) p = (.ok o, p') → o.exitCode = 0 →
    ∃ text q j, Action.run (Action.generate payload dialect) p = (.ok text, q) ∧
      p' = q.beside ⟨g.json, o.output⟩ j ∧ o.output = text ++ "\n"

/-- The output of commands in a session can be passed on. -/
structure Pipeline (p : Session σ α) : Prop where
  parsed : ∀ {i : Invocation} {g : Globals} {sql dialect : String} {p' : Session σ α} {o : Outcome},
    dialect ≠ "" → i.Reads g (.parseOne sql (some dialect)) →
    Action.run (run i) p = (.ok o, p') → o.exitCode = 0 →
    ∃ payload q j,
      Action.run (Action.parseOne (givenText i.input sql) dialect) p = (.ok payload, q) ∧
      p' = q.beside ⟨g.json, o.output⟩ j ∧ o.output = payload ++ "\n" ∧ Piped σ α payload o.output
  checked : ∀ {i : Invocation} {g : Globals} {sql dialect : String} {p' : Session σ α}
    {o : Outcome}, dialect ≠ "" → g.json = true → i.Reads g (.validate sql (some dialect)) →
    Action.run (run i) p = (.ok o, p') → o.exitCode = 0 ∨ o.exitCode = 3 →
    ∃ d e q report text, Dialect.resolve? dialect = some d ∧
      Action.run Action.engine p = (.ok e, q) ∧
      (Task.run (e.validate (givenText i.input sql) d) q.scene).1 = .ok report ∧
      o.output = text ++ "\n" ∧ Report.read text = .ok report ∧
      o.exitCode = if report.valid then 0 else 3

/-- All that the engine dumps is exchangeable and has fewer than a hundred nested containers. -/
def DumpsExchangeable (e : Engine σ α) : Prop :=
  ∀ tree scene v, (Task.run (e.dump tree) scene).1 = .ok v →
    v.Exchangeable ∧ v.fitsWithin 99 = true

/-- A conveyed payload with a line end behind it can be passed on. -/
theorem Conveyed.piped
    {payload : String}
    (h : Conveyed payload) :
    Piped σ α payload (payload ++ "\n") where
  alike := by
    intro i i' g dialect hdialect hreads hinput hreads' hwidth
    refine run_congr hreads hreads' hwidth ?_
    rw [runCommand, runCommand, inDialect_of_given hdialect, inDialect_of_given hdialect, hinput,
      generate_input h, h.text, hwidth]
  rendered := by
    intro i g dialect p p' o hdialect hreads hinput hrun hcode
    have hop : (Operation.generate (givenText i.input "-") dialect).action =
        Answer.text <$> (Action.generate (givenText i.input "-") dialect : Action σ α String) := rfl
    obtain ⟨text, q, j, htext, hp', houtput⟩ :=
      of_run_text hreads rfl hop hdialect hrun hcode
    rw [hinput, generate_input h] at htext
    exact ⟨text, q, j, htext, hp', houtput⟩

/-- A report that ends a run with an exit code has been read of its text and presented. -/
theorem of_run_showReport
    {i : Invocation} {text : String} {p q : Session σ α} {code : Nat}
    (h : Action.run (showReport i text) p = (.ok code, q)) :
    ∃ report, Report.read text = .ok report ∧
      Action.run (presentReport i text report) p = (.ok (), q) ∧
      code = if report.valid then 0 else 3 := by
  obtain ⟨report, r, hread, hrest⟩ := Action.of_run_bind h
  obtain ⟨⟨⟩, r', hpresented, hcode⟩ := Action.of_run_bind hrest
  obtain ⟨hvalue, rfl⟩ := Prod.mk.inj hread
  cases hcode
  exact ⟨report, hvalue, hpresented, rfl⟩

/--
The output of a command is what the next one takes, in a session whose engine dumps exchangeable data
of fewer than a hundred nested containers.

If a command that parses a statement in a given dialect ends with exit code 0, its output is the
payload that parsing gives, with a line end behind it.  With that output on the input, a command that
renders in a given dialect is the same run as with the payload for its argument: it asks the engine
for the same, with the same exit code, output and messages.  With exit code 0 its output is the text
that rendering the payload gives, with a line end behind it.  If a command that checks in a given
dialect and writes JSON ends with exit code 0 or 3, its output without the line end is read as the
report of the engine.
-/
theorem pipeline
    {p : Session σ α}
    (hdumps : ∀ e q, Action.run Action.engine p = (.ok e, q) → DumpsExchangeable e) :
    Pipeline p where
  parsed := by
    intro i g sql dialect p' o hdialect hreads hrun hcode
    have hop : (Operation.parseOne (givenText i.input sql) dialect).action =
        Answer.text <$> (Action.parseOne (givenText i.input sql) dialect : Action σ α String) := rfl
    obtain ⟨payload, q, j, hpayload, hp', houtput⟩ :=
      of_run_text hreads rfl hop hdialect hrun hcode
    obtain ⟨e, r, tree, scene, v, he, hdump, hwritten⟩ := Action.of_run_parseOne hpayload
    obtain ⟨hexchangeable, hdepth⟩ := hdumps e r he tree scene v hdump
    have hconveyed := conveyed_of_encode hexchangeable hdepth hwritten
    refine ⟨payload, q, j, hpayload, hp', houtput, ?_⟩
    rw [houtput]
    exact hconveyed.piped
  checked := by
    intro i g sql dialect p' o hdialect hjson hreads hrun hcode
    obtain ⟨j, hended, houtput⟩ := exists_run_of_exitCode hreads hrun hcode
    rw [runCommand, inDialect_of_given hdialect, hjson] at hended
    obtain ⟨text, r, htext, hshown⟩ := of_run_withOperation hended hcode
    have hop : (Operation.validate (givenText i.input sql) dialect).action =
        Answer.text <$> (Action.validate (givenText i.input sql) dialect : Action σ α String) := rfl
    obtain ⟨r, j₁, hgives, rfl⟩ := of_run_beside_text hop htext
    obtain ⟨report, hread, hpresented, hexit⟩ := of_run_showReport hshown
    obtain ⟨d, e, q, report', hd, he, hreport, rfl⟩ := Action.of_run_validate hgives
    obtain rfl := Report.eq_of_read_render hread
    obtain ⟨j₂, hwritten⟩ := run_presentReport i _ (r := report) (o := ⟨true, ""⟩) nofun r j₁
    rw [hwritten, Output.append, String.empty_append, if_pos rfl] at hpresented
    cases hpresented
    exact ⟨d, e, q, report, _, hd, he, hreport, houtput, hread, hexit⟩

/-! ## An engine that passes texts on -/

/-- The report on a text: the text is what is wrong. -/
def complaint (text : String) : Report :=
  ⟨false, [⟨text, some 1, none, .error, "parse"⟩]⟩

/-- An engine whose trees are texts. -/
def relay : Engine Unit String :=
  { kind := "relay"
    level := none
    version := return "1.0"
    transpile := fun sql _ _ => return [sql]
    parse := fun sql _ => return [sql]
    parseOne := fun sql _ => return sql
    generate := fun tree _ _ => return tree
    validate := fun sql _ => return complaint sql
    dump := fun tree => return .list [.text tree]
    load := fun data =>
      match data with
      | .array [.text tree] => return tree
      | _ => throw (.of .payload "no text") }

theorem dumpsExchangeable_relay : DumpsExchangeable relay := by
  intro tree scene v h
  cases h
  refine ⟨.list _ ?_, rfl⟩
  intro v hv
  obtain rfl := List.mem_singleton.mp hv
  exact .text tree

/-- A session in which such an engine is registered. -/
def relaying : Session Unit String :=
  .supplied relay ()

/-- A text with a separator of lines, a tab and a line feed is parsed from the input. -/
def parsing : Invocation :=
  ⟨["parse-one", "-", "--dialect", "mysql"], "a\u2028\tb\n", 80⟩

/-- What has been written then is rendered. -/
def rendering : Invocation :=
  ⟨["generate", "-", "--dialect", "postgres"], "[\"a\u2028\\tb\\n\"]\n", 80⟩

/-- The text without its line feed is checked. -/
def proving : Invocation :=
  ⟨["--json", "validate", "a\u2028\tb", "--dialect", "mysql"], "", 80⟩

/-- The exit code and the output of a run in that session. -/
def shownBy (i : Invocation) : Option (Nat × String) :=
  (Action.run (run i) relaying).1.toOption.map fun o => (o.exitCode, o.output)

theorem of_shownBy
    {i : Invocation} {code : Nat} {output : String}
    (h : shownBy i = some (code, output)) :
    ∃ o p', Action.run (run i) relaying = (.ok o, p') ∧ o.exitCode = code ∧ o.output = output := by
  rcases hrun : Action.run (run i) relaying with ⟨f | o, p'⟩
  · rw [shownBy, hrun] at h
    cases h
  · rw [shownBy, hrun] at h
    cases h
    exact ⟨o, p', rfl, rfl, rfl⟩

theorem pipeline_relaying :
    (∀ e q, Action.run Action.engine relaying = (.ok e, q) → DumpsExchangeable e) ∧
    (parsing.Reads ⟨false, false⟩ (.parseOne "-" (some "mysql")) ∧
      shownBy parsing = some (0, rendering.input)) ∧
    (rendering.Reads ⟨false, false⟩ (.generate "-" (some "postgres")) ∧
      shownBy rendering = some (0, "a\u2028\tb\n" ++ "\n")) ∧
    (∃ payload, Piped Unit String payload rendering.input ∧
      (run rendering : Action Unit String Outcome) =
        run ⟨["generate", "--dialect", "postgres", "--", payload], "", 80⟩) ∧
    (proving.Reads ⟨true, false⟩ (.validate "a\u2028\tb" (some "mysql")) ∧
      shownBy proving = some (3, (complaint "a\u2028\tb").render ++ "\n")) := by
  have hdumps : ∀ e q, Action.run Action.engine relaying = (.ok e, q) → DumpsExchangeable e := by
    intro e q h
    cases h
    exact dumpsExchangeable_relay
  have hparsing : parsing.Reads ⟨false, false⟩ (.parseOne "-" (some "mysql")) :=
    reads_parseOne (.inl rfl) "mysql" _ 80
  have hrendering : rendering.Reads ⟨false, false⟩ (.generate "-" (some "postgres")) :=
    reads_generate "postgres" _ 80
  have hshown : shownBy parsing = some (0, rendering.input) := by decide +kernel
  obtain ⟨o, p', hrun, hcode, houtput⟩ := of_shownBy hshown
  obtain ⟨payload, q, j, -, -, -, hpiped⟩ :=
    (pipeline hdumps).parsed (by decide) hparsing hrun hcode
  rw [houtput] at hpiped
  refine ⟨hdumps, ⟨hparsing, hshown⟩, ⟨hrendering, ?_⟩, ⟨payload, hpiped, ?_⟩, ?_, ?_⟩
  · decide +kernel
  · exact hpiped.alike (by decide) hrendering rfl (reads_generate_behind payload "postgres" "" 80) rfl
  · exact reads_validate (.inr (by decide)) "mysql" "" 80
  · decide +kernel

end CommandLine
end SqlDialects
