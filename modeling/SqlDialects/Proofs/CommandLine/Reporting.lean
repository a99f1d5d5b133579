import SqlDialects.Proofs.CommandLine.Pipeline

/-!
# Reports on their way out of a session

An engine gives a report, and the report leaves the session as a text.  Hosts read the text, and so
does the command that checks, for its exit code.

**Input.**  Any session, and a report that its engine gives (`Reported`), be it valid or not and
whatever its issues are.

**View.**  `Directed` says under which name of a dialect a command runs whose settings load.

**Results.**
* `Action.run_hostValidate_of_reported`: hosts get the report itself.
* `CommandLine.delivery`: so they do, and the exit code of a command that writes JSON is 3 exactly
  for a report that is not valid.
-/

namespace SqlDialects

variable {σ α β : Type}

/-- What the engine of a session reports on a text in a dialect, and the session that is left. -/
inductive Reported (p : Session σ α) (sql dialect : String) : Report → Session σ α → Prop
  | mk {d : Dialect} {e : Engine σ α} {q : Session σ α} {r : Report} {s : Scene σ}
      (hd : Dialect.resolve? dialect = some d)
      (hserves : Action.run Action.engine p = (.ok e, q))
      (hreport : Task.run (e.validate sql d) q.scene = (.ok r, s)) :
      Reported p sql dialect r (q.resume s)

/-- Neither the log nor the output plays a part in it. -/
theorem Reported.beside
    {p q : Session σ α} {sql dialect : String} {r : Report}
    (h : Reported p sql dialect r q)
    (o : Output)
    (j : Log.Journal) :
    ∃ j', Reported (p.beside o j) sql dialect r (q.beside o j') := by
  cases h with
  | @mk d e q r s hd hserves hreport =>
      obtain ⟨j', hj'⟩ := Action.run_engine_beside p o j
      rw [hserves] at hj'
      exact ⟨j'.logAll s.records, .mk (q := q.beside o j') hd hj' hreport⟩

namespace Action

/-- Checking gives the text of the report. -/
theorem run_validate_of_reported
    {p q : Session σ α} {sql dialect : String} {r : Report}
    (h : Reported p sql dialect r q) :
    run (validate sql dialect) p = (.ok r.render, q) := by
  cases h with
  | @mk d e q r s hd hserves hreport =>
      have hchecked := (run_bind_of_ok hserves fun e => engineTask (e.validate sql d)).trans
        (run_engineTask_of_run hreport)
      rw [validate, run_resolve_bind_of_some hd,
        run_bind_of_ok (run_translating_of_ok hchecked "validate"), run_pure]

/-- What checking gives is the text of a report. -/
theorem exists_reported_of_run_validate
    {p q : Session σ α} {sql dialect text : String}
    (h : run (validate sql dialect) p = (.ok text, q)) :
    ∃ r q', Reported p sql dialect r q' ∧ text = r.render := by
  obtain ⟨d, e, q', r, hd, hserves, hreport, htext⟩ := of_run_validate h
  exact ⟨r, _, .mk hd hserves (Prod.ext hreport rfl), htext⟩

/-- Hosts get the report that the engine has given. -/
theorem run_hostValidate_of_reported
    {p p' q : Session σ α} {sql name : String} {choice : DialectChoice} {r : Report}
    (hname : run (chosenName choice) p = (.ok name, p'))
    (h : Reported p' sql name r q)
    (hfits : ∀ issue ∈ r.issues, issue.PositionsFit) :
    run (hostValidate sql choice) p = (.ok r, q) := by
  rw [hostValidate, run_bind_of_ok hname, run_bind_of_ok (run_validate_of_reported h), run_ofExcept,
    Report.read_render hfits]

end Action

namespace CommandLine

/-! ## Commands that check -/

/-- The settings load for a command line, and the command has the name of its dialect: the one that
is given, or that of the default dialect. -/
inductive Directed (p : Session σ α) (g : Globals) (option : Option String) : String → Prop
  | mk (s : Settings)
      (h : loaded p g.overrides = .ok s)
      (hdefault : isOpen option = true → ∃ t, loaded p [] = .ok t) :
      Directed p g option (chosen s.defaultDialect.name option)

/-- A command that checks and writes JSON ends by what the report says, and its output is the text
of the report. -/
theorem run_of_reported
    {i : Invocation} {g : Globals} {sql name : String} {option : Option String}
    {p q : Session σ α} {r : Report}
    (hjson : g.json = true)
    (hreads : i.Reads g (.validate sql option))
    (hname : Directed p g option name)
    (h : Reported p (givenText i.input sql) name r q)
    (hfits : ∀ issue ∈ r.issues, issue.PositionsFit) :
    ∃ errors j, Action.run (run i) p =
      (.ok ⟨if r.valid then 0 else 3, r.render ++ "\n", errors, none⟩,
        q.beside ⟨true, r.render ++ "\n"⟩ j) := by
  obtain ⟨word, words, hglobals, hcommand⟩ := hreads
  cases hname with
  | mk s hs hdefault =>
      obtain ⟨j₁, hnamed⟩ :=
        run_runNamed_of_ok (i := i) hs hcommand ⟨true, ""⟩ (startLog p.journal)
      obtain ⟨j₂, hgiven⟩ := run_inDialect_beside Action.validate (givenText i.input sql)
        (fallback_of_loaded hs hdefault) ⟨true, ""⟩ j₁
      obtain ⟨j₃, hreported⟩ := h.beside ⟨true, ""⟩ j₂
      rw [Action.run_validate_of_reported hreported] at hgiven
      obtain ⟨j₄, hshown⟩ :=
        run_showReport i (o := ⟨true, ""⟩) (Report.read_render hfits) nofun q j₃
      rw [Output.append, String.empty_append, if_pos rfl] at hshown
      have hwords : Action.run (runWords i) (started p) =
          (.ok (if r.valid then 0 else 3), q.beside ⟨true, r.render ++ "\n"⟩ j₄) := by
        rw [started, run_runWords_of_ok hglobals, hjson, hnamed, runCommand,
          run_withOperation_of_ok hgiven]
        exact hshown
      exact ⟨j₄.terminal, j₄, run_run hwords⟩

/-- Settings that do not load end a run with exit code 2. -/
theorem exists_loaded_of_exitCode
    {i : Invocation} {g : Globals} {c : Command} {p p' : Session σ α} {o : Outcome}
    (hreads : i.Reads g c)
    (hrun : Action.run (run i) p = (.ok o, p'))
    (hcode : o.exitCode ≠ 2) :
    ∃ s, loaded p g.overrides = .ok s := by
  obtain ⟨name, words, hglobals, hcommand⟩ := hreads
  cases hs : loaded p g.overrides with
  | ok s =>
      exact ⟨s, rfl⟩
  | error f =>
      obtain ⟨j, hnamed⟩ :=
        run_runNamed_of_error (i := i) hs name words ⟨g.json, ""⟩ (startLog p.journal)
      have hwords : Action.run (runWords i) (started p) = (.ok 2, p.beside ⟨g.json, ""⟩ j) := by
        rw [started, run_runWords_of_ok hglobals]
        exact hnamed
      rw [run_run hwords] at hrun
      cases hrun
      exact absurd rfl hcode

/-- An operation of a command that succeeds has been performed under the name of its dialect. -/
theorem exists_directed_of_run_inDialect
    {operation : String → String → Action σ α β} {text : String} {g : Globals}
    {option : Option String} {p q : Session σ α} {o : Output} {j : Log.Journal} {s : Settings} {b : β}
    (hs : loaded p g.overrides = .ok s)
    (h : Action.run (inDialect operation text option) (p.beside o j) = (.ok b, q)) :
    ∃ name j', Directed p g option name ∧
      Action.run (operation text name) (p.beside o j') = (.ok b, q) := by
  have hdefault : isOpen option = true → ∃ t, loaded p [] = .ok t := by
    intro hoption
    cases ht : loaded p [] with
    | ok t =>
        exact ⟨t, rfl⟩
    | error f =>
        rw [run_inDialect_of_error (p := p.beside o j) operation text hoption ht] at h
        cases h
  obtain ⟨j', hgiven⟩ :=
    run_inDialect_beside operation text (fallback_of_loaded hs hdefault) o j
  rw [h] at hgiven
  exact ⟨_, j', .mk s hs hdefault, hgiven.symm⟩

/-- A command that checks, writes JSON and ends with exit code 3 has got a report that is not
valid. -/
theorem exists_reported_of_exitCode
    {i : Invocation} {g : Globals} {sql : String} {option : Option String} {p p' : Session σ α}
    {o : Outcome}
    (hjson : g.json = true)
    (hreads : i.Reads g (.validate sql option))
    (hrun : Action.run (run i) p = (.ok o, p'))
    (hcode : o.exitCode = 3) :
    ∃ name r q, Directed p g option name ∧ Reported p (givenText i.input sql) name r q ∧
      r.valid = false := by
  obtain ⟨s, hs⟩ := exists_loaded_of_exitCode hreads hrun (by omega)
  obtain ⟨j, hended, -⟩ := exists_run_of_exitCode hreads hrun (.inr hcode)
  rw [runCommand, hjson] at hended
  obtain ⟨text, q, htext, hshown⟩ := of_run_withOperation hended (.inr hcode)
  obtain ⟨report, hread, -, hexit⟩ := of_run_showReport hshown
  obtain ⟨name, j₁, hname, hgives⟩ := exists_directed_of_run_inDialect hs htext
  obtain ⟨r, q₁, hreported, rfl⟩ := Action.exists_reported_of_run_validate hgives
  obtain ⟨j₂, hreported⟩ := hreported.beside p.output p.journal
  refine ⟨name, r, _, hname, hreported, ?_⟩
  rw [Report.eq_of_read_render hread] at hexit
  cases hvalid : r.valid with
  | false =>
      rfl
  | true =>
      rw [hcode, hvalid] at hexit
      cases hexit

/-! ## Delivery -/

/-- What becomes of the reports that the engine of a session gives, as long as no line or column is
longer than numbers may be. -/
structure Delivery (p : Session σ α) : Prop where
  /-- Hosts get the report itself, however they choose the dialect. -/
  hosted : ∀ {sql name : String} {choice : DialectChoice} {r : Report} {p' q : Session σ α},
    Action.run (Action.chosenName choice) p = (.ok name, p') →
    Reported p' sql name r q →
    (∀ issue ∈ r.issues, issue.PositionsFit) →
    Action.run (Action.hostValidate sql choice) p = (.ok r, q)
  /-- A command that checks and writes JSON writes the text of the report, and its exit code says
  whether the report is valid. -/
  shown : ∀ {i : Invocation} {g : Globals} {sql name : String} {option : Option String} {r : Report}
    {q : Session σ α},
    g.json = true →
    i.Reads g (.validate sql option) →
    Directed p g option name →
    Reported p (givenText i.input sql) name r q →
    (∀ issue ∈ r.issues, issue.PositionsFit) →
    ∃ errors j, Action.run (run i) p =
      (.ok ⟨if r.valid then 0 else 3, r.render ++ "\n", errors, none⟩,
        q.beside ⟨true, r.render ++ "\n"⟩ j)
  /-- Its exit code is 3 in no other case than that of a report that is not valid. -/
  invalid : ∀ {i : Invocation} {g : Globals} {sql : String} {option : Option String} {o : Outcome}
    {p' : Session σ α},
    g.json = true →
    i.Reads g (.validate sql option) →
    Action.run (run i) p = (.ok o, p') →
    (∀ name r q, Reported p (givenText i.input sql) name r q →
      ∀ issue ∈ r.issues, issue.PositionsFit) →
    (o.exitCode = 3 ↔ ∃ name r q, Directed p g option name ∧
      Reported p (givenText i.input sql) name r q ∧ r.valid = false)

/--
A report whose lines and columns have at most 4300 digits each leaves its session unchanged, whether it
is valid or not and whatever its issues say: messages and codes of any characters, lines and columns
that are there or not, both severities, in their order.  Hosts get the report itself, and a command
that checks and writes JSON ends with exit code 3 exactly if the report is not valid.
-/
theorem delivery (p : Session σ α) :
    Delivery p where
  hosted := Action.run_hostValidate_of_reported
  shown := run_of_reported
  invalid := by
    intro i g sql option o p' hjson hreads hrun hfits
    constructor
    · exact exists_reported_of_exitCode hjson hreads hrun
    · rintro ⟨name, r, q, hname, hreported, hvalid⟩
      obtain ⟨errors, j, hends⟩ :=
        run_of_reported hjson hreads hname hreported (hfits name r q hreported)
      rw [hrun] at hends
      cases hends
      simp only [hvalid, Bool.false_eq_true, if_false]

/-- A report that is valid in spite of an error, on lines before the first one and with characters
that have to be escaped. -/
def mixed : Report :=
  ⟨true, [⟨"\"\\\n\x01é😀", some (-7), none, .error, "[b]"⟩, ⟨"", none, some 0, .warning, ""⟩]⟩

theorem positionsFit_mixed :
    ∀ issue ∈ mixed.issues, issue.PositionsFit := by
  simp only [mixed, List.forall_mem_cons]
  refine ⟨⟨?_, ?_⟩, ⟨?_, ?_⟩, by simp⟩
  · rintro n ⟨⟩
    decide
  · rintro n ⟨⟩
  · rintro n ⟨⟩
  · rintro n ⟨⟩
    decide

/-- The engine that is registered reports what it is to report. -/
theorem reported_checking (report : Report) :
    ∃ q, Reported (checking report []) "SELECT 1" "mysql" report q :=
  ⟨_, .mk (d := .mysql) (by decide +kernel) rfl rfl⟩

/-- A text is checked in a given dialect, and the report is written as JSON. -/
def jsonCheck : Invocation :=
  ⟨["--json", "validate", "SELECT 1", "--dialect", "mysql"], "", 80⟩

theorem delivery_mixed :
    (∀ issue ∈ mixed.issues, issue.PositionsFit) ∧
    jsonCheck.Reads ⟨true, false⟩ (.validate "SELECT 1" (some "mysql")) ∧
    ∃ q, Reported (checking mixed []) "SELECT 1" "mysql" mixed q ∧
      Action.run (Action.hostValidate "SELECT 1" (.name "mysql")) (checking mixed []) =
        (.ok mixed, q) ∧
      ∃ errors j, Action.run (run jsonCheck) (checking mixed []) =
        (.ok ⟨0, mixed.render ++ "\n", errors, none⟩, q.beside ⟨true, mixed.render ++ "\n"⟩ j) := by
  have hreads : jsonCheck.Reads ⟨true, false⟩ (.validate "SELECT 1" (some "mysql")) :=
    reads_validate (.inr (by decide)) "mysql" "" 80
  obtain ⟨q, hreported⟩ := reported_checking mixed
  obtain ⟨s, hs⟩ : ∃ s, loaded (checking mixed []) (Globals.overrides ⟨true, false⟩) = .ok s :=
    ⟨_, rfl⟩
  refine ⟨positionsFit_mixed, hreads, q, hreported,
    (delivery (checking mixed [])).hosted rfl hreported positionsFit_mixed,
    (delivery (checking mixed [])).shown rfl hreads (.mk s hs ?_) hreported positionsFit_mixed⟩
  rintro ⟨⟩

end CommandLine
end SqlDialects
