import Mathlib.Data.List.Forall2
import SqlDialects.Proofs.Library.Classification

/-!
# Checking agrees with parsing

The engine of a library checks a text by having it parsed, just as it does when it parses, and turns
whatever comes of that into a report.

**Input.**  A library that answers a parser's request in one way, whether the parser is to collect
errors or to stop at the first (`Library.IgnoresMode`), and a scene from which a text is parsed or
checked.

**Specification.**  `Library.Diagnosed` says which issues an answer of the library calls for.  It is
not about how they are found: of the statements that are empty it only says where they stand.

**Results.**
* `Library.emptyIssues_eq_map`: the warnings stand for the positions of the empty statements.
* `Library.failureIssues_of_diagnosable`: a failure that is diagnosed becomes the issues that it
  calls for, and no other.
* `Library.validate_agrees_parse`: a report is favourable exactly when parsing succeeds; warnings
  and trees together are as many as the statements; and what is reported as no issue is raised by
  checking and by parsing alike.
-/

namespace SqlDialects
namespace Library

variable {τ ε : Type}

/-- The library parses in one way, whether errors are to be collected or not. -/
def IgnoresMode (lib : Library τ ε) : Prop :=
  ∀ dialect sql s,
    (Task.run (lib.parse dialect sql true) s).1 = (Task.run (lib.parse dialect sql false) s).1

/-- What the library answers when a text is to be parsed in a dialect. -/
def response (lib : Library τ ε) (sql : String) (d : Dialect) (s : Scene τ) :
    Except Failure (List (Node ε)) :=
  (Task.run (parseStep lib sql d) s).1

/-! ## Which issues are called for -/

/-- What a parser notes about an error, as far as it knows it. -/
structure Note where
  description : Option String
  line : Option Int
  column : Option Int

namespace Note

/-- The note that says nothing. -/
def blank : Note :=
  ⟨none, none, none⟩

/-- A record that holds a note; what is not known is missing in it. -/
structure RecordedAs (n : Note) (record : Value) : Prop where
  dict : ∃ entries, record = .dict entries
  description : (record.entry? "description").getD .null = (n.description.map .text).getD .null
  line : (record.entry? "line").getD .null = (n.line.map .int).getD .null
  column : (record.entry? "col").getD .null = (n.column.map .int).getD .null

/-- The description, or a text in its place where there is none or an empty one. -/
def message (text : String) (n : Note) : String :=
  match n.description with
  | none => text
  | some s => if s = "" then text else s

/-- The issue of a note. -/
def issue (text : String) (n : Note) : Issue :=
  ⟨n.message text, n.line, n.column, .error, "E001"⟩

end Note

/-- The warning about an empty statement at a position. -/
def emptyWarning (position : Nat) : Issue :=
  ⟨"Statement " ++ toString position ++ " is empty", none, none, .warning, "W001"⟩

/-- An answer that is diagnosed: statements, or a failure to read tokens, to parse, or to go as deep
as a text goes. -/
inductive Diagnosable : Except Failure (List (Node ε)) → Prop where
  | statements (nodes : List (Node ε)) : Diagnosable (.ok nodes)
  | tokens (f : Failure) (h : f.cls = .library .token) : Diagnosable (.error f)
  | errors (f : Failure) (h : f.cls = .library .parse) (notes : List Note)
      (hnotes : List.Forall₂ Note.RecordedAs notes f.records) : Diagnosable (.error f)
  | nesting (f : Failure) (h : f.cls = .recursion) : Diagnosable (.error f)

/-- The issues that an answer calls for. -/
inductive Diagnosed : Except Failure (List (Node ε)) → List Issue → Prop where
  /-- A warning for each position at which a statement is empty, counted from one, in order. -/
  | statements (nodes : List (Node ε)) (positions : List Nat)
      (hincreasing : positions.Pairwise (· < ·))
      (hempty : ∀ i, i ∈ positions ↔ ∃ m n, i = 1 + m ∧ nodes[m]? = some n ∧ n.isEmpty = true) :
      Diagnosed (.ok nodes) (positions.map emptyWarning)
  | tokens (f : Failure) (h : f.cls = .library .token) :
      Diagnosed (.error f) [⟨f.text, none, none, .error, "E002"⟩]
  /-- An issue for each note, in order, and one if there are no notes. -/
  | errors (f : Failure) (h : f.cls = .library .parse) (notes : List Note)
      (hnotes : List.Forall₂ Note.RecordedAs notes f.records) :
      Diagnosed (.error f) ((if notes.isEmpty then [.blank] else notes).map (Note.issue f.text))
  | nesting (f : Failure) (h : f.cls = .recursion) :
      Diagnosed (.error f)
        [⟨"SQL is nested too deeply: " ++ f.text, none, none, .error, "E001"⟩]

/-! ## Empty statements -/

/-- The warnings stand for the positions of the empty statements, counted from a number on. -/
theorem emptyIssues_eq_map
    (first : Nat)
    (nodes : List (Node ε)) :
    ∃ positions : List Nat,
      positions.Pairwise (· < ·) ∧
      (∀ i, i ∈ positions ↔ ∃ m n, i = first + m ∧ nodes[m]? = some n ∧ n.isEmpty = true) ∧
      emptyIssues first nodes = positions.map emptyWarning := by
  induction nodes generalizing first with
  | nil =>
      exact ⟨[], .nil, by simp, rfl⟩
  | cons n ns ih =>
      obtain ⟨positions, hincreasing, hempty, hissues⟩ := ih (first + 1)
      -- the positions of the rest are those of statements one place further on
      have hrest : ∀ i, i ∈ positions ↔
          ∃ m n', i = first + (m + 1) ∧ (n :: ns)[m + 1]? = some n' ∧ n'.isEmpty = true := by
        intro i
        simp only [hempty, List.getElem?_cons_succ, Nat.add_comm 1, Nat.add_assoc]
      cases hn : n.isEmpty with
      | true =>
          refine ⟨first :: positions, ?_, ?_, ?_⟩
          · refine List.pairwise_cons.mpr ⟨?_, hincreasing⟩
            intro i hi
            obtain ⟨m, -, rfl, -⟩ := (hrest i).mp hi
            omega
          · intro i
            rw [List.mem_cons, hrest]
            constructor
            · rintro (rfl | ⟨m, n', hi, hm, hn'⟩)
              · exact ⟨0, n, rfl, rfl, hn⟩
              · exact ⟨m + 1, n', hi, hm, hn'⟩
            · rintro ⟨m, n', hi, hm, hn'⟩
              cases m with
              | zero =>
                  exact .inl hi
              | succ m =>
                  exact .inr ⟨m, n', hi, hm, hn'⟩
          · rw [emptyIssues, if_pos hn, hissues, List.map_cons]
            rfl
      | false =>
          refine ⟨positions, hincreasing, ?_, ?_⟩
          · intro i
            rw [hrest]
            constructor
            · rintro ⟨m, n', hi, hm, hn'⟩
              exact ⟨m + 1, n', hi, hm, hn'⟩
            · rintro ⟨m, n', hi, hm, hn'⟩
              cases m with
              | zero =>
                  cases hm
                  rw [hn] at hn'
                  cases hn'
              | succ m =>
                  exact ⟨m, n', hi, hm, hn'⟩
          · rw [emptyIssues, if_neg (by simp [hn]), hissues]

/-- Every statement is empty and has a warning, or is not and has a place in what is parsed. -/
theorem length_emptyIssues_add
    (first : Nat)
    (nodes : List (Node ε)) :
    (emptyIssues first nodes).length + (nodes.filter fun n => !n.isEmpty).length =
      nodes.length := by
  induction nodes generalizing first with
  | nil =>
      rfl
  | cons n ns ih =>
      have hrest := ih (first + 1)
      cases hn : n.isEmpty with
      | true =>
          simp only [emptyIssues, hn, if_true, List.length_cons, List.filter_cons, Bool.not_true,
            Bool.false_eq_true, if_false]
          omega
      | false =>
          simp only [emptyIssues, hn, Bool.false_eq_true, if_false, List.filter_cons, Bool.not_false,
            if_true, List.length_cons]
          omega

/-! ## Notes -/

/-- An optional integer, taken from the value that stands for it. -/
theorem asOptional_position (position : Option Int) :
    Validation.asOptional Validation.asInt ((position.map Value.int).getD .null) = .ok position := by
  cases position with
  | none =>
      rfl
  | some i =>
      rfl

/-- The parts of an issue that are given as values. -/
theorem check_issue
    (message : String)
    {line column : Value} {n : Note}
    (hline : line = (n.line.map .int).getD .null)
    (hcolumn : column = (n.column.map .int).getD .null) :
    Issue.check .program [] (.dict [(.text "message", .text message), (.text "line", line),
      (.text "column", column), (.text "code", .text "E001")]) =
        .ok ⟨message, n.line, n.column, .error, "E001"⟩ := by
  have hl := asOptional_position n.line
  have hc := asOptional_position n.column
  rw [← hline] at hl
  rw [← hcolumn] at hc
  simp [Issue.check, Validation.field, Value.entry?, Value.text?, Validation.asString,
    Validation.textOf?, Validation.both, hl, hc, Except.map]

/-- The issue of a record is the issue of the note that it holds. -/
theorem issueOf_of_recordedAs
    {n : Note} {record : Value}
    (h : n.RecordedAs record)
    (text : String) :
    issueOf text record = .ok (n.issue text) := by
  have hdescription := h.description
  have hcheck := fun message => check_issue message h.line h.column
  unfold issueOf Note.issue Note.message
  cases hentry : record.entry? "description" with
  | none =>
      rw [hentry] at hdescription
      cases hn : n.description with
      | none => simp only [hcheck]
      | some s => simp [hn] at hdescription
  | some v =>
      rw [hentry] at hdescription
      cases hn : n.description with
      | none =>
          simp only [hn, Option.getD_some, Option.map_none, Option.getD_none] at hdescription
          subst v
          simp only [Value.isTruthy, Bool.false_eq_true, if_false, hcheck]
      | some s =>
          simp only [hn, Option.getD_some, Option.map_some] at hdescription
          subst v
          by_cases hs : s = ""
          · simp [hs, Value.isTruthy, hcheck]
          · simp [hs, Value.isTruthy, hcheck]

theorem mapM_issueOf
    {notes : List Note} {records : List Value}
    (h : List.Forall₂ Note.RecordedAs notes records)
    (text : String) :
    records.mapM (issueOf text) = .ok (notes.map (Note.issue text)) := by
  induction h with
  | nil =>
      rfl
  | cons hrecord _ ih =>
      rw [List.mapM_cons, issueOf_of_recordedAs hrecord, ih]
      rfl

/-- The record of a failure that has none. -/
theorem blank_recordedAs :
    Note.blank.RecordedAs (.dict []) :=
  ⟨⟨[], rfl⟩, rfl, rfl, rfl⟩

/-! ## What comes of an answer -/

/-- A failure that is diagnosed becomes issues, all of them errors, and at least one. -/
theorem failureIssues_of_diagnosable
    {f : Failure}
    (h : Diagnosable (.error f : Except Failure (List (Node ε)))) :
    ∃ issues,
      failureIssues f = .ok issues ∧
      Diagnosed (.error f : Except Failure (List (Node ε))) issues ∧
      issues ≠ [] ∧
      ∀ i ∈ issues, i.severity = .error := by
  cases h with
  | tokens _ h =>
      refine ⟨_, ?_, .tokens f h, by simp, by simp⟩
      rw [failureIssues, Failure.isA, h]
      rfl
  | errors _ h notes hnotes =>
      refine ⟨_, ?_, .errors f h notes hnotes, ?_, ?_⟩
      · rw [failureIssues, Failure.isA, Failure.isA, h]
        generalize f.records = records at hnotes
        cases hnotes with
        | nil =>
            exact mapM_issueOf (.cons blank_recordedAs .nil) f.text
        | cons hrecord hrest =>
            exact mapM_issueOf (.cons hrecord hrest) f.text
      · cases notes <;> simp
      · intro i hi
        obtain ⟨n, -, rfl⟩ := List.mem_map.mp hi
        rfl
  | nesting _ h =>
      refine ⟨_, ?_, .nesting f h, by simp, by simp⟩
      rw [failureIssues, Failure.isA, Failure.isA, Failure.isA, h]
      rfl

/-- What checking gives depends on the answer alone. -/
theorem run_check_fst
    {lib : Library τ ε}
    (hmode : lib.IgnoresMode)
    (sql : String)
    (d : Dialect)
    (s : Scene τ) :
    (Task.run (check lib sql d) s).1 =
      match response lib sql d s with
      | .ok nodes => .ok (.ofIssues (emptyIssues 1 nodes))
      | .error f => (failureIssues f).map .ofIssues := by
  have hsame : (Task.run (do lib.parse (← lib.choose d) sql true) s).1 = response lib sql d s := by
    rw [response, parseStep, Task.run_bind, Task.run_bind]
    rcases Task.run (lib.choose d) s with ⟨_ | dialect, s'⟩
    · rfl
    · exact hmode dialect sql s'
  rw [check, Task.run_bind, Task.run_outcome, hsame]
  cases response lib sql d s with
  | ok nodes =>
      rfl
  | error f =>
      simp only [Task.run_bind, Task.run_ofExcept]
      cases failureIssues f <;> rfl

/-- The statements of a text are what the library answers, or the engine's report. -/
theorem run_statements (lib : Library τ ε) (sql : String) (d : Dialect) (s : Scene τ) :
    Task.run (statements lib sql d) s =
      (match response lib sql d s with
        | .ok nodes => .ok nodes
        | .error f => .error (if f.isAnyOf parseFailures then report .parsing f else f),
        (Task.run (parseStep lib sql d) s).2) := by
  rw [statements, reporting, Task.run_bind, Task.run_outcome, response, parseStep]
  rcases Task.run (lib.choose d >>= _) s with ⟨f | nodes, s'⟩
  · simp only
    split <;> rfl
  · rfl

/-- What parsing gives depends on the answer alone, too. -/
theorem run_parse_fst
    (lib : Library τ ε)
    (level : UnsupportedLevel)
    (sql : String)
    (d : Dialect)
    (s : Scene τ) :
    (Task.run ((lib.engine level).parse sql d) s).1 =
      match response lib sql d s with
      | .ok nodes => .ok (nodes.filter fun n => !n.isEmpty)
      | .error f => .error (if f.isAnyOf parseFailures then report .parsing f else f) := by
  change (Task.run (statements lib sql d >>= skipEmpty) s).1 = _
  rw [Task.run_bind, run_statements]
  cases response lib sql d s with
  | error f =>
      rfl
  | ok nodes =>
      obtain ⟨records, hskip⟩ := run_skipEmpty nodes (Task.run (parseStep lib sql d) s).2
      simp only [hskip]

/-! ## Agreement -/

/-- A report is favourable exactly if it holds no error. -/
theorem valid_ofIssues_iff (issues : List Issue) :
    (Report.ofIssues issues).valid = true ↔ ∀ i ∈ issues, i.severity ≠ .error := by
  simp [Report.ofIssues, Issue.isError]

/-- How checking a text and parsing it go together. -/
structure Agreement (lib : Library τ ε) (level : UnsupportedLevel) (sql : String) (d : Dialect)
    (s : Scene τ) : Prop where
  /-- An answer that is diagnosed gives a report with the issues that it calls for.  The report is
  favourable exactly when parsing succeeds, and exactly when no issue is an error. -/
  reported : Diagnosable (response lib sql d s) →
    ∃ report,
      (Task.run ((lib.engine level).validate sql d) s).1 = .ok report ∧
      Diagnosed (response lib sql d s) report.issues ∧
      (report.valid = true ↔
        ∃ trees, (Task.run ((lib.engine level).parse sql d) s).1 = .ok trees) ∧
      (report.valid = true ↔ ∀ i ∈ report.issues, i.severity ≠ .error)
  /-- Of the statements of a text each has its warning or its tree. -/
  counted : ∀ nodes, response lib sql d s = .ok nodes →
    ∃ report trees,
      (Task.run ((lib.engine level).validate sql d) s).1 = .ok report ∧
      (Task.run ((lib.engine level).parse sql d) s).1 = .ok trees ∧
      (report.issues.filter Issue.isWarning).length + trees.length = nodes.length
  /-- Any other failure of the library is raised as the engine's report, by checking as by
  parsing. -/
  raised : ∀ f, response lib sql d s = .error f → f.isA (.library .root) = true →
    f.cls ≠ .library .token → f.cls ≠ .library .parse →
    (Task.run ((lib.engine level).validate sql d) s).1 = .error (report .parsing f) ∧
    (Task.run ((lib.engine level).parse sql d) s).1 = .error (report .parsing f)

/-- All issues of empty statements are warnings. -/
theorem severity_of_mem_emptyIssues
    {first : Nat} {nodes : List (Node ε)} {i : Issue}
    (h : i ∈ emptyIssues first nodes) :
    i.severity = .warning := by
  obtain ⟨positions, -, -, hissues⟩ := emptyIssues_eq_map first nodes
  rw [hissues] at h
  obtain ⟨position, -, rfl⟩ := List.mem_map.mp h
  rfl

/-- Failures of the library's other classes become no issues. -/
theorem failureIssues_of_other
    {f : Failure}
    (hroot : f.isA (.library .root) = true)
    (htoken : f.cls ≠ .library .token)
    (hparse : f.cls ≠ .library .parse) :
    failureIssues f = .error (report .parsing f) := by
  obtain ⟨c, hc⟩ : ∃ c, f.cls = .library c := by
    rw [Failure.isA] at hroot
    cases hf : f.cls with
    | library c =>
        exact ⟨c, rfl⟩
    | general c =>
        rw [hf] at hroot
        exact absurd hroot (by cases c <;> decide)
    | own o =>
        rw [hf, ErrorClass.isA_library_of_own] at hroot
        cases hroot
    | _ =>
        rw [hf] at hroot
        exact absurd hroot (by decide)
  rw [hc] at htoken hparse
  obtain ⟨ht, hp, hr⟩ : f.isA (.library .token) = false ∧ f.isA (.library .parse) = false ∧
      f.isA .recursion = false := by
    simp only [Failure.isA, hc]
    cases c with
    | token => exact absurd rfl htoken
    | parse => exact absurd rfl hparse
    | _ => decide
  simp only [failureIssues, ht, hp, hr, hroot, Bool.false_eq_true, if_false, if_true]
  rfl

/--
With a library that answers in one way whether errors are to be collected or not, checking a text
and parsing it agree.
-/
theorem validate_agrees_parse
    (lib : Library τ ε)
    (hmode : lib.IgnoresMode)
    (level : UnsupportedLevel)
    (sql : String)
    (d : Dialect)
    (s : Scene τ) :
    Agreement lib level sql d s := by
  have hcheck := run_check_fst hmode sql d s
  have hparse := run_parse_fst lib level sql d s
  change (Task.run ((lib.engine level).validate sql d) s).1 = _ at hcheck
  constructor
  · intro h
    cases hresponse : response lib sql d s with
    | ok nodes =>
        obtain ⟨positions, hincreasing, hempty, hissues⟩ := emptyIssues_eq_map 1 nodes
        have hwarnings : ∀ i ∈ (Report.ofIssues (emptyIssues 1 nodes)).issues,
            i.severity ≠ .error := by
          intro i hi
          rw [severity_of_mem_emptyIssues hi]
          decide
        rw [hresponse] at hcheck hparse
        refine ⟨_, hcheck, ?_, ?_, valid_ofIssues_iff _⟩
        · rw [Report.ofIssues, hissues]
          exact .statements nodes positions hincreasing hempty
        · exact iff_of_true ((valid_ofIssues_iff _).mpr hwarnings) ⟨_, hparse⟩
    | error f =>
        rw [hresponse] at h hcheck hparse
        obtain ⟨issues, hissues, hdiagnosed, hsome, herrors⟩ := failureIssues_of_diagnosable h
        simp only [hissues, Except.map] at hcheck
        refine ⟨_, hcheck, hdiagnosed, ?_, valid_ofIssues_iff _⟩
        refine iff_of_false ?_ ?_
        · intro hvalid
          obtain ⟨i, hi⟩ := List.exists_mem_of_ne_nil issues hsome
          exact (valid_ofIssues_iff issues).mp hvalid i hi (herrors i hi)
        · rintro ⟨trees, htrees⟩
          rw [hparse] at htrees
          cases htrees
  · intro nodes hresponse
    rw [hresponse] at hcheck hparse
    refine ⟨_, _, hcheck, hparse, ?_⟩
    have hwarnings : (emptyIssues 1 nodes).filter Issue.isWarning = emptyIssues 1 nodes := by
      refine List.filter_eq_self.mpr fun i hi => ?_
      simp [Issue.isWarning, severity_of_mem_emptyIssues hi]
    rw [Report.ofIssues, hwarnings]
    exact length_emptyIssues_add 1 nodes
  · intro f hresponse hroot htoken hother
    rw [hresponse] at hcheck hparse
    refine ⟨?_, ?_⟩
    · rw [hcheck]
      simp only [failureIssues_of_other hroot htoken hother]
      rfl
    · rw [hparse]
      have hreported : f.isAnyOf parseFailures = true :=
        @isAnyOf_reportedClasses .parsing f (.inl hroot)
      simp only [hreported, if_true]

/-- A scripted library answers as its script says, whatever the parser is to do with errors. -/
theorem ignoresMode_scripted
    (version : String)
    (available : Option (List String)) :
    (ScriptedLibrary.library version available).IgnoresMode := by
  intro dialect sql s
  simp only [ScriptedLibrary.library, ScriptedLibrary.answer, ScriptedLibrary.note, Task.run_bind,
    Task.run_onState, Task.run_ofExcept]
  generalize Scripted.nextOr _ _ s.state.script = answered
  rcases answered with ⟨_ | _, _⟩ <;> rfl

/-- Where a library finds two errors in a text: one at a place, with an empty description, and one
of which it says nothing. -/
def twoErrors : Scene ScriptedLibrary.State :=
  ⟨⟨[(.parse, [.error ⟨.library .parse, "Invalid expression", none, none,
    [.dict [(.text "description", .text ""), (.text "line", .int 3), (.text "col", .int 7)],
      .dict []], none⟩])], []⟩, []⟩

theorem validate_agrees_parse_twoErrors :
    (ScriptedLibrary.library "1.0" none).IgnoresMode ∧
    Agreement (ScriptedLibrary.library "1.0" none) .warn "a b; c d" .generic twoErrors ∧
    Diagnosable (response (ScriptedLibrary.library "1.0" none) "a b; c d" .generic twoErrors) := by
  have hmode := ignoresMode_scripted "1.0" none
  refine ⟨hmode, validate_agrees_parse (ScriptedLibrary.library "1.0" none) hmode .warn "a b; c d"
    .generic twoErrors, ?_⟩
  exact .errors _ rfl [⟨some "", some 3, some 7⟩, .blank]
    (.cons ⟨⟨_, rfl⟩, by simp [Value.entry?, Value.text?], by simp [Value.entry?, Value.text?],
      by simp [Value.entry?, Value.text?]⟩ (.cons blank_recordedAs .nil))

end Library
end SqlDialects
