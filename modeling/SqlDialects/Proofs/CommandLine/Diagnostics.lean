import SqlDialects.Proofs.CommandLine.Outcome
import SqlDialects.Proofs.Console.Verbatim

/-!
# The table of diagnostics shows issues as they are

What the command line shows of a report: a row for each issue, in order, with the texts that the
engine gives.

**Input.**  A report whose messages and codes have no backslash and no shortcode.  A message may hold
brackets in any order; a code may hold them too, as long as they make up no tag.

**Specification.**  `Issue.cells` gives the texts of the row of an issue, without the five control
characters that no console shows.

**Results.**
* `cellTexts_issueRow`: the row of an issue has these texts.
* `showReport_verbatim`: a report is shown in these rows, and the run ends with the exit code of the
  report.
* `showReport_not_verbatim`: a bell in a message is not shown, and a code that is a closing tag is a
  fault, which no exit code tells of.
-/

namespace SqlDialects

open Console.Markup CommandLine

namespace Issue

/-- Code and message are shown as they are, and the code holds no tag. -/
structure Literal (i : Issue) : Prop where
  code : Verbatim i.code.toList
  untagged : ¬ HoldsTag i.code.toList
  message : Verbatim i.message.toList

instance decidableLiteral : DecidablePred Literal :=
  fun i => decidable_of_iff
    (Verbatim i.code.toList ∧ ¬ HoldsTag i.code.toList ∧ Verbatim i.message.toList)
    ⟨fun h => ⟨h.1, h.2.1, h.2.2⟩, fun h => ⟨h.code, h.untagged, h.message⟩⟩

/-- The texts of a row: code, severity, line, column and message. -/
def cells (i : Issue) : List (List Char) :=
  [shown i.code.toList, i.severity.label.toList, positionText i.line, positionText i.column,
    shown i.message.toList]

end Issue

namespace CommandLine

variable {σ α : Type}

/-! ## Cells -/

theorem isDropped_of_isDigit
    {c : Char}
    (h : Json.isDigit c = true) :
    isDropped c = false := by
  simp only [Json.isDigit, Bool.and_eq_true, decide_eq_true_eq, Char.le_def,
    UInt32.le_iff_toNat_le] at h
  have hlow : 48 ≤ c.toNat := h.1
  simp only [isDropped, Bool.or_eq_false_iff, decide_eq_false_iff_not]
  omega

theorem plain_positionText (position : Option Int) :
    plain (positionText position) = .ok (positionText position) := by
  have hverbatim : Verbatim (positionText position) := by
    have hletters : ∀ c ∈ positionText position, c ≠ '\\' ∧ c ≠ ':' := by
      intro c hc
      rcases of_mem_positionText hc with rfl | hdigit
      · decide
      · constructor <;> rintro rfl <;> exact absurd hdigit (by decide)
    simpa using verbatim_nil.append_of_letters hletters
  have htag : ¬ HoldsTag (positionText position) := by
    rintro ⟨tag, -, hpart⟩
    exact not_mem_positionText position (hpart.subset List.mem_cons_self)
  have hshown : shown (positionText position) = positionText position := by
    refine List.filter_eq_self.mpr fun c hc => ?_
    rcases of_mem_positionText hc with rfl | hdigit
    · decide
    · rw [isDropped_of_isDigit hdigit]
      rfl
  rw [plain_of_untagged hverbatim htag, hshown]

/-- The row of an issue has its texts. -/
theorem cellTexts_issueRow
    {i : Issue}
    (h : i.Literal) :
    cellTexts (issueRow i) = .ok i.cells := by
  simp only [issueRow, cellTexts, plain_of_untagged h.code h.untagged, plain_severity,
    plain_positionText, plain_escape h.message]
  rfl

/-- So have all rows, in order. -/
theorem rowTexts_issues
    {issues : List Issue}
    (h : ∀ i ∈ issues, i.Literal) :
    rowTexts (issues.map issueRow) = .ok (issues.map Issue.cells) := by
  induction issues with
  | nil =>
      rfl
  | cons i issues ih =>
      obtain ⟨hi, hissues⟩ := List.forall_mem_cons.mp h
      rw [List.map_cons, rowTexts, cellTexts_issueRow hi, ih hissues]
      rfl

/-! ## Reports -/

/-- The table of a report as it is shown, unless all is well. -/
def shownTable (width : Nat) (r : Report) : String :=
  if r.valid && r.issues.isEmpty then ""
  else printed width ((diagnosticsTable (r.issues.map Issue.cells)).render width)

theorem printIssues_of_literal
    (width : Nat)
    {r : Report}
    (h : ∀ i ∈ r.issues, i.Literal) :
    printIssues width r = .ok (shownTable width r) := by
  unfold printIssues shownTable
  split
  · rfl
  · rw [rowTexts_issues h]
    rfl

/-- The session after a report has been shown: the verdict, and then the table. -/
def afterReport (p : Session σ α) (width : Nat) (r : Report) : Session σ α :=
  p.withJournal ((p.journal.write .terminal (printText width (verdict r))).write .terminal
    (shownTable width r))

/--
A report is shown as it is, whatever brackets its messages hold.

The rows of the table have the texts of the issues, one row for each, in order: the code, the severity,
the line and the column, or a hyphen for each that is missing, and the message.  Unless results are
written as JSON, the report is shown in these rows, after the verdict, and without a fault.  So is a
report that is read from its text, if its lines and columns are not too long to be read, and then the
run ends with exit code 0 or 3.
-/
theorem showReport_verbatim
    {r : Report}
    (hliteral : ∀ issue ∈ r.issues, issue.Literal)
    (i : Invocation)
    (p : Session σ α)
    (hjson : p.output.json = false) :
    rowTexts (r.issues.map issueRow) = .ok (r.issues.map Issue.cells) ∧
    (∀ payload, Action.run (presentReport i payload r) p = (.ok (), afterReport p i.width r)) ∧
    ((∀ issue ∈ r.issues, issue.PositionsFit) →
      Action.run (showReport i r.render) p =
        (.ok (if r.valid then 0 else 3), afterReport p i.width r)) := by
  have hshown : ∀ payload,
      Action.run (presentReport i payload r) p = (.ok (), afterReport p i.width r) := by
    intro payload
    have hwrites : Action.run writesJson p = (.ok false, p) := by rw [← hjson]; rfl
    rw [presentReport, Action.run_bind_of_ok hwrites, printIssues_of_literal i.width hliteral]
    rfl
  refine ⟨rowTexts_issues hliteral, hshown, fun hpositions => ?_⟩
  have hread : Action.run (Action.ofExcept (Report.read r.render)) p = (.ok r, p) := by
    rw [Action.run_ofExcept, Report.read_render hpositions]
  rw [showReport, Action.run_bind_of_ok hread, Action.run_bind_of_ok (hshown _), Action.run_pure]

/-- A report whose messages and codes look like markup. -/
def bracketingReport : Report :=
  ⟨false, [⟨"expected [/red]\n[b near x::int [", some 1, none, .error, "[E1] [/"⟩,
    ⟨"[red]x[/red] [[/]", none, some (-30), .warning, ""⟩]⟩

theorem showReport_verbatim_bracketing :
    (∀ issue ∈ bracketingReport.issues, issue.PositionsFit) ∧
    (∀ issue ∈ bracketingReport.issues, issue.Literal) ∧
    bracketingReport.issues.map Issue.cells =
      [["[E1] [/".toList, "error".toList, ['1'], ['-'],
          "expected [/red]\n[b near x::int [".toList],
        [[], "warning".toList, ['-'], "-30".toList, "[red]x[/red] [[/]".toList]] ∧
    rowTexts (bracketingReport.issues.map issueRow) =
      .ok (bracketingReport.issues.map Issue.cells) ∧
    (checking bracketingReport []).output.json = false ∧
    Action.run (showReport ⟨[], "", 80⟩ bracketingReport.render) (checking bracketingReport []) =
      (.ok 3, afterReport (checking bracketingReport []) 80 bracketingReport) := by
  have hpositions : ∀ issue ∈ bracketingReport.issues, issue.PositionsFit := by
    simp only [bracketingReport, List.forall_mem_cons, List.not_mem_nil, false_imp_iff, implies_true,
      and_true]
    exact ⟨⟨by rintro n ⟨⟩; decide, by rintro n ⟨⟩⟩, ⟨by rintro n ⟨⟩, by rintro n ⟨⟩; decide⟩⟩
  have hliteral : ∀ issue ∈ bracketingReport.issues, issue.Literal := by decide +kernel
  obtain ⟨hrows, -, hrun⟩ := showReport_verbatim hliteral ⟨[], "", 80⟩
    (checking bracketingReport []) rfl
  exact ⟨hpositions, hliteral, by decide +kernel, hrows, rfl, hrun hpositions⟩

/-! ## Where more is asked of reports -/

/-- A report whose message rings a bell. -/
def ringingReport : Report :=
  ⟨false, [⟨String.ofList ['a', Char.ofNat 7, 'b'], none, none, .error, "E1"⟩]⟩

/-- A report whose code is a closing tag. -/
def closingReport : Report :=
  ⟨false, [⟨"m", none, none, .error, "[/x]"⟩]⟩

/-- A bell is missing from the row of its issue, and a code that closes what is not open has no row, so
that the run ends with a failure in place of the exit code of the report. -/
theorem showReport_not_verbatim :
    ((∀ issue ∈ ringingReport.issues, issue.PositionsFit ∧ issue.Literal) ∧
      (∀ issue ∈ ringingReport.issues, issue.message.toList = ['a', Char.ofNat 7, 'b']) ∧
      rowTexts (ringingReport.issues.map issueRow) =
        .ok [["E1".toList, "error".toList, ['-'], ['-'], ['a', 'b']]]) ∧
    (∀ issue ∈ closingReport.issues,
      issue.PositionsFit ∧ Verbatim issue.code.toList ∧ Verbatim issue.message.toList) ∧
    ∃ f, rowTexts (closingReport.issues.map issueRow) = .error f ∧
      (Action.run (showReport ⟨[], "", 80⟩ closingReport.render) (checking closingReport [])).1 =
        .error f := by
  have hclosing : ∀ issue ∈ closingReport.issues,
      issue.PositionsFit ∧ Verbatim issue.code.toList ∧ Verbatim issue.message.toList := by
    intro issue hi
    obtain rfl := List.mem_singleton.mp hi
    exact ⟨⟨by rintro n ⟨⟩, by rintro n ⟨⟩⟩, by decide +kernel, by decide +kernel⟩
  refine ⟨⟨?_, ?_, ?_⟩, hclosing, _, rfl, ?_⟩
  · intro issue hi
    obtain rfl := List.mem_singleton.mp hi
    exact ⟨⟨by rintro n ⟨⟩, by rintro n ⟨⟩⟩, by decide +kernel⟩
  · decide +kernel
  · have hcells : ringingReport.issues.map Issue.cells =
        [["E1".toList, "error".toList, ['-'], ['-'], ['a', 'b']]] := by
      decide +kernel
    rw [← hcells]
    exact rowTexts_issues (by decide +kernel)
  · rw [showReport, Action.run_bind, Action.run_ofExcept,
      Report.read_render fun issue hi => (hclosing issue hi).1]
    rfl

end CommandLine
end SqlDialects
