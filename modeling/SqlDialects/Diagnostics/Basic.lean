import SqlDialects.Json.Printer

/-!
# Diagnostics

The report that checking a text of SQL gives: whether the text is valid, and the issues found in
it.

**Results.**
* `Report.render` is the compact JSON text of a report.
-/

namespace SqlDialects

/-- How grave an issue is. -/
inductive Severity where
  | error
  | warning
deriving DecidableEq, Repr, Inhabited

/-- The name of a severity. -/
def Severity.label : Severity → String
  | .error => "error"
  | .warning => "warning"

/-- Every severity with its name. -/
def Severity.names : List (String × Severity) :=
  [(Severity.error.label, .error), (Severity.warning.label, .warning)]

/-- One finding about a text of SQL. -/
structure Issue where
  message : String
  line : Option Int
  column : Option Int
  severity : Severity
  code : String
deriving DecidableEq, Repr, Inhabited

namespace Issue

/-- Whether the issue makes the text invalid. -/
def isError (i : Issue) : Bool :=
  i.severity = .error

/-- Whether the issue is a warning. -/
def isWarning (i : Issue) : Bool :=
  i.severity = .warning

/-- An optional integer as JSON. -/
def positionJson : Option Int → Json
  | none => .null
  | some n => .int n

/-- The issue as JSON. -/
def toJson (i : Issue) : Json :=
  .object [("message", .text i.message), ("line", positionJson i.line),
    ("column", positionJson i.column), ("severity", .text i.severity.label),
    ("code", .text i.code)]

/-- The issue as text for programmers. -/
def inspect (i : Issue) : String :=
  "<ValidationIssue " ++ i.severity.label ++ ": " ++ i.message ++ ">"

end Issue

/-- The outcome of checking a text of SQL. -/
structure Report where
  valid : Bool
  issues : List Issue
deriving DecidableEq, Repr, Inhabited

namespace Report

/-- The report of issues: the text is valid if none of them is an error. -/
def ofIssues (issues : List Issue) : Report :=
  ⟨!issues.any Issue.isError, issues⟩

/-- The report as JSON. -/
def toJson (r : Report) : Json :=
  .object [("valid", .bool r.valid), ("errors", .array (r.issues.map Issue.toJson))]

/-- The compact text of the report. -/
def render (r : Report) : String :=
  Json.render Json.compact r.toJson

/-- The report as text for programmers. -/
def inspect (r : Report) : String :=
  "<ValidationResult valid=" ++ (if r.valid then "True" else "False") ++ " errors="
    ++ toString r.issues.length ++ ">"

end Report
end SqlDialects
