import SqlDialects.Diagnostics.Basic
import SqlDialects.Validation.Field
import SqlDialects.Validation.StrictJson

/-!
# Reading diagnostics

**Input.** JSON text, or a value that has been read.

**Rules.** A report needs `valid`; its issues need `message`. All other fields have defaults, and
fields that no model knows are ignored.

**Results.**
* `Issue.check` and `Report.check` give the value or every complaint about the input.
* `Report.read` and `Issue.read` start from text.
-/

namespace SqlDialects

open Validation

/-- The name of the model of issues. -/
def Issue.model : String :=
  "ValidationIssue"

/-- The name of the model of reports. -/
def Report.model : String :=
  "ValidationResult"

/-- The issue that a value describes. -/
def Issue.check (origin : Origin) (place : List String) (v : Value) : Checked Issue :=
  match v with
  | .dict _ =>
    let message := field place v "message" none asString
    let line := field place v "line" (some none) (asOptional asInt)
    let column := field place v "column" (some none) (asOptional asInt)
    let severity := field place v "severity" (some .error) (asOneOf Severity.names)
    let code := field place v "code" (some "E001") asString
    (both message (both line (both column (both severity code)))).map
      fun (message, line, column, severity, code) => ⟨message, line, column, severity, code⟩
  | v => .error [⟨place, .notModel origin model, v⟩]

/-- The issues that the items of a list describe, from a position on. -/
def Issue.checkAll (origin : Origin) (place : List String) :
    Nat → List Value → Checked (List Issue)
  | _, [] => .ok []
  | n, v :: vs =>
    (both (Issue.check origin (place ++ [toString n]) v)
      (Issue.checkAll origin place (n + 1) vs)).map
      fun (i, is) => i :: is

/-- The issues of a report. -/
def Report.checkIssues (origin : Origin) (v : Value) : Checked (List Issue) :=
  match v.entry? "errors" with
  | none => .ok []
  | some v =>
    match itemsOf? v with
    | some items => Issue.checkAll origin ["errors"] 0 items
    | none => .error [⟨["errors"], .notList origin, v⟩]

/-- The report that a value describes. -/
def Report.check (origin : Origin) (v : Value) : Checked Report :=
  match v with
  | .dict _ =>
    (both (field [] v "valid" none asBool) (Report.checkIssues origin v)).map
      fun (valid, issues) => ⟨valid, issues⟩
  | v => .error [⟨[], .notModel origin model, v⟩]

/-- Reads a model from JSON text. -/
def Validation.readModel {α : Type} (model : String) (check : Value → Checked α)
    (text : String) : Except Failure α :=
  match StrictJson.read text with
  | .error reason => .error (failure model [⟨[], .invalidJson reason, .text text⟩])
  | .ok j =>
    match check (.ofJson j) with
    | .ok a => .ok a
    | .error cs => .error (failure model cs)

/-- Reads a report from JSON text. -/
def Report.read (text : String) : Except Failure Report :=
  readModel model (Report.check .text) text

/-- Reads an issue from JSON text. -/
def Issue.read (text : String) : Except Failure Issue :=
  readModel model (Issue.check .text []) text

end SqlDialects
