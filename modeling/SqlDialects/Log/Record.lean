import SqlDialects.Log.Level
import SqlDialects.Log.Template
import SqlDialects.Log.Timestamp
import SqlDialects.Value.Encoding

/-!
# Log records

**Input.** A record and the time at which it was made.

**Layouts.**
* `Record.jsonLine` is one line of JSON: timestamp, level, logger and message, then the operation
  if the record carries a true one, then the failure if it carries one.
* `Record.textLine` is a line for people; a failure adds its text on the lines that follow.
-/

namespace SqlDialects
namespace Log

/-- What a record says of a failure. -/
inductive Incident where
  /-- Nothing. -/
  | none
  /-- That the failure at hand was to be reported, and that there was none. -/
  | missing
  /-- A failure. -/
  | failure (f : Failure)
deriving Inhabited

/-- What is logged. -/
structure Record where
  logger : String
  level : Level
  template : String
  arguments : List Value
  operation : Value
  incident : Incident
  /-- The level as it is shown. -/
  levelLabel : String := levelName level
deriving Inhabited

namespace Record

/-- A record whose message is given as it is. -/
def plain (logger : String) (level : Level) (message : String) : Record :=
  { logger := logger
    level := level
    template := message
    arguments := []
    operation := .null
    incident := .none }

/-- The record with the name of an operation. -/
def withOperation (r : Record) (operation : String) : Record :=
  { r with operation := .text operation }

/-- The message. -/
def message (r : Record) : Except Failure String :=
  Template.fill r.template r.arguments

end Record

/-- The class and text of a failure on a line. -/
def failureLine (cls : ErrorClass) (text : String) : String :=
  (if text.isEmpty then cls.qualifiedLabel else cls.qualifiedLabel ++ ": " ++ text) ++ "\n"

/-- What stands between the report of a cause and that of its effect. -/
def causeSeparator : String :=
  "\nThe above exception was the direct cause of the following exception:\n\n"

/-- The report of a failure: that of its cause first, if it has one. -/
def report (f : Failure) : String :=
  match f with
  | ⟨cls, argument, worded, kind, records, none⟩ =>
    failureLine cls (Failure.text ⟨cls, argument, worded, kind, records, none⟩)
  | ⟨cls, argument, worded, kind, records, some cause⟩ =>
    report cause ++ causeSeparator
      ++ failureLine cls (Failure.text ⟨cls, argument, worded, kind, records, none⟩)

namespace Record

/-- The members of the JSON object of a record. -/
def members (r : Record) (timestamp message : String) : List (Value × Value) :=
  [(.text "timestamp", .text timestamp), (.text "level", .text r.levelLabel),
    (.text "logger", .text r.logger), (.text "message", .text message)]
    ++ (if r.operation.isTruthy then [(.text "operation", r.operation)] else [])
    ++ (match r.incident with
      | .failure f => [(.text "exc_info", .text (report f))]
      | _ => [])

/-- The record as one line of JSON, without the line end. -/
def jsonLine (r : Record) (created : Value) : Except Failure String := do
  let instant ← Instant.ofSeconds created
  let timestamp ← instant.isoText?
  let message ← r.message
  match Value.toJsonShowing (.dict (r.members timestamp message)) with
  | .ok j => .ok (Json.render Json.plain j)
  | .error e => .error (e.failure)

/-- The record as text, without the line end. -/
def textLine (r : Record) (created : Value) : Except Failure String := do
  let message ← r.message
  let time ← lineTime created
  let line := time ++ " " ++ r.levelLabel ++ " " ++ r.logger ++ ": " ++ message
  let above := if line.endsWith "\n" then line else line ++ "\n"
  match r.incident with
  | .none => .ok line
  | .missing => .ok (above ++ "NoneType: None")
  | .failure f =>
    let text := (report f).toList
    let text := if text.getLast? = some '\n' then text.dropLast else text
    .ok (above ++ String.ofList text)

end Record
end Log
end SqlDialects
