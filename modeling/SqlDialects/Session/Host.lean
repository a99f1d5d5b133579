import SqlDialects.Diagnostics.Reader
import SqlDialects.Session.Operations

/-!
# Host operations

The operations as hosts call them: a dialect may be left out or given as a dialect, syntax trees
are values, and reports are reports.

**Rules.**
* A dialect that is left out is the default dialect of the settings in use.
* A tree that is a text is a payload; any other is written as ASCII JSON before the dialect is
  looked at.

**Results.**
* `Action.hostTranspile`, `Action.hostParse`, `Action.hostParseOne`, `Action.hostGenerate`,
  `Action.hostFormat` and `Action.hostValidate`.
-/

namespace SqlDialects

/-- How a host names a dialect. -/
inductive DialectChoice where
  | unspecified
  | member (d : Dialect)
  | name (s : String)
deriving DecidableEq, Repr

namespace Action

variable {σ α : Type}

/-- The name of the dialect that a host asks for. -/
def chosenName : DialectChoice → Action σ α String
  | .unspecified => do return (← settings).defaultDialect.name
  | .member d => return d.name
  | .name s => return s

/-- Reads JSON text as a value. -/
def decode (text : String) : Action σ α Value :=
  ofExcept (match Json.read text with
    | .ok j => .ok (.ofJson j)
    | .error fault => .error (fault.failure text.toList))

/-- Carries statements from a dialect to another. -/
def hostTranspile (sql : String) (source target : DialectChoice) : Action σ α (List String) := do
  let source ← chosenName source
  let target ← chosenName target
  transpile sql source target

/-- The trees of all statements of a text. -/
def hostParse (sql : String) (dialect : DialectChoice) : Action σ α Value := do
  decode (← parse sql (← chosenName dialect))

/-- The tree of a single statement. -/
def hostParseOne (sql : String) (dialect : DialectChoice) : Action σ α Value := do
  decode (← parseOne sql (← chosenName dialect))

/-- The payload of a tree as a host gives it. -/
def hostPayload (tree : Value) : Action σ α String :=
  match tree.text? with
  | some s => return s
  | none => ofExcept ((Value.encode Json.ascii tree).mapError Value.EncodeFault.failure)

/-- The text of a tree. -/
def hostGenerate (tree : Value) (dialect : DialectChoice) : Action σ α String := do
  let payload ← hostPayload tree
  generate payload (← chosenName dialect)

/-- All statements of a text, laid out. -/
def hostFormat (sql : String) (dialect : DialectChoice) : Action σ α String := do
  format sql (← chosenName dialect)

/-- The report on a text. -/
def hostValidate (sql : String) (dialect : DialectChoice) : Action σ α Report := do
  ofExcept (Report.read (← validate sql (← chosenName dialect)))

end Action
end SqlDialects
