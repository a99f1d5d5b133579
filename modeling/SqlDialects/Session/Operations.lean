import SqlDialects.Dialect.Table
import SqlDialects.Session.Payload

/-!
# Operations

What the bridge does with texts: it carries SQL from a dialect to another, parses, renders, lays
out and checks.

**Rules.**
* Dialect names are resolved first; a name that stands for no dialect fails before the engine is
  asked for.
* A failure that the engine reports becomes the failure of the registered class, with the same
  text and the engine's failure as its cause.

**Results.**
* `Action.transpile`, `Action.parse`, `Action.parseOne`, `Action.generate`, `Action.format` and
  `Action.validate`; the last gives the report as JSON text.
-/

namespace SqlDialects
namespace Action

variable {σ α β : Type}

/-- What stands between the statements of a laid out text. -/
def statementSeparator : String :=
  "; \n"

/-- The logger of the operations. -/
def operationsLogger : String :=
  "polyglot_bridge.dispatcher"

/-- The dialect that a name stands for. -/
def resolve (name : String) : Action σ α Dialect :=
  match Dialect.resolve? name with
  | some d => return d
  | none => throw (.unknownDialect name)

/-- Runs the part of an operation that asks the engine; what the engine reports is translated. -/
def translating (operation : String) (a : Action σ α β) : Action σ α β := do
  match ← outcome a with
  | .ok b => return b
  | .error e =>
    if e.cls = .engine then
      let kind := e.kind.getD .internal
      log ((Log.Record.plain operationsLogger Log.debug
        (operation ++ " failed (" ++ kind.label ++ "): " ++ e.argument)).withOperation operation)
      throw ((← translated kind e.argument).causedBy e)
    else throw e

/-- Carries statements from a dialect to another. -/
def transpile (sql source target : String) : Action σ α (List String) := do
  let source ← resolve source
  let target ← resolve target
  log ((Log.Record.plain operationsLogger Log.debug
    ("transpile " ++ source.name ++ " -> " ++ target.name)).withOperation "transpile")
  translating "transpile" do
    let e ← engine
    engineTask (e.transpile sql source target)

/-- The payload of all statements of a text. -/
def parse (sql dialect : String) : Action σ α String := do
  let d ← resolve dialect
  let e ← engine
  let trees ← translating "parse" (engineTask (e.parse sql d))
  toPayloadMany e trees

/-- The payload of a single statement. -/
def parseOne (sql dialect : String) : Action σ α String := do
  let d ← resolve dialect
  let e ← engine
  let tree ← translating "parse_one" (engineTask (e.parseOne sql d))
  toPayload e tree

/-- The text of the tree that a payload describes. -/
def generate (payload dialect : String) : Action σ α String := do
  let d ← resolve dialect
  let e ← engine
  let tree ← fromPayload e payload
  translating "generate" (engineTask (e.generate tree d false))

/-- The laid out texts of trees, in order. -/
def generateAll (e : Engine σ α) (d : Dialect) : List α → Action σ α (List String)
  | [] => return []
  | t :: ts => do
    let s ← engineTask (e.generate t d true)
    let ss ← generateAll e d ts
    return s :: ss

/-- All statements of a text, laid out. -/
def format (sql dialect : String) : Action σ α String := do
  let d ← resolve dialect
  let e ← engine
  let texts ← translating "format" do
    let trees ← engineTask (e.parse sql d)
    generateAll e d trees
  return statementSeparator.intercalate texts

/-- The report on a text. -/
def validate (sql dialect : String) : Action σ α String := do
  let d ← resolve dialect
  let report ← translating "validate" do
    let e ← engine
    engineTask (e.validate sql d)
  return report.render

end Action
end SqlDialects
