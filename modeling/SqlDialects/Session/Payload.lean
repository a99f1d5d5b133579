import SqlDialects.Session.Basic

/-!
# Interchange payloads

Syntax trees as JSON text: what an engine dumps is written, and what is read is handed to the
engine to load. Nothing here looks into the data.

**Rules.**
* Whatever cannot be written or read is reported as malformed interchange text, never as bad SQL.
* Several trees are dumped in order before anything is written.

**Results.**
* `Action.toPayload`, `Action.toPayloadMany` and `Action.fromPayload`.
-/

namespace SqlDialects
namespace Action

variable {σ α β : Type}

/-- The classes of failures that mean that something has no JSON form, or is none. -/
def conversionClasses : List ErrorClass :=
  [.type, .value, .recursion]

/-- Fails with the report of malformed interchange text, for a cause. -/
def failMalformed (what : String) (cause : Failure) : Action σ α β := do
  let f ← malformed (what ++ cause.text)
  throw (f.causedBy cause)

/-- How a report begins when something cannot be written. -/
def serializationError : String :=
  "JSON serialization error: "

/-- How a report begins when something cannot be read. -/
def deserializationError : String :=
  "JSON deserialization error: "

/-- The text of a value. -/
def encode (v : Value) : Action σ α String :=
  ofExcept ((Value.encode Json.plain v).mapError Value.EncodeFault.failure)

/-- Runs a step of writing; a failure that means that something has no JSON form is reported as
malformed interchange text. -/
def writing (a : Action σ α β) : Action σ α β := do
  match ← outcome a with
  | .ok b => return b
  | .error e => if e.isAnyOf conversionClasses then failMalformed serializationError e else throw e

/-- What an engine dumps of trees, in order. -/
def dumpAll (e : Engine σ α) : List α → Action σ α (List Value)
  | [] => return []
  | t :: ts => do
    let v ← engineTask (e.dump t)
    let vs ← dumpAll e ts
    return v :: vs

/-- The payload of a tree. -/
def toPayload (e : Engine σ α) (tree : α) : Action σ α String :=
  writing do encode (← engineTask (e.dump tree))

/-- The payload of several trees: an array. -/
def toPayloadMany (e : Engine σ α) (trees : List α) : Action σ α String :=
  writing do encode (.list (← dumpAll e trees))

/-- The tree that a payload describes. -/
def fromPayload (e : Engine σ α) (payload : String) : Action σ α α := do
  match Json.read payload with
  | .error fault => failMalformed deserializationError (fault.failure payload.toList)
  | .ok data =>
    match ← outcome (engineTask (e.load data)) with
    | .ok tree => return tree
    | .error f =>
      if f.isA .payload then
        log (.plain "polyglot_bridge.serialization" Log.debug
          ("Payload rejected by engine: " ++ f.text))
        failMalformed deserializationError f
      else throw f

end Action
end SqlDialects
