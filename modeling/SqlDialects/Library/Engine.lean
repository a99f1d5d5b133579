import SqlDialects.Diagnostics.Reader
import SqlDialects.Library.Candidates

/-!
# The engine of a library

An engine that has a SQL library do its work.

**Rules.**
* Failures of the library become failures of the engine, of a category that depends on their class
  and on whether something was parsed or rendered. Failures of other classes are passed on.
* Parsing leaves empty statements out; carrying statements from a dialect to another keeps their
  places with empty texts.
* Checking never fails for what the parser reports: that becomes issues.

**Results.**
* `Library.engine` is the engine of a library and a level for unsupported constructs.
-/

namespace SqlDialects
namespace Library

variable {τ ε β : Type}

/-- The classes of failures of parsing that the engine reports as its own. -/
def parseFailures : List ErrorClass :=
  [.library .root, .recursion]

/-- The classes of failures of rendering that the engine reports as its own. -/
def renderFailures : List ErrorClass :=
  [.library .root, .value, .type, .key, .missingAttribute, .recursion]

/-- The classes of failures of loading that mean that data describe no tree. -/
def loadFailures : List ErrorClass :=
  [.library .root, .key, .type, .value, .missingAttribute, .index, .recursion]

/-- How nesting that is too deep is reported. -/
def tooDeepMessage (f : Failure) : String :=
  "SQL is nested too deeply: " ++ f.text

/-- What the engine reports of a failure of the library. -/
def classify (rendering : Bool) (f : Failure) : Failure :=
  if f.isA (.library .token) then .ofEngine .tokenize f.text
  else if f.isA (.library .parse) then .ofEngine .parse f.text
  else if f.isA (.library .unsupported) then .ofEngine .unsupported f.text
  else if f.isA .recursion then
    .ofEngine (if rendering then .generate else .parse) (tooDeepMessage f)
  else .ofEngine (if rendering then .generate else .internal) f.text

/-- Runs a step of the library; failures of some classes become failures of the engine. -/
def reporting (classes : List ErrorClass) (rendering : Bool) (t : Task τ β) : Task τ β := do
  match ← Task.outcome t with
  | .ok b => return b
  | .error f =>
    if f.isAnyOf classes then throw ((classify rendering f).causedBy f) else throw f

/-- All statements of a text, with empty ones. -/
def statements (lib : Library τ ε) (sql : String) (d : Dialect) : Task τ (List (Node ε)) :=
  reporting parseFailures false do
    lib.parse (← lib.choose d) sql false

/-- Leaves empty statements out, one record for each. -/
def skipEmpty : List (Node ε) → Task τ (List (Node ε))
  | [] => return []
  | n :: ns => do
    if n.isEmpty then
      Task.log (.plain logger Log.debug "Empty statement encountered; skipping")
      skipEmpty ns
    else
      let rest ← skipEmpty ns
      return n :: rest

/-- The name of the kind of a node. -/
def nodeKind (lib : Library τ ε) : Node ε → String
  | .tree e => lib.treeKind e
  | .other v => v.kindName

/-- The text of a node. -/
def renderNode (lib : Library τ ε) (level : UnsupportedLevel) (n : Node ε) (d : Dialect)
    (pretty : Bool) : Task τ String :=
  match n with
  | .other v => throw (.ofEngine .generate ("Expected sqlglot Expression, got " ++ v.kindName))
  | .tree e =>
    reporting renderFailures true do
      lib.render e (← lib.choose d) pretty level

/-- The texts of nodes, in order; an empty statement has the empty text. -/
def renderAll (lib : Library τ ε) (level : UnsupportedLevel) (d : Dialect) :
    List (Node ε) → Task τ (List String)
  | [] => return []
  | n :: ns => do
    let s ← if n.isEmpty then pure "" else renderNode lib level n d false
    let ss ← renderAll lib level d ns
    return s :: ss

/-- The issue of an error that a parser noted; an error without a description has the text of
the failure. -/
def issueOf (message : String) (record : Value) : Except Failure Issue :=
  let description :=
    match record.entry? "description" with
    | some v => if v.isTruthy then v else .text message
    | none => .text message
  let part (name : String) : Value := (record.entry? name).getD .null
  match Issue.check .program [] (.dict [(.text "message", description), (.text "line", part "line"),
    (.text "column", part "col"), (.text "code", .text "E001")]) with
  | .ok i => .ok i
  | .error cs => .error (Validation.failure Issue.model cs)

/-- The issues of empty statements, counted from a number on. -/
def emptyIssues : Nat → List (Node ε) → List Issue
  | _, [] => []
  | k, n :: ns =>
    if n.isEmpty then
      ⟨"Statement " ++ toString k ++ " is empty", none, none, .warning, "W001"⟩
        :: emptyIssues (k + 1) ns
    else emptyIssues (k + 1) ns

/-- The issues of a failure to parse, unless it is of another kind. -/
def failureIssues (f : Failure) : Except Failure (List Issue) :=
  if f.isA (.library .token) then .ok [⟨f.text, none, none, .error, "E002"⟩]
  else if f.isA (.library .parse) then
    (if f.records.isEmpty then [.dict []] else f.records).mapM (issueOf f.text)
  else if f.isA .recursion then .ok [⟨tooDeepMessage f, none, none, .error, "E001"⟩]
  else if f.isA (.library .root) then .error ((classify false f).causedBy f)
  else .error f

/-- The report on a text. -/
def check (lib : Library τ ε) (sql : String) (d : Dialect) : Task τ Report := do
  let outcome ← Task.outcome do lib.parse (← lib.choose d) sql true
  match outcome with
  | .ok nodes => return .ofIssues (emptyIssues 1 nodes)
  | .error f =>
    let issues ← Task.ofExcept (failureIssues f)
    return .ofIssues issues

/-- The tree that data describe. -/
def loadTree (lib : Library τ ε) (data : Json) : Task τ (Node ε) := do
  match ← Task.outcome (lib.load data) with
  | .ok (.tree e) => return .tree e
  | .ok (.other v) =>
    throw (.of .payload
      ("payload does not describe a SQL expression (got " ++ v.kindName ++ ")"))
  | .error f =>
    if f.isAnyOf loadFailures then
      throw ((Failure.of .payload (f.cls.label ++ ": " ++ f.text)).causedBy f)
    else throw f

/-- The engine of a library. -/
def engine (lib : Library τ ε) (level : UnsupportedLevel) : Engine τ (Node ε) :=
  { kind := "SqlGlotEngine"
    level := some level
    version := return lib.version
    transpile := fun sql source target => do
      renderAll lib level target (← statements lib sql source)
    parse := fun sql d => do skipEmpty (← statements lib sql d)
    parseOne := fun sql d => reporting parseFailures false do
      lib.parseOne (← lib.choose d) sql
    generate := fun n d pretty => renderNode lib level n d pretty
    validate := fun sql d => check lib sql d
    dump := lib.dump
    load := fun data => loadTree lib data }

/-- The level of a name, in any case. -/
def level? (name : String) : Except Failure UnsupportedLevel :=
  match UnsupportedLevel.names.find? fun n => n.1 == Text.lower name with
  | some n => .ok n.2
  | none => .error (.of .value ("unsupported_level must be one of ['ignore', 'raise', 'warn'], got "
      ++ Text.quoted name))

end Library
end SqlDialects
