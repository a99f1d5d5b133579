import SqlDialects.CommandLine.Arguments
import SqlDialects.CommandLine.Display
import SqlDialects.Session.Host

/-!
# Running a command line

**Input.** The words of a command line, the text on the input and the width of the terminal.

**Rules.**
* Whether results are written as JSON is settled first, then settings are loaded and the log is set up,
  and only then the words of the command are looked at.
* Results go to the output; messages, tables and log lines go to the error stream.
* The exit code is 0 after success, 1 after an error of SQL or of the engine, 2 after an unknown
  dialect, malformed interchange text, invalid settings or misuse, and 3 if a text is found invalid.

**Results.**
* `CommandLine.run` gives exit code, output and error stream, with a failure if one of another
  kind has ended the run. How the log is set up and how results are written stays in the session, for
  whatever runs there next.
-/

namespace SqlDialects
namespace CommandLine

/-- What a command is given. -/
structure Invocation where
  words : List String
  input : String
  width : Nat

/-- What a run leaves behind. -/
structure Outcome where
  exitCode : Nat
  output : String
  errors : String
  /-- The failure that has ended the run, if no exit code says so. -/
  failure : Option Failure

variable {σ α β : Type}

/-! ## Where results and messages go -/

/-- Writes to the error stream. -/
def toTerminal (s : String) : Action σ α Unit :=
  modify fun p => { p with journal := p.journal.write .terminal s }

/-- Shows a message on the error stream. -/
def showMessage (width : Nat) (label : Option String) (message : String) : Action σ α Unit := do
  toTerminal (← Action.ofExcept (printMarkup width (messageMarkup label message)))

/-- Has results written as JSON from now on, or as they are. -/
def writeJson (json : Bool) : Action σ α Unit :=
  modify fun p => { p with output := { p.output with json := json } }

/-- Whether results are written as JSON. -/
def writesJson : Action σ α Bool := do
  return (← get).output.json

/-- Writes to the output. -/
def toOutput (s : String) : Action σ α Unit :=
  modify fun p => { p with output := p.output.append s }

/-! ## Commands -/

/-- The classes of failures that end a run with exit code 2. -/
def usageClasses : List ErrorClass :=
  [.unknownDialect, .boundary, .configuration]

/-- Runs an operation and goes on with its value to an exit code. A failure of one of the bridge's
classes is shown and ends the run. -/
def withOperation (width : Nat) (a : Action σ α β) (go : β → Action σ α Nat) :
    Action σ α Nat := do
  match ← Action.outcome a with
  | .ok b => go b
  | .error f =>
    if f.isAnyOf usageClasses then
      showMessage width none f.text
      return 2
    else if f.isA .bridge then
      showMessage width (some f.cls.label) f.text
      return 1
    else throw f

/-- A text that is given as an argument: a hyphen stands for the input. -/
def givenText (input argument : String) : String :=
  if argument = "-" then String.ofList (Text.universalNewlines input.toList) else argument

/-- The name of a dialect that is given, or of the default dialect. -/
def givenDialect : Option String → Action σ α String
  | some d =>
    if d.isEmpty then return (← Action.loadSettings []).defaultDialect.name else return d
  | none => do return (← Action.loadSettings []).defaultDialect.name

/-- Runs an operation on a text in a dialect. -/
def inDialect (operation : String → String → Action σ α β) (text : String)
    (dialect : Option String) : Action σ α β := do
  operation text (← givenDialect dialect)

/-- Strings as output: one to a line, or as a JSON array. -/
def listOutput (json : Bool) (l : List String) : String :=
  if json then String.ofList (Json.listing l ++ ['\n']) else String.join (l.map (· ++ "\n"))

/-- Writes statements. -/
def writeStatements (l : List String) : Action σ α Nat := do
  toOutput (listOutput (← writesJson) l)
  return 0

/-- Writes a text and a line end. -/
def writeText (s : String) : Action σ α Nat := do
  toOutput (s ++ "\n")
  return 0

/-- Writes the text of a report, or shows what it says. -/
def presentReport (i : Invocation) (payload : String) (r : Report) : Action σ α Unit := do
  if ← writesJson then toOutput (payload ++ "\n")
  else
    toTerminal (printText i.width (verdict r))
    toTerminal (← Action.ofExcept (printIssues i.width r))

/-- Reads a report back and presents it. -/
def showReport (i : Invocation) (payload : String) : Action σ α Nat := do
  let r ← Action.ofExcept (Report.read payload)
  presentReport i payload r
  return if r.valid then 0 else 3

/-- Writes or shows the names of all dialects. -/
def showDialects (i : Invocation) : Action σ α Unit := do
  if ← writesJson then toOutput (listOutput true Dialect.names)
  else
    toTerminal (printDialects i.width Dialect.names)

/-- Runs a command to its exit code. -/
def runCommand (i : Invocation) : Command → Action σ α Nat
  | .transpile sql source target =>
    withOperation i.width (Action.transpile (givenText i.input sql) source target) writeStatements
  | .parse sql d =>
    withOperation i.width (inDialect Action.parse (givenText i.input sql) d) writeText
  | .parseOne sql d =>
    withOperation i.width (inDialect Action.parseOne (givenText i.input sql) d) writeText
  | .generate payload d =>
    withOperation i.width (inDialect Action.generate (givenText i.input payload) d) writeText
  | .format sql d =>
    withOperation i.width (inDialect Action.format (givenText i.input sql) d) writeText
  | .validate sql d =>
    withOperation i.width (inDialect Action.validate (givenText i.input sql) d) (showReport i)
  | .dialects => do
    showDialects i
    return 0
  | .version => do writeText (← Action.engineVersion)

/-! ## Runs -/

/-- Loads settings with the global options that have been read and runs the words of a command. -/
def runNamed (i : Invocation) (g : Globals) (name : String) (words : List String) :
    Action σ α Nat := do
  let overrides : List (String × Value) := if g.verbose then [("debug", .bool true)] else []
  match ← Action.outcome (Action.loadSettings overrides) with
  | .error f =>
    if f.isA .configuration then
      showMessage i.width none f.text
      return 2
    else throw f
  | .ok s =>
    Action.configureLogging s .terminal
    match readCommand name words with
    | .help => return 0
    | .misuse => return 2
    | .ok c => runCommand i c

/-- Runs a command line as a step that may fail. -/
def runWords (i : Invocation) : Action σ α Nat :=
  match readGlobals i.words with
  | .help => return 0
  | .misuse => return 2
  | .ok (g, name, words) => do
    writeJson g.json
    runNamed i g name words

/-- Begins a run: nothing has been written or shown yet. -/
def beginRun : Action σ α Unit :=
  modify fun p =>
    { p with
      output := { p.output with written := "" }
      journal := { p.journal with terminal := "" } }

/-- Runs a command line. -/
def run (i : Invocation) : Action σ α Outcome := do
  beginRun
  let ending ← Action.outcome (runWords i)
  let p ← get
  match ending with
  | .ok code => return ⟨code, p.output.written, p.journal.terminal, none⟩
  | .error f => return ⟨1, p.output.written, p.journal.terminal, some f⟩

end CommandLine
end SqlDialects
