import SqlDialects.CommandLine.Run
import SqlDialects.Library.Engine
import SqlDialects.Sql.Library

/-!
# The program

Runs a command line on the SQL engine of this library, with the settings of the session's
environment and of the file `.env`.
-/

namespace SqlDialects

/-- The variables of the environment that set something. -/
def readEnvironment : IO (List (String × String)) := do
  let mut found : List (String × String) := []
  for field in Settings.fieldNames do
    let name := Text.upper (Settings.Search.standard.head ++ field)
    match ← IO.getEnv name with
    | some v => found := found ++ [(name, v)]
    | none => pure ()
  return found

/-- The environment file, if there is one. -/
def readFile : IO (Option String) := do
  try
    let s ← IO.FS.readFile ".env"
    return some s
  catch _ => return none

/-- The engine that serves by default. -/
def standardEngine : StandardEngine Unit (Node Sql.Tree) :=
  ⟨Sql.version, fun level => Sql.library.engine level⟩

/-- The columns of the terminal. -/
def readWidth : IO Nat := do
  return ((← IO.getEnv "COLUMNS").bind String.toNat?).getD 80

end SqlDialects

open SqlDialects in
/-- Runs the command line and gives its exit code. -/
def main (args : List String) : IO UInt32 := do
  let environment ← readEnvironment
  let file ← readFile
  let width ← readWidth
  let input ← if args.contains "-" then (← IO.getStdin).readToEnd else pure ""
  let start : Session Unit (Node Sql.Tree) :=
    { Session.start standardEngine () (.int 0) with environment := environment, file := file }
  let (outcome, _) := Action.run (CommandLine.run ⟨args, input, width⟩) start
  match outcome with
  | .ok o =>
    (← IO.getStdout).putStr o.output
    (← IO.getStderr).putStr o.errors
    match o.failure with
    | some f => (← IO.getStderr).putStr (Log.report f)
    | none => pure ()
    return UInt32.ofNat o.exitCode
  | .error f =>
    (← IO.getStderr).putStr (Log.report f)
    return 1
