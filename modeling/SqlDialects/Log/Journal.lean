import SqlDialects.Log.Record

/-!
# The journal

Where records go: the handlers of the package's logger, its level, and what has been written.

**Rules.**
* Only loggers of the package write.
* A record is written by every handler if its level is at least that of the package's logger; a
  logger without a level of its own has the level of warnings.
-/

namespace SqlDialects
namespace Log

/-- How a handler lays a record out. -/
inductive Layout where
  | text
  | json
deriving DecidableEq, Repr

/-- What a handler writes to. -/
inductive Sink where
  /-- The text that is kept for whoever asks for the log. -/
  | capture
  /-- The error stream of a running command. -/
  | terminal
deriving DecidableEq, Repr

/-- A handler of the package's logger. -/
structure Handler where
  layout : Layout
  sink : Sink
deriving DecidableEq, Repr

/-- The state of the log. -/
structure Journal where
  handlers : List Handler
  level : Level
  /-- The time, in seconds since the start of 1970. -/
  now : Value
  captured : String
  terminal : String
deriving Inhabited

/-- The name of the package's logger. -/
def packageLogger : String :=
  "polyglot_bridge"

/-- Whether a logger belongs to the package. -/
def inPackage (logger : String) : Bool :=
  logger == packageLogger || logger.startsWith (packageLogger ++ ".")

namespace Journal

/-- A log that nobody has set up. -/
def start (now : Value) : Journal :=
  ⟨[], 0, now, "", ""⟩

/-- The least level that is written. -/
def threshold (j : Journal) : Level :=
  if j.level = 0 then warning else j.level

/-- Adds text to what a sink has received. -/
def write (j : Journal) (sink : Sink) (s : String) : Journal :=
  match sink with
  | .capture => { j with captured := j.captured ++ s }
  | .terminal => { j with terminal := j.terminal ++ s }

/-- The line of a record in a layout. -/
def line (now : Value) (r : Record) : Layout → Except Failure String
  | .text => r.textLine now
  | .json => r.jsonLine now

/-- Lets one handler write a record; a record that has no line is dropped. -/
def handle (r : Record) (j : Journal) (h : Handler) : Journal :=
  match line j.now r h.layout with
  | .ok s => j.write h.sink (s ++ "\n")
  | .error _ => j

/-- Logs a record. -/
def log (j : Journal) (r : Record) : Journal :=
  if inPackage r.logger && decide (j.threshold ≤ r.level) then j.handlers.foldl (handle r) j
  else j

/-- Logs records in order. -/
def logAll (j : Journal) (rs : List Record) : Journal :=
  rs.foldl log j

/-- Replaces all handlers by one and sets the level. -/
def configure (j : Journal) (layout : Layout) (sink : Sink) (level : Level) : Journal :=
  { j with handlers := [⟨layout, sink⟩], level := level }

end Journal
end Log
end SqlDialects
