import SqlDialects.Dialect.Basic
import SqlDialects.Log.Level

/-!
# Settings

What can be set about the bridge, with its defaults.
-/

namespace SqlDialects

/-- What a renderer does with a construct that the target dialect cannot express. -/
inductive UnsupportedLevel where
  | ignore
  | warn
  | refuse
deriving DecidableEq, Repr, Inhabited

namespace UnsupportedLevel

/-- The name of a level. -/
def label : UnsupportedLevel → String
  | .ignore => "ignore"
  | .warn => "warn"
  | .refuse => "raise"

/-- Every level with its name. -/
def names : List (String × UnsupportedLevel) :=
  [(ignore.label, .ignore), (warn.label, .warn), (refuse.label, .refuse)]

/-- The name of a level in capitals. -/
def capitals : UnsupportedLevel → String
  | .ignore => "IGNORE"
  | .warn => "WARN"
  | .refuse => "RAISE"

/-- The level of a name in capitals. -/
def ofCapitals? (s : String) : Option UnsupportedLevel :=
  [ignore, warn, refuse].find? fun l => l.capitals == s

end UnsupportedLevel

/-- The settings. -/
structure Settings where
  debug : Bool
  /-- The name of a log level, in capitals. -/
  logLevel : String
  structuredLogging : Bool
  defaultDialect : Dialect
  unsupportedLevel : UnsupportedLevel
deriving DecidableEq, Repr, Inhabited

namespace Settings

/-- The settings that hold when nothing is set. -/
def standard : Settings :=
  ⟨false, "WARNING", false, .generic, .refuse⟩

/-- The names of the fields, in order. -/
def fieldNames : List String :=
  ["debug", "log_level", "structured_logging", "default_dialect", "unsupported_level"]

/-- The level of the package's logger. -/
def level (s : Settings) : Log.Level :=
  if s.debug then Log.debug else (Log.level? s.logLevel).getD 0

end Settings
end SqlDialects
