import SqlDialects.Decimal.Notation

/-!
# Levels of log records

Levels are integers; six of them have names, and two of those a second name.
-/

namespace SqlDialects
namespace Log

/-- The level of a record: the larger, the more urgent. -/
abbrev Level := Int

/-- The level of records that tell what is going on in detail. -/
def debug : Level := 10

/-- The level of records that tell what has been done. -/
def info : Level := 20

/-- The level of records of something unexpected. -/
def warning : Level := 30

/-- The name of a level. -/
def levelName (l : Level) : String :=
  if l = 0 then "NOTSET"
  else if l = 10 then "DEBUG"
  else if l = 20 then "INFO"
  else if l = 30 then "WARNING"
  else if l = 40 then "ERROR"
  else if l = 50 then "CRITICAL"
  else "Level " ++ Decimal.intText l

/-- The names of levels, in capitals. -/
def levelNames : List (String × Level) :=
  [("CRITICAL", 50), ("FATAL", 50), ("ERROR", 40), ("WARNING", 30), ("WARN", 30), ("INFO", 20),
    ("DEBUG", 10), ("NOTSET", 0)]

/-- The level of a name. -/
def level? (name : String) : Option Level :=
  (levelNames.find? fun e => e.1 == name).map (·.2)

end Log
end SqlDialects
