import SqlDialects.Dialect.Table
import SqlDialects.Log.Record
import SqlDialects.Settings.Basic
import SqlDialects.Settings.Dotenv
import SqlDialects.Validation.Field

/-!
# Loading settings

**Input.** Overrides given by a caller, the variables of the environment and an environment file.

**Rules.**
* A field is taken from the first of overrides, environment and file that defines it, else its
  default holds. Variables carry a common beginning, and their case does not matter.
* Overrides whose names begin with an underscore may change how variables are found.
* Overrides and variables of the file that name no field are refused; variables of the environment
  that name none are ignored.

**Results.**
* `Settings.check` gives the settings or all complaints: fields in order, then what names no field.
* `Settings.load` gives the settings or the failure that callers see.
-/

namespace SqlDialects
namespace Settings

open Validation

/-- How the variables of fields are found. -/
structure Search where
  /-- How their names begin. -/
  head : String
  /-- Whether the case of their names matters. -/
  caseSensitive : Bool
  /-- Whether variables with an empty value are left out. -/
  skipEmpty : Bool
  /-- Whether the environment file is read. -/
  withFile : Bool
  /-- The text of a variable that stands for no value, if there is one. -/
  noValue : Option String
  /-- Whether variables may give a level by its name in capitals. -/
  capitals : Bool
deriving DecidableEq, Repr

namespace Search

/-- The search that nothing changes. -/
def standard : Search :=
  ⟨"POLYGLOT_", false, false, true, none, false⟩

/-- The name of the environment file. -/
def fileName : String :=
  ".env"

/-- A name as it is compared. -/
def form (s : Search) (name : String) : String :=
  if s.caseSensitive then name else Text.lower name

/-- The name of the variable of a field, as it is compared. -/
def variableOf (s : Search) (field : String) : String :=
  s.form (s.head ++ field)

/-- Overrides that concern how sources are read and are not kept apart further. Some of them have
settings read from elsewhere too, from the arguments of the process or from files of secrets, which
are not among the sources here. -/
def silentNames : List String :=
  ["_nested_model_default_partial_update", "_env_prefix_target", "_env_file_encoding",
    "_env_nested_delimiter", "_env_nested_max_split", "_cli_prog_name", "_cli_parse_args", "_cli_settings_source", "_cli_parse_none_str",
    "_cli_hide_none_type", "_cli_avoid_json", "_cli_enforce_required",
    "_cli_use_class_docs_for_groups", "_cli_exit_on_error", "_cli_prefix",
    "_cli_flag_prefix_char", "_cli_implicit_flags", "_cli_ignore_unknown_args",
    "_cli_kebab_case", "_cli_shortcuts", "_secrets_dir"]

/-- Whether a path leads to the environment file: it has no parts but the name of the file. -/
def isFilePath (path : String) : Bool :=
  !path.startsWith "/"
    && ((path.splitOn "/").filter fun part => !part.isEmpty && part != ".") == [fileName]

/-- Whether an override names the environment file, alone or in a list. -/
def namesFile (value : Value) : Bool :=
  match value with
  | .text path => isFilePath path
  | .list vs => vs.any fun v => v.text?.any isFilePath
  | _ => false

/-- The search that an override changes, if the override concerns the search. -/
def adjust? (s : Search) (name : String) (value : Value) : Option Search :=
  if name = "_env_prefix" then
    some (match value.text? with | some head => { s with head := head } | none => s)
  else if name = "_case_sensitive" then
    some (match value with | .null => s | v => { s with caseSensitive := v.isTruthy })
  else if name = "_env_ignore_empty" then
    some (match value with | .null => s | v => { s with skipEmpty := v.isTruthy })
  else if name = "_env_file" then some { s with withFile := namesFile value }
  else if name = "_env_parse_none_str" then some { s with noValue := value.text? }
  else if name = "_env_parse_enums" then
    some (match value with | .null => s | v => { s with capitals := v.isTruthy })
  else if silentNames.contains name then some s
  else none

end Search

/-- Where settings come from. -/
structure Sources where
  overrides : List (String × Value)
  environment : List (String × String)
  file : Option String

namespace Sources

/-- How the variables of fields are found. -/
def search (s : Sources) : Search :=
  s.overrides.foldl (fun acc o => (acc.adjust? o.1 o.2).getD acc) .standard

/-- The overrides that do not concern the search. -/
def values (s : Sources) : List (String × Value) :=
  s.overrides.filter fun o => (Search.standard.adjust? o.1 o.2).isNone

/-- The bindings of the file, with names as they are compared, each name once. -/
def fileBindings (s : Sources) : List (String × Option String) :=
  match s.file with
  | none => []
  | some text =>
    if s.search.withFile then
      ((Dotenv.bindings s.environment text).filter fun b =>
          !(s.search.skipEmpty && b.2 = some "")).foldl
        (fun acc b => Dotenv.assign (s.search.form b.1) b.2 acc) []
    else []

/-- The value of a variable of the environment; of several that are compared as equal the last
counts. -/
def environment? (s : Sources) (name : String) : Option String :=
  (s.environment.reverse.find? fun b =>
    s.search.form b.1 == name && !(s.search.skipEmpty && b.2.isEmpty)).map (·.2)

/-- The value of the text of a variable of a field. -/
def valueOf (s : Sources) (field text : String) : Value :=
  if s.search.noValue == some text then .null
  else if s.search.capitals && field == "unsupported_level" then
    .text (((UnsupportedLevel.ofCapitals? text).map UnsupportedLevel.label).getD text)
  else .text text

/-- The value that defines a field. -/
def value? (s : Sources) (name : String) : Option Value :=
  match s.values.find? fun o => Text.lower o.1 == name with
  | some o => some o.2
  | none =>
    match s.environment? (s.search.variableOf name) with
    | some v => some (s.valueOf name v)
    | none =>
      match s.fileBindings.find? fun b => b.1 == s.search.variableOf name with
      | some (_, some v) => some (s.valueOf name v)
      | _ => none

/-- Whether a variable of the file sets a field or is left out for another reason: it is empty or
has the bare name of a field. -/
def isHandled (s : Sources) (name : String) (value : Option String) : Bool :=
  (value.getD "").isEmpty || (!s.search.head.isEmpty && fieldNames.contains name)
    || fieldNames.any fun f => name == s.search.variableOf f

/-- What names no field: variables of the file, then overrides. An override takes the place of a
variable of its name. -/
def extras (s : Sources) : List (String × Value) :=
  let fromFile := s.fileBindings.filterMap fun (name, value) =>
    if s.isHandled name value then none else some (name, .text (value.getD ""))
  (s.values.filter fun o => !fieldNames.contains (Text.lower o.1)).foldl
    (fun acc o => Json.setMember o.1 o.2 acc) fromFile

end Sources

/-- A value as the name of a log level, in capitals. -/
def asLogLevel (v : Value) : Except Problem String := do
  let s ← asString v
  let level := Text.upper s
  if (Log.level? level).isSome then .ok level
  else .error (.refused ("unknown log level: " ++ Text.quoted s))

/-- A value as a dialect. -/
def asDialect (v : Value) : Except Problem Dialect := do
  let s ← asString v
  match Dialect.resolve? s with
  | some d => .ok d
  | none => .error (.refused (Failure.unknownDialect s).text)

/-- A field: its default if no source defines it. -/
def setting {α : Type} (s : Sources) (name : String) (fallback : α)
    (read : Value → Except Problem α) : Checked α :=
  match s.value? name with
  | none => .ok fallback
  | some v =>
    match read v with
    | .ok a => .ok a
    | .error p => .error [⟨[name], p, v⟩]

/-- The settings that sources define. -/
def check (s : Sources) : Checked Settings :=
  let fields :=
    both (setting s "debug" standard.debug asBool)
      (both (setting s "log_level" standard.logLevel asLogLevel)
        (both (setting s "structured_logging" standard.structuredLogging asBool)
          (both (setting s "default_dialect" standard.defaultDialect asDialect)
            (setting s "unsupported_level" standard.unsupportedLevel
              (asOneOf UnsupportedLevel.names)))))
  let extras : Checked Unit :=
    match s.extras with
    | [] => .ok ()
    | es => .error (es.map fun (name, v) => ⟨[name], .extra, v⟩)
  (both fields extras).map fun ((debug, logLevel, structured, dialect, unsupported), _) =>
    ⟨debug, logLevel, structured, dialect, unsupported⟩

/-- The settings that sources define, or the failure that callers see. -/
def load (s : Sources) : Except Failure Settings :=
  match check s with
  | .ok settings => .ok settings
  | .error cs =>
    let cause := Validation.failure "Settings" cs
    .error ((Failure.of .configuration ("invalid polyglot settings: " ++ cause.text)).causedBy
      cause)

/-- What is logged when settings have been loaded: a record if debugging is on. -/
def loadingRecords (s : Settings) : List Log.Record :=
  if s.debug then
    [.plain "polyglot_bridge.config" Log.info
      ("Loaded settings (default dialect: " ++ s.defaultDialect.name ++ ")")]
  else []

end Settings
end SqlDialects
