/-!
# Command lines

**Input.** The words of a command line.

**Grammar.** Global options, the name of a command, then options and arguments of the command in
any order. A long option may carry its value after an equals sign, a short one right after its
letter; short options without values may be joined. After `--` everything is an argument, and so
is a lone hyphen. Of several values of an option the last one counts.

**Results.**
* `readGlobals` reads up to the name of the command, and `readCommand` reads what follows it.
  Either may find a request for help or a misuse instead.
-/

namespace SqlDialects
namespace CommandLine

/-- The meanings of options. -/
inductive Key where
  | json
  | noJson
  | verbose
  | source
  | target
  | dialect
  | help
deriving DecidableEq, Repr

/-- An option: its spellings, and whether a value belongs to it. -/
structure OptionForm where
  key : Key
  long : List Char
  short : Option Char
  takesValue : Bool

/-- The option that asks for help. -/
def helpForm : OptionForm :=
  ⟨.help, ['-', '-', 'h', 'e', 'l', 'p'], none, false⟩

/-- The global options. -/
def globalForms : List OptionForm :=
  [⟨.json, "--json".toList, none, false⟩, ⟨.noJson, "--no-json".toList, none, false⟩,
    ⟨.verbose, "--verbose".toList, some 'v', false⟩, helpForm]

/-- The options of a command that carries statements between dialects. -/
def transpileForms : List OptionForm :=
  [⟨.source, "--from".toList, some 'f', true⟩, ⟨.target, "--to".toList, some 't', true⟩,
    helpForm]

/-- The options of a command that works in one dialect. -/
def dialectForms : List OptionForm :=
  [⟨.dialect, "--dialect".toList, some 'd', true⟩, helpForm]

/-- An option on the command line, with its value if it takes one. -/
structure Occurrence where
  key : Key
  value : String

/-- What a command line says, or why it says nothing. -/
inductive Reading (α : Type) where
  | help
  | misuse
  | ok (a : α)

/-- Joined short options: those before the last, and the last if its value is the next word. -/
def readShort (forms : List OptionForm) : List Char → Option (List Occurrence × Option Key)
  | [] => some ([], none)
  | c :: cs =>
    match forms.find? fun f => f.short == some c with
    | none => none
    | some f =>
      if f.takesValue then
        match cs with
        | [] => some ([], some f.key)
        | cs => some ([⟨f.key, String.ofList cs⟩], none)
      else (readShort forms cs).map fun (os, k) => (⟨f.key, ""⟩ :: os, k)

/-- A word that begins with a hyphen: the options in it, and the last if its value is the next
word. -/
def readOptions (forms : List OptionForm) (word : List Char) :
    Option (List Occurrence × Option Key) :=
  let name := word.takeWhile (· ≠ '=')
  match forms.find? fun f => f.long == name with
  | some f =>
    match word.dropWhile (· ≠ '=') with
    | [] => if f.takesValue then some ([], some f.key) else some ([⟨f.key, ""⟩], none)
    | _ :: value => if f.takesValue then some ([⟨f.key, String.ofList value⟩], none) else none
  | none =>
    match word with
    | '-' :: '-' :: _ => none
    | _ :: cs => readShort forms cs
    | [] => none

/-- The options and the arguments of a list of words. Unless options may stand among arguments,
the first argument ends the options. -/
def scan (forms : List OptionForm) (mixed : Bool) :
    (words : List String) → Option (List Occurrence × List String)
  | [] => some ([], [])
  | w :: ws =>
    match w.toList with
    | ['-', '-'] => some ([], ws)
    | '-' :: c :: cs =>
      match readOptions forms ('-' :: c :: cs) with
      | none => none
      | some (os, none) => (scan forms mixed ws).map fun (os', as) => (os ++ os', as)
      | some (os, some key) =>
        match ws with
        | [] => none
        | v :: ws => (scan forms mixed ws).map fun (os', as) => (os ++ ⟨key, v⟩ :: os', as)
    | _ =>
      if mixed then (scan forms mixed ws).map fun (os, as) => (os, w :: as)
      else some ([], w :: ws)

/-- The last value of an option. -/
def lastValue? (key : Key) (os : List Occurrence) : Option String :=
  (os.reverse.find? fun o => o.key == key).map (·.value)

/-- The global options, as they are set. -/
structure Globals where
  json : Bool
  verbose : Bool
deriving DecidableEq, Repr

/-- The commands. -/
inductive Command where
  | transpile (sql source target : String)
  | parse (sql : String) (dialect : Option String)
  | parseOne (sql : String) (dialect : Option String)
  | generate (payload : String) (dialect : Option String)
  | format (sql : String) (dialect : Option String)
  | validate (sql : String) (dialect : Option String)
  | dialects
  | version
deriving DecidableEq, Repr

/-- The names of the commands. -/
def commandNames : List String :=
  ["transpile", "parse", "parse-one", "generate", "format", "validate", "dialects", "version"]

/-- Whether output is asked for as JSON: the last option that says so counts. -/
def wantsJson (os : List Occurrence) : Bool :=
  ((os.reverse.find? fun o => o.key == .json || o.key == .noJson).map
    fun o => o.key == .json).getD false

/-- Whether options ask for help. -/
def wantsHelp (os : List Occurrence) : Bool :=
  os.any fun o => o.key == .help

/-- Words that stand where the name of a command should and name none: global options among them
may still ask for help. -/
def readUnnamed (words : List String) : Reading (Globals × String × List String) :=
  match scan globalForms false words with
  | some (os, _) => if wantsHelp os then .help else .misuse
  | none => .misuse

/-- Reads the global options, the name of the command and the words that follow it. -/
def readGlobals (words : List String) : Reading (Globals × String × List String) :=
  if words.isEmpty then .misuse
  else
    match scan globalForms false words with
    | none => .misuse
    | some (os, as) =>
      if wantsHelp os then .help
      else
        match as with
        | [] => .misuse
        | name :: rest =>
          if commandNames.contains name then
            .ok (⟨wantsJson os, os.any fun o => o.key == .verbose⟩, name, rest)
          else readUnnamed (name :: rest)

/-- Reads the words of a command with its options; `make` has all that it needs or refuses. -/
def readWith (forms : List OptionForm) (words : List String)
    (make : List Occurrence → List String → Option Command) : Reading Command :=
  match scan forms true words with
  | none => .misuse
  | some (os, as) =>
    if wantsHelp os then .help
    else
      match make os as with
      | some c => .ok c
      | none => .misuse

/-- A command with one argument and perhaps a dialect. -/
def readOne (make : String → Option String → Command) (words : List String) : Reading Command :=
  readWith dialectForms words fun os as =>
    match as with
    | [text] => some (make text (lastValue? .dialect os))
    | _ => none

/-- A command without arguments. -/
def readNone (c : Command) (words : List String) : Reading Command :=
  readWith [helpForm] words fun _ as => if as.isEmpty then some c else none

/-- Reads the words that follow the name of a command. -/
def readCommand (name : String) (words : List String) : Reading Command :=
  if name = "transpile" then
    readWith transpileForms words fun os as =>
      match as, lastValue? .source os, lastValue? .target os with
      | [text], some source, some target => some (.transpile text source target)
      | _, _, _ => none
  else if name = "parse" then readOne .parse words
  else if name = "parse-one" then readOne .parseOne words
  else if name = "generate" then readOne .generate words
  else if name = "format" then readOne .format words
  else if name = "validate" then readOne .validate words
  else if name = "dialects" then readNone .dialects words
  else if name = "version" then readNone .version words
  else .misuse

end CommandLine
end SqlDialects
