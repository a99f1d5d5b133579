import SqlDialects.Text.Blank

/-!
# Environment files

**Input.** A text of lines `NAME=value`, and the variables of the environment.

**Rules.**
* A line may begin with `export`; a name may stand between single marks.
* A value is bare, between single marks or between double marks. A bare one ends at a comment or
  at the end of the line; between marks a backslash escapes.
* A name without `=` is bound to nothing. A line of any other form is left out.
* `${NAME}` in a value stands for a variable, the bindings above it before the environment;
  `${NAME:-text}` gives a text for a variable that is not there.

**Results.**
* `Dotenv.bindings` lists names and values in the order of the file, each name once.
-/

namespace SqlDialects
namespace Dotenv

/-- Reading, which is given up with what had not been read if a line has another form. What is
read comes with what follows it. -/
abbrev Reading := Except (List Char)

/-- Whether a character is a line end. -/
def isLineEnd (c : Char) : Bool :=
  c = '\n' || c = '\r'

/-- Whether a character is a blank inside a line. -/
def isInnerBlank (c : Char) : Bool :=
  Text.isSpace c && !isLineEnd c

/-- What follows blanks inside a line. -/
def skipBlanks (cs : List Char) : List Char :=
  cs.dropWhile isInnerBlank

/-- What follows `export` and a blank, if a line begins with them. -/
def skipExport (cs : List Char) : List Char :=
  match cs with
  | 'e' :: 'x' :: 'p' :: 'o' :: 'r' :: 't' :: c :: rest =>
    if isInnerBlank c then skipBlanks rest else cs
  | _ => cs

/-- The characters before a mark and what follows it; a character after a backslash ends
nothing. -/
def untilMark (mark : Char) : List Char → Option (List Char × List Char)
  | [] => none
  | '\\' :: c :: cs => (untilMark mark cs).map fun (s, rest) => ('\\' :: c :: s, rest)
  | c :: cs =>
    if c = mark then some ([], cs) else (untilMark mark cs).map fun (s, rest) => (c :: s, rest)

/-- The character that an escape between double marks stands for. -/
def doubleEscape? : Char → Option Char
  | '\\' => some '\\'
  | '\'' => some '\''
  | '"' => some '"'
  | 'a' => some '\x07'
  | 'b' => some '\x08'
  | 'f' => some '\x0c'
  | 'n' => some '\n'
  | 'r' => some '\r'
  | 't' => some '\t'
  | 'v' => some '\x0b'
  | _ => none

/-- The character that an escape between single marks stands for. -/
def singleEscape? : Char → Option Char
  | '\\' => some '\\'
  | '\'' => some '\''
  | _ => none

/-- A text with its escapes replaced. -/
def unescape (escape? : Char → Option Char) : List Char → List Char
  | '\\' :: c :: cs =>
    match escape? c with
    | some d => d :: unescape escape? cs
    | none => '\\' :: unescape escape? (c :: cs)
  | c :: cs => c :: unescape escape? cs
  | [] => []

/-- A bare value without its comment: blanks, a number sign and what follows. -/
def dropComment : List Char → List Char
  | [] => []
  | c :: cs =>
    if Text.isSpace c then
      match cs.dropWhile Text.isSpace with
      | '#' :: _ => []
      | _ => c :: dropComment cs
    else c :: dropComment cs

/-- Reads the name of a line; a comment has none. -/
def readName (cs : List Char) : Reading (Option (List Char) × List Char) :=
  match cs with
  | '#' :: _ => .ok (none, cs)
  | '\'' :: r =>
    match r.takeWhile (· ≠ '\''), r.dropWhile (· ≠ '\'') with
    | n :: ns, _ :: rest => .ok (some (n :: ns), rest)
    | _, _ => .error cs
  | _ =>
    let inName (c : Char) : Bool := c ≠ '=' && c ≠ '#' && !Text.isSpace c
    match cs.takeWhile inName with
    | [] => .error cs
    | n => .ok (some n, cs.dropWhile inName)

/-- Reads the value after an equals sign. -/
def readValue (cs : List Char) : Reading (List Char × List Char) :=
  match skipBlanks cs with
  | '\'' :: r =>
    match untilMark '\'' r with
    | some (s, rest) => .ok (unescape singleEscape? s, rest)
    | none => .error (skipBlanks cs)
  | '"' :: r =>
    match untilMark '"' r with
    | some (s, rest) => .ok (unescape doubleEscape? s, rest)
    | none => .error (skipBlanks cs)
  | _ =>
    let line := cs.takeWhile fun c => !isLineEnd c
    .ok (Text.trim Text.isSpace (dropComment line), cs.dropWhile fun c => !isLineEnd c)

/-- What follows a comment and the end of a line. -/
def readEnd (cs : List Char) : Reading (List Char) :=
  let afterComment :=
    match skipBlanks cs with
    | '#' :: r => r.dropWhile fun c => !isLineEnd c
    | _ => cs
  match skipBlanks afterComment with
  | [] => .ok []
  | '\r' :: '\n' :: r => .ok r
  | c :: r => if isLineEnd c then .ok r else .error afterComment

/-- A name and its value, if it has one. -/
abbrev Binding := List Char × Option (List Char)

/-- Reads one line that is not blank. -/
def readLine (cs : List Char) : Reading (Option Binding × List Char) := do
  let (name, rest) ← readName (skipExport cs)
  let rest := skipBlanks rest
  let (value, rest) ←
    match rest with
    | '=' :: r => (readValue r).map fun (v, r) => (some v, r)
    | r => .ok (none, r)
  let rest ← readEnd rest
  .ok (name.map fun n => (n, value), rest)

/-- What follows the rest of a line. -/
def skipLine (cs : List Char) : List Char :=
  (cs.dropWhile fun c => !isLineEnd c).drop 1

/-- The bindings of a text, line by line; every step uses up a character. -/
def readLines : (fuel : Nat) → List Char → List Binding
  | 0, _ => []
  | fuel + 1, cs =>
    match cs.dropWhile Text.isSpace with
    | [] => []
    | cs =>
      match readLine cs with
      | .ok (some b, rest) => b :: readLines fuel rest
      | .ok (none, rest) => readLines fuel rest
      | .error rest => readLines fuel (skipLine rest)

/-- The value of a variable, if there is one of that name: what is bound last before the
environment. A name that is bound to nothing has an empty value. -/
def boundValue? (bound : List (String × Option String)) (environment : List (String × String))
    (name : String) : Option String :=
  match bound.find? fun b => b.1 == name with
  | some (_, v) => some (v.getD "")
  | none => (environment.find? fun b => b.1 == name).map (·.2)

/-- A reference to a variable after its opening brace: name, default and what follows. -/
def reference? (cs : List Char) : Option (List Char × Option (List Char) × List Char) :=
  let name := cs.takeWhile fun c => c ≠ '\x7d' && c ≠ ':'
  match cs.dropWhile fun c => c ≠ '\x7d' && c ≠ ':' with
  | '\x7d' :: rest => some (name, none, rest)
  | ':' :: '-' :: r =>
    match r.dropWhile (· ≠ '\x7d') with
    | _ :: rest => some (name, some (r.takeWhile (· ≠ '\x7d')), rest)
    | [] => none
  | _ => none

/-- A value with its references replaced; every step uses up a character. -/
def expand (value? : String → Option String) : (fuel : Nat) → List Char → List Char
  | 0, cs => cs
  | _ + 1, [] => []
  | fuel + 1, '$' :: '\x7b' :: cs =>
    match reference? cs with
    | some (name, fallback, rest) =>
      let v := ((value? (String.ofList name)).map String.toList).getD (fallback.getD [])
      v ++ expand value? fuel rest
    | none => '$' :: expand value? fuel ('\x7b' :: cs)
  | fuel + 1, c :: cs => c :: expand value? fuel cs

/-- Binds a name: one that is bound keeps its place. -/
def assign (name : String) (value : Option String) :
    List (String × Option String) → List (String × Option String)
  | [] => [(name, value)]
  | (n, v) :: bs => if n = name then (n, value) :: bs else (n, v) :: assign name value bs

/-- What follows the mark that a text may begin with to show the order of its bytes. -/
def dropOrderMark : List Char → List Char
  | '\ufeff' :: cs => cs
  | cs => cs

/-- The bindings of a text, with references replaced. -/
def bindings (environment : List (String × String)) (text : String) :
    List (String × Option String) :=
  let cs := Text.universalNewlines (dropOrderMark text.toList)
  (readLines (cs.length + 1) cs).foldl
    (fun bound (name, value) =>
      let value := value.map fun v =>
        String.ofList (expand (boundValue? bound environment) (v.length + 1) v)
      assign (String.ofList name) value bound) []

end Dotenv
end SqlDialects
