import SqlDialects.Console.Markup
import SqlDialects.Console.Table
import SqlDialects.Diagnostics.Basic
import SqlDialects.Failure.Basic

/-!
# What the command line shows

Messages, the table of dialects and the table of diagnostics, as text for a console of some
columns.

**Results.**
* A diagnostics table has one row for each issue, in order: code, severity, line, column, message.
* Messages are escaped before they are put into markup.
-/

namespace SqlDialects
namespace CommandLine

/-- Lines with line ends, none wider than the console. -/
def printed (width : Nat) (ls : List (List Char)) : String :=
  String.ofList (ls.flatMap fun l =>
    (if Text.width l ≤ width then l else Console.Wrap.fit width l) ++ ['\n'])

/-- Text on a console; words that do not fit are folded. -/
def printText (width : Nat) (cs : List Char) : String :=
  printed width (Console.Wrap.lines width .fold .unpadded cs)

/-- The failure of markup whose tags do not match. -/
def markupFailure (message : String) : Failure :=
  .of .markup message

/-- Markup on a console. -/
def printMarkup (width : Nat) (markup : List Char) : Except Failure String :=
  match Console.Markup.plain markup with
  | .ok cs => .ok (printText width cs)
  | .error e => .error (markupFailure e)

/-- Markup of a message in red, perhaps after the name of a class. -/
def messageMarkup (label : Option String) (message : String) : List Char :=
  "[red]".toList ++ (match label with
    | some l => l.toList ++ [':', ' ']
    | none => [])
    ++ Console.Markup.escape message.toList ++ "[/red]".toList

/-- The texts of cells that hold markup. -/
def cellTexts : List (List Char) → Except Failure (List (List Char))
  | [] => .ok []
  | c :: cs =>
    match Console.Markup.plain c with
    | .error e => .error (markupFailure e)
    | .ok t => (cellTexts cs).map (t :: ·)

/-- The texts of rows of cells that hold markup. -/
def rowTexts : List (List (List Char)) → Except Failure (List (List (List Char)))
  | [] => .ok []
  | r :: rs =>
    match cellTexts r with
    | .error e => .error e
    | .ok t => (rowTexts rs).map (t :: ·)

/-- The table of dialects. -/
def dialectTable (names : List String) : Console.Table :=
  { title := "Supported Dialects".toList
    columns := [⟨['#'], .right⟩, ⟨"Dialect".toList, .left⟩]
    rows := (names.zipIdx 1).map fun (n, i) => [(toString i).toList, n.toList] }

/-- The dialects on a console. -/
def printDialects (width : Nat) (names : List String) : String :=
  printed width ((dialectTable names).render width)

/-- The colour of a severity. -/
def severityColour : Severity → String
  | .error => "red"
  | .warning => "yellow"

/-- An optional position. -/
def positionText : Option Int → List Char
  | none => ['-']
  | some n => Decimal.intChars n

/-- The row of an issue, as markup. -/
def issueRow (i : Issue) : List (List Char) :=
  let colour := severityColour i.severity
  [i.code.toList,
    ("[" ++ colour ++ "]" ++ i.severity.label ++ "[/" ++ colour ++ "]").toList,
    positionText i.line, positionText i.column, Console.Markup.escape i.message.toList]

/-- The table of diagnostics, of rows of texts. -/
def diagnosticsTable (rows : List (List (List Char))) : Console.Table :=
  { title := "Diagnostics".toList
    columns :=
      [⟨"Code".toList, .left⟩, ⟨"Severity".toList, .left⟩, ⟨"Line".toList, .right⟩,
        ⟨"Col".toList, .right⟩, ⟨"Message".toList, .left⟩]
    rows := rows }

/-- The sentence above the table of diagnostics. -/
def verdict (r : Report) : List Char :=
  if r.valid then
    if r.issues.isEmpty then "SQL is valid.".toList else "SQL is valid (with warnings)".toList
  else "SQL is invalid.".toList

/-- The table of a report on a console, unless all is well. -/
def printIssues (width : Nat) (r : Report) : Except Failure String :=
  if r.valid && r.issues.isEmpty then .ok ""
  else (rowTexts (r.issues.map issueRow)).map fun rows =>
    printed width ((diagnosticsTable rows).render width)

end CommandLine
end SqlDialects
