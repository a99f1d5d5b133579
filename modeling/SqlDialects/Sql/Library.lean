import SqlDialects.Library.Basic
import SqlDialects.Sql.Exchange.Load
import SqlDialects.Sql.Features.Catalog
import SqlDialects.Sql.Parser
import SqlDialects.Sql.Printer.Statements

/-!
# The SQL library

Reading, writing and exchanging SQL as an engine needs it, with failures in place of faults.

**Results.**
* `library` is the library; all its dialects are there.
* `dialectLabel` is the name of the family that a dialect belongs to.
-/

namespace SqlDialects
namespace Sql

/-- The version of the library. -/
def version : String :=
  "30.30.0"

/-- The failure of nesting that is too deep. -/
def tooDeep : Failure :=
  .of (.general .recursion) "maximum recursion depth exceeded"

/-- What is noted about a complaint. -/
def Complaint.record (c : Complaint) : Value :=
  .dict [(.text "description", .text c.problem.message), (.text "line", .int c.place.line),
    (.text "col", .int c.place.column)]

/-- How many messages are shown at most when a failure has several. -/
def mostMessages : Nat :=
  3

/-- Messages as one text; those that are too many are counted. -/
def joinMessages (messages : List String) : String :=
  let more := messages.length - mostMessages
  "\n\n".intercalate (messages.take mostMessages
    ++ if more = 0 then [] else ["... and " ++ toString more ++ " more"])

/-- A fault of reading as a failure. -/
def ParseFault.failure (sql : String) : ParseFault → Failure
  | unreadable n =>
    .of (.library .token) ("Error tokenizing '" ++ Lexer.excerpt sql n ++ "'")
  | rejected cs =>
    { Failure.of (.library .parse) (joinMessages (cs.map (Complaint.message sql))) with
      records := cs.map Complaint.record }
  | tooDeep => Sql.tooDeep

/-- A fault of writing as a failure. -/
def WriteFault.failure : WriteFault → Failure
  | missingField name => .of (.general .key) name
  | emptyOperand => .of (.general .index) "string index out of range"
  | unwritable kind => .of (.general .value) ("Unsupported expression type " ++ kind)
  | noCondition => .of (.general .type) "'NoneType' object is not iterable"
  | badComment what => .of (.general .type) what
  | notText kind method =>
    .of (.general .missingAttribute) ("'" ++ kind ++ "' object has no attribute '" ++ method ++ "'")
  | tooDeep => Sql.tooDeep

/-- The trees of all statements of a text. -/
def trees (dialect sql : String) (collect : Bool) : Except Failure (List (Option Tree)) :=
  (parse (.ofName dialect) sql collect).mapError (ParseFault.failure sql)

/-- A statement as a node; an empty one is null. -/
def nodeOf : Option Tree → Node Tree
  | some t => .tree t
  | none => .other .null

/-- The tree of the only statement of a text; several statements are a block. -/
def onlyTree (dialect sql : String) : Except Failure (Node Tree) :=
  match trees dialect sql false with
  | .error f => .error f
  | .ok [] | .ok (none :: _) =>
    .error (.of (.library .parse) ("No expression was parsed from '" ++ sql ++ "'"))
  | .ok [some t] => .ok (.tree t)
  | .ok ts => .ok (.tree (.of .block [("expressions", .many (ts.map .ofOption))]))

/-- The text of a tree. With the strictest level, what the dialect cannot say is a failure. -/
def render (t : Tree) (dialect : String) (pretty : Bool) (level : UnsupportedLevel) :
    Except Failure String :=
  match print (.ofName dialect) pretty t with
  | .error e => .error e.failure
  | .ok (text, notes) =>
    if level == .refuse && !notes.isEmpty then
      .error (.of (.library .unsupported) (joinMessages notes))
    else .ok text

/-- What is exchanged of a node. -/
def exchanged : Node Tree → Value
  | .tree t => Exchange.dump t
  | .other v => .list [.dict [(.text "v", v)]]

/-- The library. -/
def library {τ : Type} : Library τ Tree :=
  { version := version
    hasDialect := fun _ => return true
    parse := fun dialect sql collect => do
      return (← Task.ofExcept (trees dialect sql collect)).map nodeOf
    parseOne := fun dialect sql => Task.ofExcept (onlyTree dialect sql)
    render := fun t dialect pretty level => Task.ofExcept (render t dialect pretty level)
    dump := fun n => return exchanged n
    load := fun data => Task.ofExcept (Exchange.load data)
    treeKind := fun t => (t.kind?.map Kind.name).getD "" }

/-- The name of the family of a dialect. -/
def dialectLabel (name : String) : String :=
  (Features.ofName name).label

end Sql
end SqlDialects
