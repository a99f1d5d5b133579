import SqlDialects.Sql.Lexer
import SqlDialects.Sql.Parser.Statements

/-!
# Reading SQL

**Input.** A text in some dialect.

**Algorithm.** The text is split into tokens, the tokens into statements at semicolons, and the
grammar reads each statement by itself.

**Rules.**
* What is left of a statement after it has been read is a complaint.
* Reading stops at the first statement with complaints. All complaints about it are reported if
  they are collected, and the first one otherwise.
* A semicolon with comments is a statement of its own.

**Results.**
* `parse` gives the trees of all statements; a statement without tokens has none.
-/

namespace SqlDialects
namespace Sql

/-- Why a text cannot be read. -/
inductive ParseFault where
  | unreadable (offset : Nat)
  | rejected (complaints : List Complaint)
  | tooDeep

/-- How deep parts of a statement may be nested. -/
def nestingLimit : Nat :=
  100

/-- The tokens of each statement. The semicolon at the very end starts no further statement. -/
def statementsOf : List Token → List (List Token)
  | [] => [[]]
  | t :: ts =>
    if t.kind == .SEMICOLON then
      let remark := if t.comments.isEmpty then [] else [[t]]
      [] :: remark ++ if ts.isEmpty then [] else statementsOf ts
    else
      match statementsOf ts with
      | [] => [[t]]
      | s :: ss => (t :: s) :: ss

/-- Reads a statement to its end. -/
def wholeStatement : Parsing (Option Tree) := do
  let t ← (Rules.within nestingLimit).statement
  if (← Parsing.current?).isSome then Parsing.complain .unexpected none
  return t

/-- The tree of a statement. -/
def parseStatement (setting : Setting) (ts : List Token) : Except ParseFault (Option Tree) :=
  match wholeStatement setting ⟨none, ts, [], []⟩ with
  | .error (.rejected c) => .error (.rejected [c])
  | .error .tooDeep => .error .tooDeep
  | .ok (t, c) => if c.complaints.isEmpty then .ok t else .error (.rejected c.complaints.reverse)

/-- The trees of all statements of a text. -/
def parse (f : Features) (sql : String) (collecting : Bool) :
    Except ParseFault (List (Option Tree)) :=
  match Lexer.tokens f sql with
  | .error n => .error (.unreadable n)
  | .ok ts => (statementsOf ts).mapM (parseStatement ⟨f, sql, collecting⟩)

end Sql
end SqlDialects
