import SqlDialects.Sql.Features
import SqlDialects.Sql.Layout
import SqlDialects.Sql.Tree
import SqlDialects.Text.Case

/-!
# Writing trees

The ground that writing SQL stands on: what a page looks like, how comments and lists are written,
and the pen that the rules of the parts hold.

**Rules.**
* On one line, parts of a statement are set apart by blanks; on many lines, by ends of lines.
* Lists of more than eighty characters are broken, others are kept on a line.
* Comments follow what they belong to, but stand before clauses and statements.
* What a dialect cannot say is left out and noted.

**Results.**
* `Pen.write` writes a tree with its comments.
* `Pen.flat`, `Pen.block` and `Pen.folded` write lists.
-/

namespace SqlDialects
namespace Sql

/-- Why a tree cannot be written. -/
inductive WriteFault where
  | missingField (name : String)
  | emptyOperand
  /-- Data or a node of a kind that stands for no part of a statement. -/
  | unwritable (kind : String)
  /-- A join that has no condition, though one is needed. -/
  | noCondition
  /-- A comment that is no text; what is wrong with it. -/
  | badComment (what : String)
  /-- Data in place of a text. -/
  | notText (kind method : String)
  | tooDeep

/-- How a page is set, and where on it a tree stands. -/
structure Page where
  features : Features
  /-- Whether statements are written on many lines. -/
  pretty : Bool
  /-- The nodes around what is written, the innermost first; the node itself is the first one. -/
  around : List Tree

/-- What has come up while a statement is written. -/
structure Draft where
  /-- What the dialect cannot say. -/
  notes : List String
  /-- How many tables have been given a name because they had none. -/
  named : Nat

/-- Writing, which notes what the dialect cannot say. -/
abbrev Writing := ReaderT Page (StateT Draft (Except WriteFault))

/-- What writes a tree without the comments of its first node. -/
structure Pen where
  bare : Tree → Writing Layout

namespace Writing

/-- How far lines are moved to the right. -/
def step : Nat :=
  2

/-- The longest text that is kept on one line. -/
def widest : Nat :=
  80

/-- The features of the dialect. -/
def features : Writing Features :=
  return (← read).features

/-- Notes that the dialect cannot say something. -/
def unsupported (what : String) : Writing Unit :=
  modify fun d => { d with notes := d.notes ++ [what] }

/-- A new name for a table that has none. -/
def freshName : Writing String :=
  modifyGet fun d => ("_t" ++ toString d.named, { d with named := d.named + 1 })

/-- The nodes around the one that is written, the innermost first. -/
def ancestors : Writing (List Tree) :=
  return (← read).around.drop 1

/-- The kind of the node around the one that is written. -/
def parentKind? : Writing (Option Kind) :=
  return (← ancestors).head?.bind Tree.kind?

/-- The innermost node around the one that is written whose kind is one of some kinds. -/
def enclosing? (p : Kind → Bool) : Writing (Option Tree) :=
  return (← ancestors).find? fun t => (t.kind?.map p).getD false

/-- Writes something inside a node. -/
def inside {α : Type} (t : Tree) (w : Writing α) : Writing α :=
  withReader (fun page => { page with around := t :: page.around }) w

/-- A text within a line. -/
def put (s : String) : Writing Layout :=
  return .ofText s

/-- A blank, or the end of a line. -/
def gap : Writing Layout :=
  return if (← read).pretty then .newline else .ofText " "

/-- Nothing, or the end of a line. -/
def softGap : Writing Layout :=
  return if (← read).pretty then .newline else .empty

/-- A word after a gap. -/
def clause (word : String) : Writing Layout :=
  return (← gap) ++ .ofText word

/-- A layout moved to the right. -/
def indented (l : Layout) : Writing Layout :=
  return if (← read).pretty then l.indent step else l

/-- A layout with all lines but the first one moved to the right. -/
def indentedRest (l : Layout) : Writing Layout :=
  return if (← read).pretty then l.indentRest step else l

/-- A layout with all lines but the first and the last one moved to the right. -/
def indentedInner (l : Layout) : Writing Layout :=
  return if (← read).pretty then l.indentInner step else l

/-- Whether layouts together are too wide for a line, which matters on many lines only. -/
def tooWide (ls : List Layout) : Writing Bool :=
  return (← read).pretty && ls.foldl (fun n l => n + l.width) 0 > widest

/-- A layout in parentheses, on lines of its own. -/
def parenthesized (l : Layout) : Writing Layout := do
  let soft ← softGap
  return .ofText "(" ++ soft ++ (← indented l) ++ soft ++ .ofText ")"

end Writing

namespace Remark

/-- Some characters with every occurrence of two characters set apart by a blank. -/
def part (a b : Char) : List Char → List Char
  | [] => []
  | [c] => [c]
  | c :: d :: cs =>
    if c = a && d = b then c :: ' ' :: part a b (d :: cs) else c :: part a b (d :: cs)

/-- A comment with blanks around it; what would open or close a comment is broken up. -/
def padded (s : String) : List Char :=
  let cs := part '/' '*' (part '*' '/' s.toList)
  let cs := if (cs.head?.map Text.isSpace).getD true then cs else ' ' :: cs
  if (cs.getLast?.map Text.isSpace).getD true then cs else cs ++ [' ']

/-- A comment between its marks. -/
def marked (s : String) : String :=
  "/*" ++ String.ofList (padded s) ++ "*/"

/-- Comments between their marks; empty ones are left out. -/
def all (cs : List String) : List Layout :=
  (cs.filter fun s => !s.isEmpty).map fun s => .ofText (marked s)

/-- The kinds whose comments are written in their midst, after an operator or a name. -/
def isInner (k : Kind) : Bool :=
  k.isSetOperation || k.isBinary || k == .cte

/-- The kinds whose comments stand before them. -/
def isLeading (k : Kind) : Bool :=
  [Kind.command, .create, .delete, .drop, .fromClause, .insert, .join, .order, .group, .having,
    .select, .update, .whereClause, .withClause].contains k

/-- A layout with comments before it, each after a gap. -/
def before (cs : List String) (l : Layout) : Writing Layout := do
  match all cs with
  | [] => return l
  | ls =>
    let gap ← Writing.gap
    let remarks := Layout.join gap ls
    return if l.startsBlank then gap ++ remarks ++ l else remarks ++ gap ++ l

/-- A layout with comments after it. -/
def after (cs : List String) (l : Layout) : Layout :=
  (all cs).foldl (fun l remark => l ++ .ofText " " ++ remark) l

/-- The layout of a tree with the comments of its first node. A query with named queries before it
has its comments after these. -/
def around (t : Tree) (l : Layout) : Writing Layout := do
  match t.kind? with
  | none => return l
  | some k =>
    if let some what := t.origin?.bind Origin.badComment then throw (.badComment what)
    else if isInner k then return l
    else if k == .select && t.holds "with_" then return l
    else if isLeading k then before t.comments l
    else return after t.comments l

end Remark

namespace Pen

open Writing

/-- Writes a tree with its comments. -/
def write (g : Pen) (t : Tree) : Writing Layout := do
  Remark.around t (← g.bare t)

/-- Writes a field; one that is not there has no text. -/
def field (g : Pen) (name : String) (t : Tree) : Writing Layout :=
  match t.field? name with
  | none => return .empty
  | some v => g.write v

/-- Writes a field after a text, or nothing if the field has no text. -/
def fieldAfter (g : Pen) (before name : String) (t : Tree) : Writing Layout := do
  let l ← g.field name t
  return if l.isEmpty then .empty else .ofText before ++ l

/-- Writes trees on a line; those without a text are left out. -/
def flat (g : Pen) (between : String) (ts : List Tree) : Writing Layout := do
  let ls ← ts.mapM g.write
  return .join (.ofText between) (ls.filter fun l => !l.isEmpty)

/-- An item of a list with the comma after it, unless it is the last one. -/
def punctuated (pretty last : Bool) (item remark : Layout) : Layout :=
  if last then item ++ remark
  else if !pretty then item ++ remark ++ .ofText ", "
  else if remark.isEmpty then item ++ .ofText ", "
  else item ++ .ofText "," ++ remark

/-- Writes the items of a list, each with the comma after it. -/
def listItems (g : Pen) : List Tree → Writing (List Layout)
  | [] => return []
  | t :: ts => do
    let item ← g.bare t
    let items ← listItems g ts
    if item.isEmpty then return items
    let remark ← Remark.around t .empty
    return punctuated (← read).pretty ts.isEmpty item remark :: items

/-- Writes a list with every item on a line of its own. -/
def block (g : Pen) (ts : List Tree) : Writing Layout := do
  let ls ← g.listItems ts
  if (← read).pretty then indented (.join .newline (ls.map Layout.trimEnd))
  else return .join .empty ls

/-- Writes a list on a line, or each item on a line of its own if the list is too wide. -/
def folded (g : Pen) (ts : List Tree) : Writing Layout := do
  let ls ← g.listItems ts
  if ← tooWide ls then
    indentedInner (.newline ++ .join .newline (ls.map Layout.trimEnd) ++ .newline)
  else indentedInner (.join .empty ls)

/-- Parts of a text on a line, or on lines of their own if they are too wide. -/
def arguments (between : String) (ls : List Layout) : Writing Layout := do
  if ← tooWide ls then
    let mark := String.ofList (Text.trim Text.isSpace between.toList)
    indentedInner (.newline ++ .join (.ofText mark ++ .newline) ls ++ .newline)
  else return .join (.ofText between) ls

/-- Writes a call with some arguments. -/
def call (g : Pen) (name : String) (args : List Tree) : Writing Layout := do
  let ls ← args.mapM g.write
  return .ofText (name ++ "(") ++ (← arguments ", " ls) ++ .ofText ")"

/-- A piece of a chain of operators. -/
inductive Piece where
  | operand (t : Tree)
  | operator (k : Kind) (comments : List String)

mutual

/-- The pieces of a chain of operators, in the order in which they are written. -/
def pieces (p : Kind → Bool) : Tree → List Piece
  | .node k fs cs origin =>
    if p k then fieldPieces p "this" fs ++ .operator k cs :: fieldPieces p "expression" fs
    else [.operand (.node k fs cs origin)]
  | t => [.operand t]

/-- The pieces of a field. -/
def fieldPieces (p : Kind → Bool) (name : String) : List (String × Tree) → List Piece
  | [] => [.operand .absent]
  | (n, t) :: fs => if n == name then pieces p t else fieldPieces p name fs

end

/-- Writes an operator between its operands; operands of the same kind are written in a row. -/
def binary (g : Pen) (word : String) (t : Tree) : Writing Layout := do
  let ls ← (pieces (fun k => t.isA k) t).mapM fun piece =>
    match piece with
    | .operand t => g.write t
    | .operator _ cs => return .ofText " " ++ Remark.after cs (.ofText word) ++ .ofText " "
  return .join .empty ls

end Pen
end Sql
end SqlDialects
