import SqlDialects.Sql.Features
import SqlDialects.Sql.Tree
import SqlDialects.Text.Case

/-!
# Reading tokens

The ground that the grammar stands on: a cursor over tokens, what can be wrong, and the steps that
every rule is made of.

**Model.**
* A rule reads and moves a cursor. It gives what it has read, or stops.
* A complaint stops the reading, unless complaints are collected.
* Comments of the token that was read last wait for the next node that is built.

**Results.**
* `attempt` tries a rule and goes back if it reads nothing or complains.
* `finish` completes a node: it hands out waiting comments and complains of lacking fields.
-/

namespace SqlDialects
namespace Sql

/-- What can be wrong with a text. -/
inductive Problem where
  | expecting (symbol : String)
  | expected (what : String)
  | missing (field : String) (kind : Kind)
  | tooManyArguments (given most : Nat)
  | repeated (clause : String)
  | aliasOfQuery
  | nothingAfterQueries
  | noNamedQueries (kind : Kind)
  | contradictoryQuantifiers
  | noAggregates
  | badKey
  | unexpected

/-- A problem in words. -/
def Problem.message : Problem → String
  | expecting symbol => "Expecting " ++ symbol
  | expected what => "Expected " ++ what
  | missing field kind =>
    "Required keyword: '" ++ field ++ "' missing for <class '" ++ kind.path ++ "'>"
  | tooManyArguments given most =>
    "The number of provided arguments (" ++ toString given
      ++ ") is greater than the maximum number of supported arguments (" ++ toString most ++ ")"
  | repeated clause => "Found multiple '" ++ clause ++ "' clauses"
  | aliasOfQuery => "Expected CTE to have alias"
  | nothingAfterQueries => "Failed to parse any statement following CTE"
  | noNamedQueries kind => Text.lower kind.name ++ " does not support CTE"
  | contradictoryQuantifiers => "Cannot specify both ALL and DISTINCT after SELECT"
  | noAggregates => "Failed to parse PIVOT's aggregation list"
  | badKey => "Invalid key constraint"
  | unexpected => "Invalid expression / Unexpected token"

/-- A problem at a place. -/
structure Complaint where
  problem : Problem
  place : Place

namespace Complaint

/-- How much of a text is shown before and after a place. -/
def contextWidth : Nat :=
  100

/-- A complaint about a text in words, with the place marked. -/
def message (sql : String) (c : Complaint) : String :=
  let cs := sql.toList
  let after := c.place.stop + 1
  let before := (cs.take c.place.start).drop (c.place.start - contextWidth)
  let marked := (cs.take after).drop c.place.start
  let behind := (cs.drop after).take contextWidth
  c.problem.message ++ ". Line " ++ toString c.place.line ++ ", Col: " ++ toString c.place.column
    ++ ".\n  " ++ String.ofList before ++ "\x1b[4m" ++ String.ofList marked ++ "\x1b[0m"
    ++ String.ofList behind

end Complaint

/-- Why reading stops. -/
inductive Stop where
  | rejected (c : Complaint)
  | tooDeep

/-- What stays the same while a statement is read. -/
structure Setting where
  features : Features
  /-- The text that is read. -/
  text : String
  /-- Whether complaints are collected. -/
  collecting : Bool

/-- Where reading stands. -/
structure Cursor where
  previous : Option Token
  rest : List Token
  /-- Comments of the previous token that belong to no node yet. -/
  waiting : List String
  /-- Complaints so far, the latest first. -/
  complaints : List Complaint

/-- A place to which reading goes back: the comments of the previous token wait again. -/
def Cursor.again (c : Cursor) : Cursor :=
  { c with waiting := (c.previous.map Token.comments).getD [] }

/-- A rule. -/
abbrev Parsing := ReaderT Setting (StateT Cursor (Except Stop))

namespace Parsing

/-- The features of the dialect. -/
def features : Parsing Features :=
  return (← read).features

/-- The next token. -/
def current? : Parsing (Option Token) :=
  return (← get).rest.head?

/-- The token after the next one. -/
def following? : Parsing (Option Token) :=
  return ((← get).rest.drop 1).head?

/-- The next token, or the one that stands for none. -/
def current : Parsing Token :=
  return (← current?).getD .sentinel

/-- The token that was read last, or the one that stands for none. -/
def previous : Parsing Token :=
  return (← get).previous.getD .sentinel

/-- Reads a token. -/
def advance : Parsing Unit :=
  modify fun c =>
    match c.rest with
    | [] => c
    | t :: ts => { c with previous := some t, rest := ts, waiting := t.comments }

/-- Goes back to where reading stood before. -/
def backTo (mark : Cursor) : Parsing Unit :=
  modify fun c =>
    if mark.rest.length = c.rest.length then c
    else { mark.again with complaints := c.complaints }

/-- How many tokens are left at most; enough for any loop over them. -/
def budget : Parsing Nat :=
  return (← get).rest.length + 1

/-- Whether the next token is of a kind. -/
def sees (k : TokenKind) : Parsing Bool :=
  return (← current?).any fun t => t.kind == k

/-- Whether the next token is of one of some kinds. -/
def seesAny (ks : List TokenKind) : Parsing Bool :=
  return (← current?).any fun t => ks.contains t.kind

/-- Whether the next tokens are of two kinds. -/
def seesPair (j k : TokenKind) : Parsing Bool :=
  return (← sees j) && (← following?).any fun t => t.kind == k

/-- Reads the next token if it passes a test. -/
def acceptIf (p : Token → Bool) : Parsing Bool := do
  match ← current? with
  | none => return false
  | some t =>
    if p t then
      advance
      return true
    else return false

/-- Reads a token of a kind, if it is next. -/
def accept (k : TokenKind) : Parsing Bool :=
  acceptIf fun t => t.kind == k

/-- Reads a token of one of some kinds, if it is next. -/
def acceptAny (ks : List TokenKind) : Parsing Bool :=
  acceptIf fun t => ks.contains t.kind

/-- Reads a word that is known by its text, if it is next. -/
def acceptWord (w : String) : Parsing Bool :=
  acceptIf fun t => t.kind != .STRING && Text.upper t.text == w

/-- Reads words that are known by their texts, if all of them are next. -/
def acceptWords (ws : List String) : Parsing Bool := do
  let mark ← get
  for w in ws do
    unless ← acceptWord w do
      backTo mark
      return false
  return true

/-- Reads tokens of two kinds, if both are next. -/
def acceptPair (j k : TokenKind) : Parsing Bool := do
  if ← seesPair j k then
    advance
    advance
    return true
  else return false

/-- Complains, at a token or else where reading stands. -/
def complain (p : Problem) (t : Option Token) : Parsing Unit := do
  let c ← get
  let token := (t <|> c.rest.head? <|> c.previous).getD .sentinel
  let complaint : Complaint := ⟨p, token.place⟩
  if (← read).collecting then
    set { c with complaints := complaint :: c.complaints }
  else throw (.rejected complaint)

/-- Tries a rule; if it reads nothing or complains, goes back. -/
def attempt {α : Type} (r : Parsing (Option α)) : Parsing (Option α) := fun setting cursor =>
  match r { setting with collecting := false } cursor with
  | .ok (some a, c) => .ok (some a, c)
  | .ok (none, _) | .error (.rejected _) => .ok (none, cursor.again)
  | .error .tooDeep => .error .tooDeep

/-- The comments that wait for a node; they wait no longer. -/
def takeWaiting : Parsing (List String) :=
  modifyGet fun c => (c.waiting, { c with waiting := [] })

/-- Gives a node the comments that wait. -/
def comment (t : Tree) : Parsing Tree :=
  return t.addComments (← takeWaiting)

/-- Complains of the fields that a node lacks. -/
def check (t : Tree) : Parsing Tree := do
  for f in t.missing do
    complain (.missing f (t.kind?.getD .null)) none
  return t

/-- Completes a node, which gets comments of its own, or else those that wait. -/
def finishWith (comments : List String) (t : Tree) : Parsing Tree := do
  check (← if comments.isEmpty then comment t else pure (t.addComments comments))

/-- Completes a node, which gets the comments that wait. -/
def finish (t : Tree) : Parsing Tree :=
  finishWith [] t

/-- A node of a kind with some fields. -/
def node (k : Kind) (fields : List (String × Tree)) : Parsing Tree :=
  finish (.of k fields)

/-- Reads a closing parenthesis, whose comments go to a tree. -/
def closeParen (t : Option Tree) : Parsing (Option Tree) := do
  if ← accept .R_PAREN then
    match t with
    | some t => return some (← comment t)
    | none => return none
  else
    complain (.expecting ")") none
    return t

/-- Reads a closing parenthesis after a list. -/
def endList : Parsing Unit := do
  let _ ← closeParen none

/-- The items that follow an item, each after a comma. -/
def moreItems (item : Parsing (Option Tree)) : (fuel : Nat) → Option Tree → Parsing (List Tree)
  | 0, last => return last.toList
  | fuel + 1, last => do
    if ← accept .COMMA then
      let last ← last.mapM comment
      let next ← item
      return last.toList ++ (← moreItems item fuel next)
    else return last.toList

/-- Items between commas; what is empty between two commas is left out. -/
def separated (item : Parsing (Option Tree)) : Parsing (List Tree) := do
  let first ← item
  moreItems item (← budget) first

/-- Reads all that is left of a statement, and keeps the statement as it is written from a token
on. -/
def verbatim (first : Token) : Parsing (Option Tree) := do
  let c ← get
  let last := (c.rest.getLast? <|> c.previous).getD first
  set { c with previous := some last, rest := [], waiting := last.comments }
  let written := ((← read).text.toList.take (last.place.stop + 1)).drop first.place.start
  let size := first.text.length
  return some (.of .command
    [("this", .text (.ofList (written.take size))),
      ("expression", .text (.ofList (written.drop size)))])

/-- Reads something between parentheses. -/
def wrapped {α : Type} (inner : Parsing α) : Parsing α := do
  let opened ← accept .L_PAREN
  unless opened do complain (.expecting "(") none
  let a ← inner
  if opened then endList
  return a

/-- The operators after an operand, from left to right; each operator makes a node of a kind. -/
def operators (operand : Parsing (Option Tree)) (kinds : List (TokenKind × Kind))
    (done : Tree → Parsing Tree) : (fuel : Nat) → Option Tree → Parsing (Option Tree)
  | 0, left => return left
  | fuel + 1, left => do
    match (← current?).bind fun t => kinds.lookup t.kind with
    | none => return left
    | some k =>
      advance
      let comments := (← get).waiting
      let right ← operand
      let t ← finishWith comments
        (.of k [("this", .ofOption left), ("expression", .ofOption right)])
      operators operand kinds done fuel (some (← done t))

/-- Operands with operators between them, of equal strength. -/
def chain (operand : Parsing (Option Tree)) (kinds : List (TokenKind × Kind))
    (done : Tree → Parsing Tree) : Parsing (Option Tree) := do
  let first ← operand
  operators operand kinds done (← budget) first

end Parsing
end Sql
end SqlDialects
