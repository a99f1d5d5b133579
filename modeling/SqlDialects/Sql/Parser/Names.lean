import SqlDialects.Sql.Parser.Basic

/-!
# Reading names, literals and types

The smallest parts of SQL, which hold no other parts.

**Results.**
* `name?` reads a name; words of the grammar are names too where they cannot be anything else.
* `dataType?` reads the name of a type with its sizes.
* `aliased` reads an alias after an expression.
-/

namespace SqlDialects
namespace Sql
namespace Parsing

/-- A name that a token spells. -/
def nameNode (t : Token) (quoted : Bool) : Parsing Tree :=
  finish ((Tree.of .identifier [("this", .text t.text), ("quoted", .flag quoted)]).atPlace t.place)

/-- Reads a name in quotes. -/
def quotedName? : Parsing (Option Tree) := do
  if ← accept .IDENTIFIER then return some (← nameNode (← previous) true)
  else return none

/-- Reads a name that is in quotes or passes a test; `free` takes every word that is not
reserved. -/
def name? (free : Bool) (ok : TokenKind → Bool) : Parsing (Option Tree) := do
  match ← quotedName? with
  | some t => return some t
  | none =>
    if ← acceptIf fun t => (free && !TokenKind.reserved.contains t.kind) || ok t.kind then
      let t ← previous
      return some (← nameNode t (t.kind == .STRING))
    else return none

/-- Names that are not complaints of their own: any word that may be a name. -/
def plainName? : Parsing (Option Tree) :=
  name? false TokenKind.isName

/-- A literal that a token spells. -/
def literalNode (t : Token) : Parsing Tree :=
  finish ((Tree.of .literal
    [("this", .text t.text), ("is_string", .flag (t.kind == .STRING))]).atPlace t.place)

/-- A number that is written as a literal of its own, at no place. -/
def bareNumber (text : String) : Tree :=
  .of .literal [("this", .text text), ("is_string", .flag false)]

/-- A word that stands for itself. -/
def wordNode (text : String) : Tree :=
  .of .var [("this", .text text)]

/-- Reads a number. -/
def number? : Parsing (Option Tree) := do
  if ← accept .NUMBER then return some (← literalNode (← previous))
  else return none

/-- Reads a size of a type: a number or a word. -/
def typeSize? : Parsing (Option Tree) := do
  match ← number? with
  | some n => return some (← node .dataTypeParam [("this", n)])
  | none =>
    if ← acceptIf fun t => t.kind == .VAR then
      return some (← node .dataTypeParam
        [("this", wordNode (Text.upper (← previous).text))])
    else return none

/-- A type with some sizes. -/
def typeNode (k : TokenKind) (sizes : Option (List Tree)) : Tree :=
  .of .dataType [("this", .typeName k.label), ("expressions", .ofOption (sizes.map .many)),
    ("nested", .flag false)]

/-- The parts of a name after its first part. -/
def nameParts : (fuel : Nat) → String → Parsing String
  | 0, s => return s
  | fuel + 1, s => do
    if ← acceptPair .DOT .VAR then nameParts fuel (s ++ "." ++ (← previous).text)
    else return s

/-- Types of times, which may say something of zones. -/
def timeTypes : List TokenKind :=
  [.TIME, .TIMETZ, .TIMESTAMP, .TIMESTAMPLTZ, .TIMESTAMPNTZ, .TIMESTAMPTZ]

/-- What a time says of its zone. -/
inductive ZoneRemark where
  | nothing
  | without
  /-- It is of a type with a zone. -/
  | zoned (k : TokenKind)

/-- Reads what a time of a type says of its zone. -/
def zoneRemark (k : TokenKind) : Parsing ZoneRemark := do
  unless timeTypes.contains k do return .nothing
  if ← acceptWords ["WITH", "TIME", "ZONE"] then
    return .zoned (if k == .TIME || k == .TIMETZ then .TIMETZ else .TIMESTAMPTZ)
  if ← acceptWords ["WITH", "LOCAL", "TIME", "ZONE"] then return .zoned .TIMESTAMPLTZ
  if ← acceptWords ["WITHOUT", "TIME", "ZONE"] then return .without
  return .nothing

/-- The types of integers without a sign. -/
def unsignedTypes : List (TokenKind × TokenKind) :=
  [(.BIGINT, .UBIGINT), (.INT, .UINT), (.SMALLINT, .USMALLINT), (.TINYINT, .UTINYINT)]

/-- Reads the mark for integers without a sign, which makes another type of a type. -/
def signless (k : TokenKind) : Parsing TokenKind := do
  match unsignedTypes.lookup k with
  | some u => return if ← acceptWord "UNSIGNED" then u else k
  | none => return k

/-- Reads the sizes of a type between parentheses; if there are parentheses with anything else,
reads nothing. -/
def typeSizes? : Parsing (Option (Option (List Tree))) := do
  unless ← accept .L_PAREN do return some none
  let sizes ← separated typeSize?
  if sizes.isEmpty then return none
  if ← accept .R_PAREN then return some (some sizes)
  return none

/-- Reads a type as it is written. -/
def plainType? (named beforeText : Bool) : Parsing (Option Tree) := do
  let mark ← get
  let t ← current
  if t.kind.isType then
    advance
    match ← typeSizes? with
    | none =>
      backTo mark
      return none
    | some sizes =>
      match ← zoneRemark t.kind with
      | .zoned k =>
        return some (.of .dataType
          [("this", .typeName k.label), ("expressions", .ofOption (sizes.map .many))])
      | .without => return some (typeNode t.kind sizes)
      | .nothing =>
        let k ← signless t.kind
        let isText ← sees .STRING
        if beforeText && sizes.isSome && !isText then
          backTo mark
          return none
        else return some (typeNode k sizes)
  else if named && (t.kind == .VAR || t.kind == .IDENTIFIER) then
    advance
    let name ← nameParts (← budget) t.text
    return some (.of .dataType [("this", .typeName "USER-DEFINED"), ("kind", .text name)])
  else return none

/-- A number in a size of a type that nobody wrote, at the place where it would be. -/
def impliedSize (n column : Nat) : Tree :=
  let text := toString n
  let digits := (bareNumber text).atPlace
    ⟨1, column + text.length - 1, column - 1, column + text.length - 2⟩
  .of .dataTypeParam [("this", digits)]

/-- The exact number with some digits that an exact number without a size stands for. -/
def impliedDecimal (digits scale : Nat) : Tree :=
  let first := "DECIMAL(".length + 1
  typeNode .DECIMAL (some
    [impliedSize digits first, impliedSize scale (first + (toString digits).length + 2)])

/-- A type as the dialect takes it: types may have sizes that are not written, or none though they
are written, and may say whether they hold nulls. -/
def understood (f : Features) (t : Tree) : Tree :=
  let isPlain := (t.items "expressions").isEmpty
  let t :=
    match t.field? "this", f.plainDecimals with
    | some (.typeName "DECIMAL"), some (digits, scale) =>
      if isPlain then impliedDecimal digits scale else t
    | some (.typeName "TEXT"), _ => if f.has .boundlessTexts then typeNode .TEXT none else t
    | _, _ => t
  if f.has .definiteTypes then t.set "nullable" (.flag false) else t

/-- Reads the type of a column of a table; a name that is no type stands for a type of that name. -/
def columnType? : Parsing (Option Tree) := do
  let f ← features
  return (← plainType? true false).map (understood f)

/-- Reads a type. With `named`, a name that is no type stands for a type of that name; with
`beforeText`, a type with sizes counts only if a text follows, since it may be a call. -/
def dataType? (named beforeText : Bool) : Parsing (Option Tree) := do
  let f ← features
  return (← plainType? named beforeText).map fun t =>
    match t.field? "this" with
    | some (.typeName s) =>
      if f.has .unboundedTexts && (s == "VARCHAR" || s == "CHAR") then typeNode .TEXT none
      else understood f t
    | _ => understood f t

/-- Reads an alias after an expression, or only one that is announced by a word. Where the
expression has no comments, those of what it names move to it. -/
def aliased (announced : Bool) (this : Option Tree) : Parsing (Option Tree) := do
  let marked ← accept .ALIAS
  let comments := (← get).waiting
  if announced && !marked then return this
  match ← name? marked TokenKind.isName with
  | none => return this
  | some name =>
    let own := comments ++ name.comments
    let inner := this.getD .absent
    let t ← finishWith own
      (.of .aliasOf [("this", inner), ("alias", name.withComments [])])
    if t.comments.isEmpty && !inner.comments.isEmpty then
      return some ((t.set "this" (inner.withComments [])).withComments inner.comments)
    else return some t

end Parsing
end Sql
end SqlDialects
