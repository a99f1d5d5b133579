import SqlDialects.Sql.Printer.Calls
import SqlDialects.Sql.Rewriting.Conditions
import SqlDialects.Sql.Tree.Walk
import SqlDialects.Value.Display

/-!
# Writing expressions

Names, literals, types, calls, and the operators between them.

**Rules.**
* A quote inside a name or a text is escaped as the dialect escapes it. Words that a dialect
  reserves are in quotes.
* Where a dialect takes a quotient of integers to be an integer, an exact quotient is written with a
  conversion; where it rejects division by zero, a safe quotient is written with a divisor that may
  be null.
* Where two bars do not join texts, a call or a plus sign does.
* Where truth values are numbers, they are written as numbers among values and as comparisons among
  conditions.

**Results.**
* `Pen.term?` writes an expression; it is `none` for nodes that are no expressions.
-/

namespace SqlDialects
namespace Sql

/-- A name with every closing quote escaped. -/
def escapedQuotes (f : Features) (s : String) : String :=
  String.ofList (s.toList.flatMap fun c =>
    if c = f.writtenQuotes.2 then [f.nameEscape.getD c, c] else [c])

/-- A name between quotes. -/
def quotedName (f : Features) (s : String) : String :=
  f.writtenQuotes.1.toString ++ escapedQuotes f s ++ f.writtenQuotes.2.toString

/-- The letter that stands for a character after a backslash. -/
def sequenceLetter? : Char → Option Char
  | '\x07' => some 'a'
  | '\x08' => some 'b'
  | '\x0c' => some 'f'
  | '\n' => some 'n'
  | '\r' => some 'r'
  | '\t' => some 't'
  | '\x0b' => some 'v'
  | '\\' => some '\\'
  | _ => none

/-- How a character is written by its number. -/
def numbered? : Char → Option String
  | '\x07' => some "\\x07"
  | '\x0b' => some "\\x0b"
  | _ => none

/-- A character inside a text. -/
def textChar (f : Features) (c : Char) : List Char :=
  if c = '\'' then [f.escapes.headD '\'', c]
  else if !f.hasBackslash then [c]
  else
    match if f.has .numberedControls then numbered? c else none, sequenceLetter? c with
    | some code, _ => code.toList
    | none, some l => ['\\', l]
    | none, none => [c]

/-- A text between quotes. -/
def quotedLiteral (f : Features) (s : String) : String :=
  String.ofList ('\'' :: s.toList.flatMap (textChar f) ++ ['\''])

namespace Pen

open Writing

/-- The operators by the kinds of their nodes. -/
def operators : List (Kind × String) :=
  [(.add, "+"), (.bitwiseAnd, "&"), (.bitwiseOr, "|"), (.bitwiseXor, "^"), (.collate, "COLLATE"),
    (.eq, "="), (.escape, "ESCAPE"), (.gt, ">"), (.gte, ">="),
    (.isValue, "IS"), (.lt, "<"), (.lte, "<="), (.mod, "%"),
    (.mul, "*"), (.neq, "<>"), (.nullSafeEq, "IS NOT DISTINCT FROM"),
    (.propertyEq, ":="), (.sub, "-")]

/-- The words that connect conditions. -/
def connectors : List (Kind × String) :=
  [(.both, "AND"), (.either, "OR"), (.exclusive, "XOR")]

/-- The pieces of a chain of connectors as layouts: every connector stands before its condition. -/
def connected : List (Bool × Layout) → List Layout
  | [] => []
  | (true, word) :: (false, l) :: ls => (word ++ .ofText " " ++ l) :: connected ls
  | (_, l) :: ls => l :: connected ls

/-- Writes conditions with connectors between them. -/
def connector (g : Pen) (t : Tree) : Writing Layout := do
  let isConnector (k : Kind) : Bool := (connectors.lookup k).isSome
  let ls ← (pieces isConnector t).mapM fun piece =>
    match piece with
    | .operand t => return (false, ← g.write t)
    | .operator k cs =>
      return (true, Remark.after cs (.ofText ((connectors.lookup k).getD "")))
  let ls := connected ls
  return .join (if ← tooWide ls then .newline else .ofText " ") ls

/-- A tree that is null where it would be zero. -/
def nullIfZero (t : Tree) : Tree :=
  .of (.function .nullif) [("this", t), ("expression", .number 0)]

/-- Writes a quotient, which keeps its meaning in another dialect. -/
def quotient (g : Pen) (t : Tree) : Writing Layout := do
  let f ← features
  for name in ["this", "expression"] do
    if (t.field? name).isNone then throw (.missingField name)
  let left := Tree.ofOption (t.field? "this")
  let right := Tree.ofOption (t.field? "expression")
  let divisor := if !f.has .safeDivision && t.holds "safe" then nullIfZero right else right
  let typed := t.holds "typed"
  let real := left.isCastTo DataType.reals || right.isCastTo DataType.reals
  let whole := left.isCastTo DataType.integers && right.isCastTo DataType.integers
  if f.has .typedDivision && !typed && !real then
    binary g "/" ((t.set "this" (left.castTo "DOUBLE")).set "expression" divisor)
  else if !f.has .typedDivision && typed && whole then
    if f.has .dividesByCall then g.call "DIV" [left, right]
    else g.write (Tree.castTo "BIGINT" (.operation .div left right))
  else binary g "/" (t.set "expression" divisor)

/-- Writes a quotient of integers: a call, an operator, or a quotient that is converted. -/
def wholeQuotient (g : Pen) (t : Tree) : Writing Layout := do
  let f ← features
  let operands := ["this", "expression"].filterMap fun n => t.field? n
  let quotient :=
    Tree.operation .div (.ofOption (t.field? "this")) (.ofOption (t.field? "expression"))
  match f.callNames.lookup .intDiv, f.operatorNames.lookup .intDiv with
  | some name, _ =>
    g.call name (if f.has .bareArguments then operands.map Tree.unparen else operands)
  | none, some word => binary g word t
  | none, none =>
    if f.has .roundsCasts then g.write ((plainCall "TRUNC" [quotient]).castTo "INT")
    else g.write (quotient.castTo "BIGINT")

/-- What kind of data stands in place of the text of a literal. -/
def contentKind : Tree → String
  | .scalar v => (Value.ofJson v).kindName
  | .many _ => "list"
  | .typeName _ => "DType"
  | .node k _ _ _ => k.name

/-- The text of data that stand in place of the text of a literal. -/
def contentText : Tree → String
  | .scalar v => (Value.ofJson v).display
  | _ => ""

/-- Writes a literal. -/
def literal (t : Tree) : Writing Layout := do
  match t.field? "is_string" with
  | none => throw (.missingField "is_string")
  | some _ =>
    let f ← features
    let quoted := t.holds "is_string"
    match (t.field? "this").filter Tree.isTrue with
    | none => put (if quoted then quotedLiteral f "" else "")
    | some (.scalar (.text s)) => put (if quoted then quotedLiteral f s else s)
    | some u =>
      let whole := (← ancestors).isEmpty
      if quoted then throw (.notText (contentKind u) "replace")
      else if whole then throw (.notText (contentKind u) "strip")
      else put (contentText u)

/-- The value of a hexadecimal digit. -/
def digitValue (c : Char) : Nat :=
  if c.isDigit then c.toNat - '0'.toNat else (c.toLower.toNat - 'a'.toNat) + 10

/-- The number that hexadecimal digits stand for. -/
def hexValue (s : String) : Nat :=
  s.toList.foldl (fun n c => 16 * n + digitValue c) 0

/-- Writes a hexadecimal number: the bytes, or the integer if the dialect it comes from takes it for
one. -/
def hexString (t : Tree) : Writing Layout := do
  let f ← features
  let digits := (t.text? "this").getD ""
  let whole := t.holds "is_integer"
  match f.callNames.lookup .hexString, f.hexMarks.head? with
  | some name, marks =>
    if !whole then put (name ++ "(" ++ quotedLiteral f digits ++ ")")
    else
      match marks.filter fun _ => f.has .hexIntegers with
      | some (opening, close) => put (opening ++ digits ++ close)
      | none => put (toString (hexValue digits))
  | none, some (opening, close) =>
    if whole && !f.has .hexIntegers then put (toString (hexValue digits))
    else
      if !whole && f.has .hexIntegers then
        unsupported "Unsupported transpilation from BINARY/BLOB hex string"
      put (opening ++ digits ++ close)
  | none, none => put (toString (hexValue digits))

/-- Writes a name. A closing quote in it is escaped even if it is in no quotes. -/
def identifier (t : Tree) : Writing Layout := do
  let s := t.name
  let f ← features
  let startsWithDigit := (s.toList.head?.map Char.isDigit).getD false
  let quoted := t.holds "quoted" || f.reserved.contains (Text.lower s)
    || (startsWithDigit && !f.has .digitNames)
  let mark := if f.has .batches && t.holds "temporary" then "#" else ""
  put (mark ++ if quoted then quotedName f s else escapedQuotes f s)

/-- Writes the parts of a qualified name. -/
def path (g : Pen) (parts : List String) (t : Tree) : Writing Layout := do
  let ls ← (parts.filterMap fun p => t.field? p).mapM g.write
  return .join (.ofText ".") ls

/-- The name of a type in a dialect, which may depend on whether there is a size. -/
def typeText (f : Features) (sized : Bool) (s : String) : String :=
  match if sized then none else f.sizelessNames.lookup s with
  | some name => name
  | none => (f.typeNames.lookup s).getD s

/-- Whether a type is marked as one that may hold nulls. -/
def isMarkedNullable (f : Features) (t : Tree) : Bool :=
  f.has .marksNullable && ((t.field? "nullable").isNone || t.holds "nullable")

/-- The size of a type as a number, if it has one. -/
def sizeOf? (t : Tree) : Option Nat :=
  (t.items "expressions").head?.bind fun p => p.name.toNat?

/-- A time with a size, which is small. -/
def withTimeSize (t : Tree) : Tree :=
  let size := min ((sizeOf? t).getD smallestUnit) smallestUnit
  t.set "expressions" (.many [.of .dataTypeParam [("this", .number size)]])
where
  /-- How many digits the seconds of a time may have at most. -/
  smallestUnit : Nat := 6

/-- A type of texts or numbers as a dialect has it in which sizes make other types. -/
def resized (s : String) (t : Tree) : Tree :=
  let sizes := t.items "expressions"
  let bare (name : String) : Tree := (t.drop "expressions").set "this" (.typeName name)
  if sizes.isEmpty then t
  else if s == "TEXT" then t.set "this" (.typeName "VARCHAR")
  else if DataType.sizedTexts.contains s && (sizes.head?.map Tree.name) == some "MAX" then
    bare "TEXT"
  else if s == "FLOAT" then
    bare (if ((sizeOf? t).getD 0) ≤ DataType.floatBits then "FLOAT" else "DOUBLE")
  else t

/-- A type as the dialect has it: with a size or without one. -/
def fitted (f : Features) (s : String) (t : Tree) : Tree :=
  let isTime := DataType.times.contains s
  let t := if f.has .sizedTexts then resized s t else t
  let t := if f.has .sizelessTimes && isTime then t.drop "expressions" else t
  if f.has .sizedTimes && isTime && s != "DATE" then withTimeSize t else t

/-- What is said of a type after its name and its sizes. -/
def typeRemark (f : Features) (s : String) : String :=
  if f.has .zoneWords && DataType.zonedTimes.contains s then " WITH TIME ZONE"
  else if f.has .unsignedWords && DataType.unsigned.contains s then " UNSIGNED"
  else ""

/-- Writes a type that has a name of its own. -/
def namedType (g : Pen) (s : String) (t : Tree) : Writing Layout := do
  let f ← features
  if f.has .noZones && (s == "TIMESTAMPTZ" || s == "TIMESTAMPLTZ") then
    unsupported "Dremio does not support time-zone-aware TIMESTAMP"
    return .ofText "TIMESTAMP"
  let t := fitted f s t
  let s :=
    match t.field? "this" with
    | some (.typeName s) => s
    | _ => s
  let sizes ← g.flat ", " (t.items "expressions")
  let inexact := f.has .sizedFloats && (s == "FLOAT" || s == "DOUBLE")
  let name := if inexact && !sizes.isEmpty then "FLOAT" else typeText f (!sizes.isEmpty) s
  let l :=
    if sizes.isEmpty || f.sizelessTypes.contains name then .ofText name
    else .ofText (name ++ "(") ++ sizes ++ .ofText ")"
  return l ++ .ofText (typeRemark f s)

/-- Writes a type. -/
def dataType (g : Pen) (t : Tree) : Writing Layout := do
  let f ← features
  let l ←
    match t.field? "this", t.text? "kind" with
    | some (.typeName "USER-DEFINED"), some s => put s
    | some (.typeName s), _ => namedType g s t
    | _, _ => do
      let sizes ← g.flat ", " (t.items "expressions")
      let name ← g.field "this" t
      pure (if sizes.isEmpty then name else name ++ .ofText "(" ++ sizes ++ .ofText ")")
  return if isMarkedNullable f t then .ofText "Nullable(" ++ l ++ .ofText ")" else l

/-- A conversion with the type that the dialect converts to in place of its own. -/
def convertible (f : Features) (t : Tree) : Tree :=
  match t.field? "to", t.castType? with
  | some target, some s =>
    match f.castNames.lookup s with
    | some s' => t.set "to" (target.set "this" (.typeName s'))
    | none => t
  | _, _ => t

/-- A tree whose types have no sizes. -/
def withoutSizes (t : Tree) : Tree :=
  t.adjust fun u => if u.isA .dataType then u.drop "expressions" else u

/-- Writes a conversion as a call or with an operator. -/
def convertedBy (g : Pen) (operator : Option String) (start : String) (t : Tree) :
    Writing Layout := do
  let t := convertible (← features) t
  let value ← g.field "this" t
  match operator with
  | some word => return value ++ (← g.fieldAfter word "to" t)
  | none =>
    return .ofText (start ++ "CAST(") ++ value ++ .ofText " AS" ++ (← g.fieldAfter " " "to" t)
      ++ .ofText ")"

/-- The call that a conversion to a type is in a dialect, if it is one. -/
def conversionCall? (f : Features) (s : String) : Option String :=
  if f.has .callsForDates && (s == "DATE" || s == "TIME") then some s
  else if f.has .callsForZones && (s == "TIMESTAMPTZ" || s == "TIMESTAMPLTZ") then some "TIMESTAMP"
  else none

/-- Writes a conversion. -/
def conversion (g : Pen) (t : Tree) : Writing Layout := do
  let f ← features
  let value := (t.field? "this").toList
  match t.castType?.bind (conversionCall? f), t.castType? with
  | some name, _ => g.call name value
  | none, some "JSON" => if f.has .noJsonCasts then g.field "this" t else written g f
  | none, _ => written g f
where
  /-- Writes the conversion as one. -/
  written (g : Pen) (f : Features) : Writing Layout :=
    convertedBy g f.castOperator ""
      (if f.has .sizelessCasts && t.isA .cast then withoutSizes t else t)

/-- A conversion whose type may hold nulls. -/
def nullableConversion (t : Tree) : Tree :=
  match t.field? "to" with
  | some target => t.set "to" (target.set "nullable" (.flag true))
  | none => t

/-- Writes a conversion that may fail. -/
def tryConversion (g : Pen) (t : Tree) : Writing Layout := do
  match (← features).tryCast with
  | .word start => convertedBy g none start t
  | .announced start => convertedBy g none (if t.holds "safe" then start else "") t
  | .plain => conversion g t
  | .ofTexts =>
    let ofText := t.holds "requires_string" || (t.field? "this").any Tree.isText
    convertedBy g none (if ofText then "TRY_" else "") t
  | .operator word => convertedBy g (some word) "" t
  | .nullable => conversion g (nullableConversion t)

/-- Writes a case distinction. -/
def caseDistinction (g : Pen) (t : Tree) : Writing Layout := do
  let head := .ofText "CASE" ++ (← g.fieldAfter " " "this" t)
  let branches ← (t.items "ifs").mapM fun b => do
    return [.ofText "WHEN " ++ (← g.field "this" b), .ofText "THEN " ++ (← g.field "true" b)]
  let default ← g.fieldAfter "ELSE " "default" t
  let ls := head :: branches.flatten ++ (if default.isEmpty then [] else [default])
    ++ [.ofText "END"]
  if ← tooWide ls then indentedInner (.join .newline ls)
  else return .join (.ofText " ") ls

/-- Writes a comparison with a list, a query or a column. -/
def membership (g : Pen) (t : Tree) : Writing Layout := do
  let among ←
    if t.holds "query" then g.field "query" t
    else if t.holds "field" then g.field "field" t
    else pure (.ofText "(" ++ (← g.folded (t.items "expressions")) ++ .ofText ")")
  return (← g.field "this" t) ++ .ofText " IN " ++ among

/-- Writes the frame of a window. -/
def frame (g : Pen) (t : Tree) : Writing Layout := do
  let bound (distance side : String) : Writing Layout := do
    let ls ← [distance, side].mapM fun n => g.field n t
    return .join (.ofText " ") (ls.filter fun l => !l.isEmpty)
  let last ← bound "end" "end_side"
  return (← g.field "kind" t) ++ .ofText " BETWEEN " ++ (← bound "start" "start_side")
    ++ .ofText " AND " ++ (if last.isEmpty then .ofText "CURRENT ROW" else last)

/-- Writes a call that sums up the rows that meet a condition. Where rows cannot be picked after the
call, its argument is null for the others. -/
def pickedRows (g : Pen) (t : Tree) : Writing Layout := do
  let call := Tree.ofOption (t.field? "this")
  match if (← features).has .noFilters then call.field? "this" else none with
  | some value =>
    let test := (t.field? "expression").bind fun w => w.field? "this"
    g.write (call.set "this" (.of .ifThen [("this", .ofOption test), ("true", value)]))
  | none =>
    let rows ← g.field "expression" t
    return (← g.write call) ++ .ofText (" FILTER(" ++ rows.trimmed ++ ")")

/-- Writes a window over a call, or one with a name. -/
def window (g : Pen) (t : Tree) : Writing Layout := do
  let isNamed := (t.field? "this").any fun u => u.isA .identifier
  let overWord := if isNamed then "AS" else (t.text? "over").getD "OVER"
  let call := (← g.field "this" t) ++ .ofText (" " ++ overWord)
  let base ← g.field "alias" t
  let keys ← g.flat ", " (t.items "partition_by")
  let partition := if keys.isEmpty then .empty else .ofText "PARTITION BY " ++ keys
  let order ←
    match t.field? "order" with
    | none => pure .empty
    | some o => pure (.ofText "ORDER BY " ++ (← g.flat ", " (o.items "expressions")))
  let rows ← g.field "spec" t
  if partition.isEmpty && order.isEmpty && rows.isEmpty && !base.isEmpty then
    return call ++ .ofText " " ++ base
  else
    let parts := [base, partition, order, rows].filter fun l => !l.isEmpty
    return call ++ .ofText " (" ++ (← arguments " " parts) ++ .ofText ")"

/-- How an order says where nulls stand, if the dialect would put them elsewhere. -/
def nullsWords (f : Features) (descending first : Bool) : String :=
  let early :=
    match f.nulls with
    | .small => !descending
    | .large => descending
    | .last => false
  if first == early then "" else if first then " NULLS FIRST" else " NULLS LAST"

/-- Functions over windows whose order may say where nulls stand in any dialect that has them. -/
def ranking : List Function :=
  [.cumeDist, .denseRank, .firstValue, .lag, .lastValue, .lead, .ntile, .percentRank, .rank,
    .rowNumber]

/-- The function that a call over a window calls. -/
def windowFunction? (t : Tree) : Option Function :=
  match (t.field? "this").bind Tree.kind? with
  | some (.function f) => some f
  | _ => none

/-- The call that sums up rows around an order, if that is what is around it. -/
def summing? : Writing (Option Function) := do
  let isSummary (k : Kind) : Bool :=
    match k with
    | .function f => f.isAggregate && f != .rowNumber
    | k => k == .window || k == .select
  match ← enclosing? isSummary with
  | none => return none
  | some t =>
    match t.kind? with
    | some (.function f) => return some f
    | some .window =>
      return (windowFunction? t).filter fun f => f.isAggregate && !ranking.contains f
    | _ => return none

/-- Writes an expression that rows are ordered by. Where an order cannot say where nulls stand, rows
are first ordered by whether the expression is null. -/
def ordered (g : Pen) (t : Tree) : Writing Layout := do
  let f ← features
  let this ← g.field "this" t
  let descending := t.holds "desc"
  let direction :=
    if descending then " DESC" else if (t.data? "desc").isSome then " ASC" else ""
  let nulls := nullsWords f descending (t.holds "nulls_first")
  let plain := this ++ .ofText direction
  let what := "'" ++ String.ofList (nulls.toList.drop 1) ++ "' translation not supported "
  if nulls.isEmpty then return plain
  match f.nullClause with
  | .written => return plain ++ .ofText nulls
  | .limited =>
    let against := (nulls == " NULLS FIRST") == descending
    match (← summing?).filter fun _ => against with
    | some function =>
      unsupported (what ++ "for aggregate function " ++ function.spelling ++ " with " ++ direction
        ++ " sort order")
      return plain
    | none => return plain ++ .ofText nulls
  | .simulated =>
    if (t.field? "this").any Rewriting.isInteger then
      unsupported (what ++ "with positional ordering")
      return plain
    else if (t.field? "this").any (Tree.isA (.function .rand)) then return plain
    else
      let way := if nulls == " NULLS FIRST" then " DESC" else ""
      return .ofText "CASE WHEN " ++ this
        ++ .ofText (" IS NULL THEN 1 ELSE 0 END" ++ way ++ ", ") ++ plain

/-- Writes a sign before an operand; signs are set apart. -/
def negative (g : Pen) (t : Tree) : Writing Layout := do
  let this ← g.field "this" t
  match this.text.toList with
  | [] => throw .emptyOperand
  | c :: _ => return .ofText (if c = '-' then "- " else "-") ++ this

/-- Where a truth value is a plain value. -/
def valuePlaces : List Kind :=
  [.eq, .neq, .isValue, .inList, .select, .aliasOf]

/-- Writes a truth value. -/
def boolean (t : Tree) : Writing Layout := do
  let holds := t.holds "this"
  if (← features).has .numericTruth then
    let parent ← parentKind?
    let rows := (← enclosing? fun k => k == .values || k == .select).any fun u => u.isA .values
    if rows || parent.any valuePlaces.contains then put (if holds then "1" else "0")
    else put (if holds then "(1 = 1)" else "(1 = 0)")
  else put (if holds then "TRUE" else "FALSE")

/-- Writes a test for a value. -/
def identity (g : Pen) (t : Tree) : Writing Layout := do
  let value := t.field? "expression"
  match (← features).truthTest, value.any fun u => u.isA .boolean with
  | .omitted, true =>
    let this := Tree.ofOption (t.field? "this")
    if value.any fun u => u.holds "this" then g.write this else g.write (.negation this)
  | .compared, true => binary g "=" t
  | _, _ => binary g "IS" t

/-- Writes a negation. -/
def negated (g : Pen) (t : Tree) : Writing Layout := do
  let f ← features
  let enclosed := f.has .parenthesizedTests
    && (t.field? "this").any fun u => u.isA .isValue || u.isA .inList
  let t := if enclosed then t.set "this" (.paren (.ofOption (t.field? "this"))) else t
  return .ofText "NOT " ++ (← g.field "this" t)

/-- Writes distinct values. Several expressions are one row where only one value can be taken, which
is null if one of them is. -/
def distinctValues (g : Pen) (t : Tree) : Writing Layout := do
  let items := t.items "expressions"
  let isNull (u : Tree) : Tree :=
    .of .ifThen [("this", .operation .isValue (.parenIf Kind.isBinary u) .null), ("true", .null)]
  let keys ←
    if items.length > 1 && (← features).has .singleDistinct then
      g.write (.of .caseOf [("ifs", .many (items.map isNull)),
        ("default", .of .tuple [("expressions", .many items)])])
    else g.flat ", " items
  return if keys.isEmpty then .ofText "DISTINCT" else .ofText "DISTINCT " ++ keys

/-- Writes a choice between two values. -/
def choice (g : Pen) (t : Tree) : Writing Layout := do
  let other := t.field? "false"
  match (← features).choice with
  | .cases =>
    caseDistinction g (.of .caseOf [("ifs", .many [t]), ("default", .ofOption other)])
  | .words last =>
    return .ofText "IF " ++ (← g.field "this" t) ++ .ofText " THEN " ++ (← g.field "true" t)
      ++ .ofText " ELSE " ++ (← g.field "false" t) ++ .ofText (" " ++ last)
  | .call name default =>
    let default := if default.isEmpty then none else some (Tree.text default)
    g.call name ((t.field? "this").toList ++ (t.field? "true").toList
      ++ (other <|> default).toList)

/-- A comparison with a pattern that minds case, in place of one that does not. -/
def lowered (t : Tree) : Tree :=
  let lower (name : String) : Tree :=
    .of (.function .lower) [("this", .ofOption (t.field? name))]
  (Tree.operation .like (lower "this") (lower "expression")).set "negate"
    (.ofOption (t.field? "negate"))

/-- Writes an operator between two operands, or the call that stands for it. -/
def operation (g : Pen) (k : Kind) (word : String) (t : Tree) : Writing Layout := do
  let f ← features
  match f.callNames.lookup k with
  | some name =>
    let args := ["this", "expression"].filterMap fun n => t.field? n
    g.call name (if f.has .bareArguments then args.map Tree.unparen else args)
  | none => binary g ((f.operatorNames.lookup k).getD word) t

/-- Writes that two values differ, where null is equal to null only: the negation of a sign for
equality where there is such a sign and no word. -/
def difference (g : Pen) (word : String) (t : Tree) : Writing Layout := do
  let names := (← features).operatorNames
  match names.lookup .nullSafeNeq, names.lookup .nullSafeEq with
  | some own, _ => binary g own t
  | none, some sign => return .ofText "NOT " ++ (← binary g sign t)
  | none, none => binary g word t

/-- A regular expression that matches whole texts in place of one that matches parts of them. -/
def wholePattern (t : Tree) : Tree :=
  match t.field? "expression" with
  | none => t
  | some e =>
    let anything := ".*"
    if e.isA .literal && e.holds "is_string" then
      t.set "expression" (.string (anything ++ (e.text? "this").getD "" ++ anything))
    else
      t.set "expression" (plainCall "CONCAT" [.string anything, e, .string anything])

/-- Writes a comparison with a regular expression, which is a call in most dialects. -/
def regularMatch (g : Pen) (t : Tree) : Writing Layout := do
  let t := if (← features).has .wholeMatches then wholePattern t else t
  match (← features).operatorNames.lookup .regexpLike with
  | some word => binary g word t
  | none =>
    let name := ((← features).callNames.lookup .regexpLike).getD "REGEXP_LIKE"
    g.call name (["this", "expression", "flag"].filterMap fun n => t.field? n)

/-- Writes a comparison with a pattern, which may say that it is negated. -/
def likeness (g : Pen) (k : Kind) (word : String) (t : Tree) : Writing Layout := do
  let f ← features
  let front := if t.holds "negate" then "NOT " else ""
  match f.callNames.lookup k with
  | some _ => return .ofText front ++ (← operation g k word t)
  | none => binary g (front ++ word) t

/-- Writes what stands after a dot. A call after a dot keeps its spelling. -/
def member (g : Pen) (t : Tree) : Writing Layout := do
  match (t.field? "expression").filter fun u => u.isA .anonymous with
  | some u => Remark.around u (← inside u (otherCallAs g true u))
  | none => g.field "expression" t

/-- Writes an expression. -/
def term? (g : Pen) (t : Tree) (k : Kind) : Option (Writing Layout) :=
  match k with
  | .literal => some (literal t)
  | .identifier => some (identifier t)
  | .var => some (g.field "this" t)
  | .star => some (put "*")
  | .null => some (put "NULL")
  | .boolean => some (boolean t)
  | .column => some (path g ["catalog", "db", "table", "this"] t)
  | .dot => some do return (← g.field "this" t) ++ .ofText "." ++ (← member g t)
  | .aliasOf => some do return (← g.field "this" t) ++ (← g.fieldAfter " AS " "alias" t)
  | .paren => some do parenthesized (← g.field "this" t)
  | .tuple => some do
    return .ofText "(" ++ (← g.folded (t.items "expressions")) ++ .ofText ")"
  | .negation => some (negated g t)
  | .neg => some (negative g t)
  | .bitwiseNot => some do
    match (← features).callNames.lookup .bitwiseNot with
    | some name => g.call name (t.field? "this").toList
    | none => return .ofText "~" ++ (← g.field "this" t)
  | .between => some do
    return (← g.field "this" t) ++ .ofText " BETWEEN " ++ (← g.field "low" t) ++ .ofText " AND "
      ++ (← g.field "high" t)
  | .inList => some (membership g t)
  | .div => some (quotient g t)
  | .dpipe => some (joinedTexts g t)
  | .isValue => some (identity g t)
  | .like => some (likeness g .like "LIKE" t)
  | .ilike => some do
    if (← features).has .caseSensitivePatterns then likeness g .like "LIKE" (lowered t)
    else likeness g .ilike "ILIKE" t
  | .intDiv => some (wholeQuotient g t)
  | .hexString => some (hexString t)
  | .struct => some (g.call "STRUCT" (t.items "expressions"))
  | .regexpLike => some (regularMatch g t)
  | .nullSafeNeq => some (difference g "IS DISTINCT FROM" t)
  | .both | .either | .exclusive => some (connector g t)
  | .caseOf => some (caseDistinction g t)
  | .ifThen => some (choice g t)
  | .cast => some (conversion g t)
  | .tryCast => some (tryConversion g t)
  | .dataType => some (dataType g t)
  | .dataTypeParam => some (g.field "this" t)
  | .distinct => some (distinctValues g t)
  | .array => some (g.call "ARRAY" (t.items "expressions"))
  | .bracket => some do
    return (← g.field "this" t) ++ .ofText "[" ++ (← g.flat ", " (t.items "expressions"))
      ++ .ofText "]"
  | .window => some (window g t)
  | .windowSpec => some (frame g t)
  | .filter => some (pickedRows g t)
  | .ordered => some (ordered g t)
  | .anonymous => some (otherCall g t)
  | .function f => some (functionCall g f t)
  | k => (operators.lookup k).map fun word => operation g k word t

end Pen
end Sql
end SqlDialects
