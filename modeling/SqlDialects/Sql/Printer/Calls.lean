import SqlDialects.Sql.Printer.Basic
import SqlDialects.Sql.Tree.Build
import SqlDialects.Sql.Tree.DataType

/-!
# Writing calls

Calls of functions, whose names and forms differ from dialect to dialect.

**Rules.**
* A function has a name of its own in every dialect. In some dialects it is an operator, a word, or
  a call of another function instead.
* Where functions keep the names they were called by, these are written unless the dialect knows
  only one name.
* Texts are joined by a call, by two bars, or by a plus sign.

**Results.**
* `Pen.functionCall` writes a call of a function with a kind of its own, and `Pen.otherCall` any
  other call.
* `Pen.joinedTexts` writes texts that are joined by an operator.
-/

namespace SqlDialects
namespace Sql
namespace Pen

open Writing

/-- A call of a function that has no kind of its own. -/
def plainCall (name : String) (args : List Tree) : Tree :=
  .of .anonymous [("this", .text name), ("expressions", .many args)]

/-- The operands of a chain of operators of a kind. Parentheses around an operand are left out. -/
def operandsOf (k : Kind) (t : Tree) : List Tree :=
  (pieces (· == k) t).filterMap fun piece =>
    match piece with
    | .operand t => some t.unparen
    | .operator _ _ => none

/-- Writes texts that are joined. -/
def joinedTexts (g : Pen) (t : Tree) : Writing Layout := do
  match (← features).textJoin with
  | .bars => binary g "||" t
  | .plus => binary g "+" t
  | .call => g.call "CONCAT" (operandsOf .dpipe t)
  | .strictCall =>
    if t.holds "safe" then g.call "CONCAT" ((operandsOf .dpipe t).map Tree.asText)
    else binary g "||" t

/-- Texts that are joined by operators. -/
def chained : List Tree → Tree
  | [] => .absent
  | t :: ts => ts.foldl (fun u v => .operation .dpipe u v) t

/-- A text that is empty in place of null. -/
def filled (t : Tree) : Tree :=
  if t.isA .literal && t.holds "is_string" then t
  else .of (.function .coalesce) [("this", t), ("expressions", .many [.string ""])]

/-- The arguments of a call that joins texts, converted so that the call means the same. -/
def textArguments (f : Features) (t : Tree) : List Tree :=
  let args := t.items "expressions"
  let args := if f.has .joinsTextsOnly && t.holds "safe" then args.map Tree.asText else args
  if !f.has .nullsAreEmpty && t.holds "coalesce" then args.map filled else args

/-- Writes a call that joins texts. -/
def textCall (g : Pen) (t : Tree) : Writing Layout := do
  let f ← features
  let args := t.items "expressions"
  if f.has .barsForConcat || (f.has .nullsAreEmpty && !t.holds "coalesce") then
    g.write (chained args)
  else
    match textArguments f t with
    | [u] => if f.has .noSingleConcat then g.write u else g.call "CONCAT" [u]
    | us => g.call "CONCAT" us

/-- Whether a value is null. -/
def isNull (t : Tree) : Tree :=
  .operation .isValue (.parenIf Kind.isBinary t) .null

/-- A value that is null if one of some values is. -/
def unlessNull (values : List Tree) (t : Tree) : Tree :=
  match values.map isNull with
  | [] => t
  | test :: tests =>
    let test := tests.foldl (fun u v => .operation .either u v) test
    .of .caseOf [("ifs", .many [.of .ifThen [("this", test), ("true", .null)]]), ("default", t)]

/-- Writes a call that joins texts with a text between them, where nulls are to be treated as the
dialect treats them. -/
def plainSeparatedCall (g : Pen) (t : Tree) : Writing Layout := do
  let f ← features
  let args := t.items "expressions"
  let texts := if f.has .joinsTextsOnly && t.holds "safe" then args.map Tree.asText else args
  let texts := if !f.has .skipsNulls && t.holds "coalesce" then texts.map filled else texts
  g.call "CONCAT_WS" (args.take 1 ++ texts.drop 1)

/-- Writes a call that joins texts with a text between them. -/
def separatedTextCall (g : Pen) (t : Tree) : Writing Layout := do
  let f ← features
  match f.has .barsForSeparators, t.items "expressions" with
  | true, between :: first :: more =>
    g.write (more.foldl (fun u v => .operation .dpipe u (.operation .dpipe between v)) first)
  | _, args =>
    if f.has .skipsNulls && !t.holds "coalesce" then
      g.write (unlessNull args (t.set "coalesce" (.flag true)))
    else plainSeparatedCall g t

/-- The arguments of a call of a function with a kind of its own. -/
def callArguments (function : Function) (t : Tree) : List Tree :=
  function.signature.fields.flatMap fun (name, _) =>
    match t.field? name with
    | some (.many ts) => ts
    | some (.scalar (.bool _)) => []
    | some v => [v]
    | none => []

/-- The name of a call of a function that has only one name in a dialect. -/
def fixedName? (f : Features) (function : Function) (t : Tree) : Option String :=
  let several := t.holds "expressions"
  match function with
  | .count => if f.has .largeCounts && t.holds "big_int" then some "COUNT_BIG" else named
  | .max => if f.has .scalarExtremes then some (if several then "GREATEST" else "MAX") else named
  | .min => if f.has .scalarExtremes then some (if several then "LEAST" else "MIN") else named
  | .length => if f.has .byteLengths && t.holds "binary" then some "LENGTH" else named
  | _ => named
where
  /-- The name in the dialect's own list. -/
  named : Option String :=
    f.callNames.lookup (.function function)

/-- The name of a call of a function in a dialect. -/
def callName (f : Features) (function : Function) (t : Tree) : String :=
  let kept := if f.has .keepsNames then t.origin?.bind Origin.spelling else none
  (fixedName? f function t <|> kept).getD function.spelling

/-- The start of a text as a part of it. -/
def startPart (t : Tree) : Tree :=
  .of (.function .substring) [("this", .ofOption (t.field? "this")), ("start", .number 1),
    ("length", .ofOption (t.field? "expression"))]

/-- The end of a text as a part of it. -/
def endPart (t : Tree) : Tree :=
  let this := Tree.ofOption (t.field? "this")
  let count := Tree.parenIf Kind.isBinary (.ofOption (t.field? "expression"))
  .of (.function .substring) [("this", this),
    ("start", .operation .sub (.of (.function .length) [("this", this)])
      (.paren (.operation .sub count (.number 1))))]

/-- A choice by whether a value is null. -/
def nullChoice (t : Tree) : Tree :=
  let isSet := Tree.negation (.operation .isValue
    (.parenIf Kind.isBinary (.ofOption (t.field? "this"))) .null)
  .of .caseOf [("ifs", .many [.of .ifThen
      [("this", isSet), ("true", .ofOption (t.field? "true"))]]),
    ("default", .ofOption (t.field? "false"))]

/-- A count of rows that meet a condition as a count of values that are null for the others. -/
def conditionCount (t : Tree) : Tree :=
  .of (.function .count) [("this", .of .ifThen
    [("this", .ofOption (t.field? "this")), ("true", .number 1), ("false", .null)])]

/-- A count of rows that meet a condition as a sum. -/
def conditionSum (t : Tree) : Tree :=
  let test := Tree.ofOption (t.field? "this")
  .of (.function .sum) [("this", .of .ifThen
    [("this", test), ("true", .number 1), ("false", .number 0)])]

/-- A part of a date that is taken out of it. -/
def extracted (part : String) (t : Tree) : Tree :=
  .of (.function .extract) [("this", .of .var [("this", .text part)]),
    ("expression", .ofOption (t.field? "this"))]

/-- Values one after another, each with all others after it in a circle. -/
def rotations (ts : List Tree) : List (List Tree) :=
  (List.range ts.length).map fun n => ts.drop n ++ ts.take n

/-- A value that is the first of some that is not null. -/
def firstSet : List Tree → Tree
  | [] => .absent
  | t :: ts => .of (.function .coalesce) [("this", t), ("expressions", .many ts)]

/-- The values that the greatest or the least is taken of. -/
def extremeValues (t : Tree) : List Tree :=
  (t.field? "this").toList ++ t.items "expressions"

/-- The greatest or the least of several values in a dialect that treats nulls in another way. -/
def extreme? (f : Features) (name short : String) (t : Tree) : Option Tree :=
  let values := extremeValues t
  let ignored := t.holds "ignore_nulls"
  if f.has .replacesNulls then
    some (plainCall short
      (if ignored && values.length > 1 then (rotations values).map firstSet else values))
  else if f.has .namesNullFilter && ignored then some (plainCall (name ++ "_IGNORE_NULLS") values)
  else if f.has .leavesNullsOut && (t.data? "ignore_nulls").isSome && !ignored then
    some (unlessNull values (t.drop "ignore_nulls"))
  else none

/-- Copies of a text: a text that is filled up to their length. -/
def filledCopies (t : Tree) : Tree :=
  let this := Tree.ofOption (t.field? "this")
  let count := Tree.parenIf Kind.isBinary (.ofOption (t.field? "times"))
  plainCall "LPAD" [.string "", .operation .mul (plainCall "LENGTH" [this]) count, this]

/-- The length of a value that may be a text or bytes. -/
def lengthOfAny (this : Tree) : Tree :=
  .of .caseOf [("this", plainCall "TYPEOF" [this]),
    ("ifs", .many [.of .ifThen [("this", .string "BLOB"),
      ("true", plainCall "OCTET_LENGTH" [this.castTo "VARBINARY"])]]),
    ("default", plainCall "LENGTH" [this.castTo "VARCHAR"])]

/-- A number that is rounded as an exact number. -/
def exactly (t : Tree) : Tree :=
  t.set "this" (.castTo "DECIMAL" (.ofOption (t.field? "this")))

/-- What stands for a call in a dialect that does not have the function, or not for all values. -/
def otherForm? (f : Features) (function : Function) (t : Tree) : Option Tree :=
  let this := Tree.ofOption (t.field? "this")
  match function with
  | .left => if f.has .cutsByParts then some (startPart t) else none
  | .right => if f.has .cutsByParts then some (endPart t) else none
  | .nvl2 => if f.has .noNullChoice then some (nullChoice t) else none
  | .countIf =>
    if f.has .sumsConditions then some (conditionSum t)
    else if f.has .countsChoices then some (conditionCount t)
    else none
  | .greatest => extreme? f "GREATEST" "MAX" t
  | .least => extreme? f "LEAST" "MIN" t
  | .year => if f.has .extractsParts then some (extracted "YEAR" t) else none
  | .month => if f.has .extractsParts then some (extracted "MONTH" t) else none
  | .day => if f.has .extractsParts then some (extracted "DAY" t) else none
  | .repeated => if f.has .copiesByFilling then some (filledCopies t) else none
  | .length =>
    if f.has .measuresBytes && t.holds "binary" && !this.isText then some (lengthOfAny this)
    else none
  | .round =>
    if f.has .roundsExactly && (t.field? "decimals").isSome && this.isInexact then
      some (exactly t)
    else none
  | _ => none

/-- A value that is measured or cut, without the conversion to a text around it. -/
def measured (t : Tree) : Tree :=
  if t.castType? == some "TEXT" then .ofOption (t.field? "this") else t

/-- Writes a call that takes any value for a text. -/
def measuringCall (g : Pen) (function : Function) (t : Tree) : Writing Layout := do
  let args := callArguments function t
  g.call (callName (← features) function t) ((args.take 1).map measured ++ args.drop 1)

/-- Writes a text without some characters at its ends. -/
def trimmedText (g : Pen) (t : Tree) : Writing Layout := do
  let f ← features
  let side := Text.upper ((t.text? "position").getD "")
  let characters ← g.field "expression" t
  let named := f.has .namedTrims && (side == "LEADING" || side == "TRAILING")
  if f.has .wordyTrims && !characters.isEmpty && !named then
    let side := if side.isEmpty && f.has .saysBothEnds then "BOTH" else side
    let words := if side.isEmpty then Layout.empty else .ofText (side ++ " ")
    return .ofText "TRIM(" ++ words ++ characters ++ .ofText " FROM " ++ (← g.field "this" t)
      ++ .ofText ")"
  else
    let name :=
      if side == "LEADING" then "LTRIM" else if side == "TRAILING" then "RTRIM" else "TRIM"
    g.call name ((t.field? "this").toList ++ (t.field? "expression").toList)

/-- Writes a part of a text. -/
def textPart (g : Pen) (t : Tree) : Writing Layout := do
  let f ← features
  if f.has .wordyParts then
    return .ofText "SUBSTRING(" ++ (← g.field "this" t) ++ (← g.fieldAfter " FROM " "start" t)
      ++ (← g.fieldAfter " FOR " "length" t) ++ .ofText ")"
  else g.call (callName f .substring t) (callArguments .substring t)

/-- Writes a logarithm. -/
def logarithm (g : Pen) (t : Tree) : Writing Layout := do
  match t.field? "this", t.field? "expression", (← features).logBase with
  | some base, some this, .second => g.call "LOG" [this, base]
  | some base, some this, .named =>
    if ["2", "10"].contains base.name then g.call ("LOG" ++ base.name) [this]
    else
      unsupported ("Unsupported logarithm with base " ++ (← g.write base).text)
      g.call "LOG" [base, this]
  | base, this, _ => g.call "LOG" (base.toList ++ this.toList)

/-- Writes a row at some distance with all that can be said about it. -/
def shiftedRow (g : Pen) (function : Function) (t : Tree) : Writing Layout := do
  let args := (t.field? "this").toList
    ++ [(t.field? "offset").getD (.number 1), (t.field? "default").getD .null]
  g.call (callName (← features) function t) args

/-- Writes a count. -/
def counted (g : Pen) (t : Tree) : Writing Layout := do
  let f ← features
  match (t.field? "this").filter fun u => u.isA .distinct && f.has .distinctCounts with
  | some u => g.call "COUNTD" (u.items "expressions")
  | none =>
    let args := callArguments .count t
    g.call (callName f .count t) (if f.has .distinctCounts then args.take 1 else args)

/-- Writes a call of a function by its name, or by a word. A word has no arguments; only that for
the current date leaves its place to a call with some. -/
def namedCall (g : Pen) (function : Function) (t : Tree) : Writing Layout := do
  let f ← features
  let args := callArguments function t
  match f.constants.lookup function with
  | some word =>
    if args.isEmpty || function != .currentDate then put word
    else g.call (callName f function t) args
  | none => g.call (callName f function t) args

/-- The middle of the values between zero and one. -/
def half : Tree :=
  .of .literal [("this", .text "0.5"), ("is_string", .flag false)]

/-- Writes a middle value as the value that half of the others come before. -/
def median (g : Pen) (t : Tree) : Writing Layout := do
  if (← features).has .orderedMedian then
    let half ← g.write half
    return .ofText "PERCENTILE_CONT(" ++ half ++ .ofText ") WITHIN GROUP (ORDER BY "
      ++ (← g.field "this" t) ++ .ofText ")"
  else g.call "PERCENTILE_CONT" ((t.field? "this").toList ++ [half])

/-- Writes a part of a date. -/
def datePart (g : Pen) (t : Tree) : Writing Layout := do
  match (← features).callNames.lookup (.function .extract) with
  | some name => g.call name (callArguments .extract t)
  | none =>
    return .ofText "EXTRACT(" ++ (← g.field "this" t) ++ .ofText " FROM "
      ++ (← g.field "expression" t) ++ .ofText ")"

/-- Writes a text in which words start with capital letters. Characters before words are only
written if they are not those of the dialect. -/
def capitalized (g : Pen) (t : Tree) : Writing Layout := do
  let f ← features
  let own := (t.field? "expression").any fun u =>
    u.isA .literal && u.holds "is_string" && u.text? "this" == some f.delimiters
  let given := if own then none else t.field? "expression"
  if given.isSome && f.has .fixedDelimiters then
    unsupported "INITCAP does not support custom delimiters"
  if f.has .capitalizesMatches then
    return .ofText "REGEXP_REPLACE(" ++ (← g.field "this" t)
      ++ .ofText ", '(\\w)(\\w*)', x -> UPPER(x[1]) || LOWER(x[2]))"
  else
    let given := if f.has .fixedDelimiters then none else given
    g.call "INITCAP" ((t.field? "this").toList ++ given.toList)

/-- Writes a call of a function with a kind of its own. -/
def functionCall (g : Pen) (function : Function) (t : Tree) : Writing Layout := do
  let f ← features
  match f.operatorNames.lookup (.function function), otherForm? f function t with
  | some word, _ => binary g word t
  | none, some u => g.write u
  | none, none =>
    match function with
    | .concat => textCall g t
    | .concatWs => separatedTextCall g t
    | .trim => trimmedText g t
    | .substring => textPart g t
    | .log => logarithm g t
    | .count => counted g t
    | .median => if f.has .noMedian then median g t else namedCall g function t
    | .extract => datePart g t
    | .initcap => capitalized g t
    | .lag | .lead => if f.has .fullShifts then shiftedRow g function t else namedCall g function t
    | .left | .length | .right =>
      if f.has .measuresAnything then measuringCall g function t else namedCall g function t
    | _ => namedCall g function t

/-- Writes a call of a function that has no kind of its own; its name is in upper case unless the
spelling is kept. -/
def otherCallAs (g : Pen) (keeps : Bool) (t : Tree) : Writing Layout := do
  let name := (← g.field "this" t).text
  g.call (if keeps then name else Text.upper name) (t.items "expressions")

/-- Writes a call of a function that has no kind of its own. -/
def otherCall (g : Pen) (t : Tree) : Writing Layout := do
  otherCallAs g ((← features).has .keepsSpelling) t

end Pen
end Sql
end SqlDialects
