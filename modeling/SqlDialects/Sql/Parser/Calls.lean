import SqlDialects.Sql.Parser.Names
import SqlDialects.Sql.Parser.Rules
import SqlDialects.Sql.Tree.Build
import SqlDialects.Sql.Tree.DataType

/-!
# Reading calls

Function calls, conversions, case distinctions and windows.

**Results.**
* `call?` reads a call, if the next token names a function and a parenthesis follows.
* `ordering?` reads the order of rows, which windows and queries share.
-/

namespace SqlDialects
namespace Sql
namespace Parsing

/-- Whether nulls come first in an order that does not say so. -/
def nullsFirst (f : Features) (descending : Bool) : Bool :=
  match f.nulls with
  | .small => !descending
  | .large => descending
  | .last => false

/-- Reads an expression that rows are ordered by. -/
def ordered? (g : Rules) : Parsing (Option Tree) := do
  match ← g.disjunction with
  | none => return none
  | some this =>
    let ascending ← accept .ASC
    let descending ← accept .DESC
    let first ← acceptWords ["NULLS", "FIRST"]
    let last ← acceptWords ["NULLS", "LAST"]
    let f ← features
    let direction :=
      if descending then Tree.flag true
      else if ascending then Tree.flag false
      else Tree.absent
    return some (← node .ordered
      [("this", this), ("desc", direction),
        ("nulls_first", .flag (first || (!last && nullsFirst f descending)))])

/-- Reads the order of rows. -/
def ordering? (g : Rules) : Parsing (Option Tree) := do
  if ← accept .ORDER_BY then
    let comments := (← get).waiting
    let keys ← separated (ordered? g)
    return some (← finishWith comments (.of .order [("expressions", .many keys)]))
  else return none

/-- Reads how far an end of a frame is away. -/
def frameDistance (g : Rules) : Parsing Tree := do
  if ← acceptWord "UNBOUNDED" then return .text "UNBOUNDED"
  if ← acceptWords ["CURRENT", "ROW"] then return .text "CURRENT ROW"
  return .ofOption (← g.bitwise)

/-- Reads on which side of the current row an end of a frame is. -/
def frameSide : Parsing Tree := do
  if ← acceptIf fun t => ["FOLLOWING", "PRECEDING"].contains (Text.upper t.text) then
    return .text (← previous).text
  return .flag false

/-- Reads the frame of a window: the rows around a row that belong to it. -/
def frame? (g : Rules) : Parsing (Option Tree) := do
  unless ← acceptAny [.ROWS, .RANGE] do return none
  let kind := (← previous).text
  let _ ← accept .BETWEEN
  let start ← frameDistance g
  let startSide ← frameSide
  let bounded ← accept .AND
  let last ← if bounded then frameDistance g else pure .absent
  let lastSide ← if bounded then frameSide else pure .absent
  return some (← node .windowSpec
    [("kind", .text kind), ("start", start), ("start_side", startSide), ("end", last),
      ("end_side", lastSide)])

/-- Reads what a window consists of, between parentheses or as the name of another one. -/
def windowOf (g : Rules) (comments : List String) (this word : Tree) : Parsing Tree := do
  if ← accept .L_PAREN then
    let base ← name? false fun k => k.isName && k != .RANGE && k != .ROWS
    let parts ← if ← accept .PARTITION_BY then separated g.disjunction else pure []
    let order ← ordering? g
    let frame ← frame? g
    endList
    finishWith comments (.of .window
      [("this", this), ("partition_by", .many parts), ("order", .ofOption order),
        ("spec", .ofOption frame), ("alias", .ofOption base), ("over", word)])
  else
    let base ← name? false TokenKind.isName
    finishWith comments (.of .window [("this", this), ("alias", .ofOption base), ("over", word)])

/-- Reads a condition on the rows that a call sums up. -/
def filtered (g : Rules) (call : Option Tree) : Parsing (Option Tree) := do
  unless ← acceptPair .FILTER .L_PAREN do return call
  let _ ← accept .WHERE
  let comments := (← get).waiting
  let test ← g.disjunction
  let rows ← finishWith comments (.of .whereClause [("this", .ofOption test)])
  let t ← node .filter [("this", .ofOption call), ("expression", rows)]
  endList
  return some t

/-- Reads the window after a call, if there is one, and a condition on the rows before it. -/
def windowed (g : Rules) (call : Option Tree) : Parsing (Option Tree) := do
  let comments := (call.map Tree.comments).getD []
  let filteredCall ← filtered g call
  if ← accept .OVER then
    let bare := filteredCall.map fun t =>
      if t.isA .filter then t.set "this" (.ofOption (call.map fun t => t.withComments []))
      else t.withComments []
    return some (← windowOf g comments (.ofOption bare) (.text "OVER"))
  else return filteredCall

/-- Reads a window with a name. -/
def namedWindow? (g : Rules) : Parsing (Option Tree) := do
  let name ← name? false TokenKind.isName
  let comments := (name.map Tree.comments).getD []
  let _ ← accept .ALIAS
  return some (← windowOf g comments (.ofOption (name.map fun t => t.withComments [])) .absent)

/-- The branches of a case distinction. -/
def branches (g : Rules) : (fuel : Nat) → Parsing (List Tree)
  | 0 => return []
  | fuel + 1 => do
    if ← accept .WHEN then
      let this ← g.disjunction
      let _ ← accept .THEN
      let value ← g.disjunction
      let branch ← node .ifThen [("this", .ofOption this), ("true", .ofOption value)]
      return branch :: (← branches g fuel)
    else return []

/-- A case distinction, after its first word. -/
def caseOf (g : Rules) : Parsing (Option Tree) := do
  let comments := (← get).waiting
  let this ← g.disjunction
  let ifs ← branches g (← budget)
  let default ← if ← accept .ELSE then g.disjunction else pure none
  unless ← accept .END do
    complain (.expected "END after CASE") (some (← previous))
  return some (← finishWith comments (.of .caseOf
    [("this", .ofOption this), ("ifs", .many ifs), ("default", .ofOption default)]))

/-- A conversion of a tree to a type. -/
def castNode (this target : Option Tree) : Parsing Tree :=
  node .cast [("this", .ofOption this), ("to", .ofOption target)]

/-- A conversion of a tree to a type that may fail; `safe` says that it is written so. -/
def tryCastNode (safe : Bool) (this target : Option Tree) : Parsing Tree := do
  let texts := (← features).tryCast == .ofTexts
  node .tryCast [("this", .ofOption this), ("to", .ofOption target),
    ("safe", if safe then .flag true else .absent),
    ("requires_string", if texts then .flag true else .absent)]

/-- A conversion that fails as conversions of the dialect do. -/
def plainCastNode (this target : Option Tree) : Parsing Tree := do
  if (← features).has .triesCasts then tryCastNode false this target else castNode this target

/-- A conversion, after its opening parenthesis. -/
def cast (g : Rules) (safe : Bool) : Parsing (Option Tree) := do
  let this ← g.disjunction
  unless ← accept .ALIAS do complain (.expected "AS after CAST") none
  let target ← dataType? true false
  if target.isNone then complain (.expected "TYPE after CAST") none
  return some (← if safe then tryCastNode true this target else plainCastNode this target)

/-- An argument of a call; in calls of unknown functions it may have an alias. -/
def argument (g : Rules) (named : Bool) : Parsing (Option Tree) := do
  if ← accept .DISTINCT then
    let items ← separated g.disjunction
    return some (← node .distinct [("expressions", .many items)])
  else
    match ← g.query .inner with
    | some q => return some q
    | none =>
      let e ← g.disjunction
      g.combinations (← if named then aliased true e else pure e)

/-- Fields with the arguments that go there, one after another. -/
def fieldsOf : List (String × Bool) → (variadic : Bool) → List Tree → List (String × Tree)
  | [], _, _ => []
  | [(name, _)], true, args => [(name, .many args)]
  | (name, _) :: names, variadic, args =>
    (name, Tree.ofOption args.head?) :: fieldsOf names variadic (args.drop 1)

/-- Whether a name of a function says that nulls are left out. -/
def leavesNullsOut (name : String) : Bool :=
  ["GREATEST_IGNORE_NULLS", "LEAST_IGNORE_NULLS"].contains name

/-- What a call says about its dialect besides its arguments. -/
def remarksOf (f : Features) (function : Function) (name : String) : List (String × Tree) :=
  match function with
  | .count => [("big_int", .flag (!f.has .largeCounts || name == "COUNT_BIG"))]
  | .concat =>
    [("safe", .flag (!f.has .joinsTextsOnly)), ("coalesce", .flag (f.has .nullsAreEmpty))]
  | .concatWs =>
    [("safe", .flag (!f.has .joinsTextsOnly)), ("coalesce", .flag (f.has .skipsNulls))]
  | .greatest | .least =>
    [("ignore_nulls", .flag (!f.has .nullsSpread || leavesNullsOut name))]
  | .length => if f.has .byteLengths && name == "LENGTH" then [("binary", .flag true)] else []
  | .trim =>
    [("position", if name == "LTRIM" then .text "LEADING"
      else if name == "RTRIM" then .text "TRAILING" else .absent)]
  | _ => []

/-- An operand in place of an argument, where operators need parentheses. -/
def asOperand (t : Tree) : Tree :=
  if (t.kind?.map Kind.isBinary).getD false then .of .paren [("this", t)] else t

/-- A text of which a dialect measures or cuts any value. -/
def asMeasured (t : Tree) : Tree :=
  if t.isA .literal && t.holds "is_string" then t else t.asText

/-- The function and the arguments that a call of a logarithm stands for: the base comes first. -/
def logarithm (f : Features) (name : String) (args : List Tree) : Function × List Tree :=
  match name, args with
  | "LOG2", args => (.log, bareNumber "2" :: args)
  | "LOG10", args => (.log, bareNumber "10" :: args)
  | _, [a, b] => (.log, if f.logBase == .first then [a, b] else [b, a])
  | _, args => (if f.has .naturalLogs then .ln else .log, args)

/-- The arguments of a call with those that its dialect implies. -/
def withImplied (f : Features) (function : Function) (args : List Tree) : List Tree :=
  if function == .initcap && args.length = 1 then args ++ [.string f.delimiters] else args

/-- The node of a call of a function that has a kind of its own. -/
def functionNode (f : Features) (function : Function) (name : String) (args : List Tree) : Tree :=
  let args := withImplied f function args
  let measured := f.has .measuresAnything && ["LEFT", "LEN", "RIGHT"].contains name
  let (function, args) :=
    if function == .log then logarithm f name args
    else (function, if measured then (args.take 1).map asMeasured ++ args.drop 1 else args)
  let s := function.signature
  (remarksOf f function name).foldl (fun t (field, v) => t.set field v)
    (.of (.function function) (fieldsOf s.fields s.variadic args))

/-- Complains if a call has more arguments than its function takes. -/
def checkArity (k : Kind) (count : Nat) : Parsing Unit := do
  match k.arity? with
  | some most => if count > most then complain (.tooManyArguments count most) none
  | none => pure ()

/-- A call of a function that has a kind of its own. -/
def knownCall (function : Function) (name : String) (args : List Tree) : Parsing Tree := do
  let t ← check (functionNode (← features) function name args)
  checkArity (.function function) args.length
  return t

/-- The names of calls that stand for operators. -/
def operatorCalls : List String :=
  ["COLLATE", "DIV", "MOD", "REGEXP_LIKE"]

/-- An operator that is written as a call: a remainder, a quotient of integers, a comparison with a
regular expression, or a text with an order of its own. -/
def operatorCall (name : String) (args : List Tree) : Parsing Tree := do
  let pair (k : Kind) (args : List Tree) : Tree :=
    .of k [("this", .ofOption args.head?), ("expression", .ofOption args[1]?)]
  match name with
  | "MOD" => check (pair .mod (args.map asOperand))
  | "DIV" =>
    let quotient := pair .intDiv args
    check (if (← features).has .exactQuotients then quotient.castTo "DECIMAL" else quotient)
  | "REGEXP_LIKE" => check ((pair .regexpLike args).set "flag" (.ofOption args[2]?))
  | _ => check (pair .collate args)

/-- A test for rows that is written as a call with any arguments. -/
def existenceOf (args : List Tree) : Parsing Tree := do
  let t ← check (.of .existence (fieldsOf Kind.existenceFields false args))
  checkArity .existence args.length
  return t

/-- A choice, after its first word: a call, or conditions in words. -/
def choice (g : Rules) : Parsing (Option Tree) := do
  if ← accept .L_PAREN then
    let args ← separated do aliased true (← g.disjunction)
    let t ← check (.of .ifThen (fieldsOf Kind.choiceFields false args))
    checkArity .ifThen args.length
    endList
    return some t
  else
    match ← g.disjunction with
    | none => return none
    | some test =>
      let _ ← accept .THEN
      let value ← g.disjunction
      let other ← if ← accept .ELSE then g.disjunction else pure none
      let _ ← accept .END
      return some (← node .ifThen
        [("this", test), ("true", .ofOption value), ("false", .ofOption other)])

/-- The function that a spelling in upper case means in a dialect. -/
def functionOf? (f : Features) (name : String) : Option Function :=
  match name with
  | "COUNT_BIG" => if f.has .largeCounts then some .count else none
  | "LOG2" | "LOG10" => some .log
  | "LTRIM" | "RTRIM" => some .trim
  | "GREATEST_IGNORE_NULLS" => if f.has .namesNullFilter then some .greatest else none
  | "LEAST_IGNORE_NULLS" => if f.has .namesNullFilter then some .least else none
  | _ => Function.ofSpelling? name

/-- The value of a word, if it is a function that needs no parentheses. -/
def presentOf? : TokenKind → Option Function
  | .CURRENT_DATE => some .currentDate
  | .CURRENT_TIME => some .currentTime
  | .CURRENT_TIMESTAMP => some .currentTimestamp
  | .CURRENT_USER => some .currentUser
  | _ => none

/-- A call of any other function. -/
def otherCall (t : Token) (args : List Tree) : Parsing Tree := do
  let name :=
    if t.kind == .IDENTIFIER then
      (Tree.of .identifier [("this", .text t.text), ("quoted", .flag true)]).atPlace t.place
    else .text t.text
  node .anonymous [("this", name), ("expressions", .many args)]

/-- A call with arguments of its own form, after its opening parenthesis. -/
def peculiar (g : Rules) (name : String) : Option (Parsing (Option Tree)) :=
  match name with
  | "CAST" => some (cast g false)
  | "TRY_CAST" | "SAFE_CAST" => some (cast g true)
  | "CEIL" => some (rounded .ceil)
  | "FLOOR" => some (rounded .floor)
  | "SUBSTRING" => some part
  | "EXTRACT" => some datePart
  | "TRIM" => some trimmed
  | _ => none
where
  /-- A number and how many digits are kept. -/
  rounded (function : Function) : Parsing (Option Tree) := do
    let args ← separated (argument g false)
    return some (← node (.function function)
      [("this", .ofOption args.head?), ("decimals", .ofOption args[1]?), ("to", .flag false)])
  /-- A text and the part of it that is taken. -/
  part : Parsing (Option Tree) := do
    let args ← separated g.bitwise
    let start ← if ← accept .FROM then some <$> g.bitwise else pure none
    let count ← if ← accept .FOR then some <$> g.bitwise else pure none
    let start :=
      if start.isNone && count.isSome then some (bareNumber "1") else start.join
    let args := args ++ start.toList ++ count.join.toList
    let t ← check (functionNode (← features) .substring name args)
    checkArity (.function .substring) args.length
    return some t
  /-- A part of a date and the date. -/
  datePart : Parsing (Option Tree) := do
    let t ← current
    advance
    let part :=
      if t.kind == .STRING then Tree.of .literal [("this", .text t.text), ("is_string", .flag true)]
      else wordNode (Text.upper t.text)
    let separate ← acceptAny [.FROM, .COMMA]
    unless separate do complain (.expected "FROM or comma after EXTRACT") (some (← previous))
    let date ← g.bitwise
    return some (← node (.function .extract) [("this", part), ("expression", .ofOption date)])
  /-- A text and what is taken off its ends. -/
  trimmed : Parsing (Option Tree) := do
    let sided ← acceptIf fun t => ["LEADING", "TRAILING", "BOTH"].contains (Text.upper t.text)
    let side := Text.upper (← previous).text
    let first ← g.bitwise
    let inverted ← accept .FROM
    let more ← if inverted then pure true else accept .COMMA
    let second ← if more then g.bitwise else pure none
    let (this, characters) := if inverted then (second, first) else (first, second)
    return some (← node (.function .trim)
      [("this", .ofOption this), ("position", if sided then .text side else .absent),
        ("expression", .ofOption characters)])

/-- The comparisons with the rows of a query that words before a query stand for. -/
def rowTests : List (TokenKind × Kind) :=
  [(.ALL, .everyOf), (.ANY, .anyOf), (.EXISTS, .existence), (.SOME, .anyOf)]

/-- A call of the function that a token names, after its opening parenthesis. -/
def callOf (g : Rules) (t : Token) (anonymous : Bool) : Parsing (Option Tree) := do
  let upper := Text.upper t.text
  match if anonymous then none else peculiar g upper with
  | some r => r
  | none =>
    let ofRows ← seesAny [.SELECT, .WITH, .FROM]
    match (rowTests.lookup t.kind).filter fun _ => ofRows with
    | some k =>
      let q ← g.query .inner
      return some (← node k [("this", .ofOption q)])
    | none =>
      let f ← features
      let known := if anonymous then none else functionOf? f upper
      let isOperator := operatorCalls.contains upper && !anonymous
      let isTest := t.kind == .EXISTS && !anonymous
      let hasKind := known.isSome || isOperator || isTest
      let args ← separated (argument g !hasKind)
      let call ←
        match known with
        | some k => knownCall k upper args
        | none =>
          if isOperator then operatorCall upper args
          else if isTest then existenceOf args
          else otherCall t args
      return some (if f.has .keepsNames && hasKind then call.spelled t.place t.text
        else call.atPlace t.place)

/-- Reads the closing parenthesis of a call. A conversion without a type need not be closed. -/
def closeCall (t : Option Tree) : Parsing (Option Tree) := do
  let untyped := t.any fun u => (u.kind?.map Kind.isCast).getD false && (u.field? "to").isNone
  let closes ← sees .R_PAREN
  if untyped && !closes then return t else closeParen t

/-- Whether a token may name a function where a parenthesis follows. -/
def namesFunction (free : Bool) (t : Token) : Bool :=
  if free then !TokenKind.reserved.contains t.kind
  else t.kind.isCallable || (t.kind == .MOD && Text.upper t.text == "MOD")

/-- Reads a call. With `anonymous`, no function has a kind of its own; with `free`, every word that
is not reserved may name a function; with `bare`, some functions need no parentheses. -/
def call? (g : Rules) (anonymous free bare : Bool) : Parsing (Option Tree) := do
  match ← current? with
  | none => return none
  | some t =>
    let isChoice := t.kind == .VAR && Text.upper t.text == "IF"
    let f ← features
    let isSign := t.kind == .PARAMETER && f.has .signedParameters
    if bare && t.kind == .CASE then
      advance
      windowed g (← caseOf g)
    else if bare && t.kind == .ANY then
      advance
      windowed g (some (← node .anyOf [("this", .ofOption (← g.bitwise))]))
    else if bare && isSign then
      advance
      windowed g (some (← node (.function .abs) [("this", .ofOption (← g.bitwise))]))
    else if bare && isChoice then
      let mark ← get
      advance
      match ← choice g with
      | some c => windowed g (some c)
      | none =>
        backTo mark
        return none
    else
      let opens := (← following?).any fun t => t.kind == .L_PAREN
      if opens then
        if namesFunction free t then
          advance
          advance
          let result := (← callOf g t anonymous).map fun c => c.addComments t.comments
          windowed g (← closeCall result)
        else return none
      else
        match if bare then presentOf? t.kind else none with
        | some function =>
          advance
          return some (← node (.function function) [])
        | none => return none

end Parsing
end Sql
end SqlDialects
