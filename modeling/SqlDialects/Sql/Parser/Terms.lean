import SqlDialects.Sql.Parser.Calls

/-!
# Reading expressions

Expressions, from names and literals up to disjunctions.

**Order of strength.** What is in parentheses; parts of columns; signs; products; sums; texts that
are joined; comparisons with ranges, lists and patterns; orders; equalities; `NOT`, `AND`, `OR`.

**Results.**
* `disjunction` reads an expression, and `expression` one that may have an alias.
* `column?` reads a column or a part of one.
-/

namespace SqlDialects
namespace Sql
namespace Parsing

/-- A query in parentheses, as part of a larger tree. -/
def enclosed (q : Option Tree) (aliasTree : Option Tree) : Parsing (Option Tree) := do
  match q with
  | none => return none
  | some q => return some (← node .subquery [("this", q), ("alias", .ofOption aliasTree)])

/-- Reads what is in parentheses: a query, a list, or an expression. -/
def paren (g : Rules) : Parsing (Option Tree) := do
  advance
  let comments := (← get).waiting
  let items ←
    match ← g.query .inner with
    | some q => pure [q]
    | none => separated g.expression
  let first ← g.clauses items.head?
  let this ←
    match first with
    | none =>
      if ← sees .R_PAREN then some <$> node .tuple []
      else some <$> node .paren []
    | some t =>
      if t.isA .subquery then
        enclosed (← g.clauses (← g.combinations (some t))) none
      else if t.isQuery then enclosed (some t) none
      else if items.length > 1 || (← previous).kind == .COMMA then
        some <$> node .tuple [("expressions", .many items)]
      else some <$> node .paren [("this", t)]
  closeParen (this.map fun t => t.addComments comments)

/-- The texts that follow a text, which together are one. -/
def moreTexts : (fuel : Nat) → Parsing (List Tree)
  | 0 => return []
  | fuel + 1 => do
    if ← accept .STRING then
      let t := Tree.of .literal [("this", .text (← previous).text), ("is_string", .flag true)]
      return t :: (← moreTexts fuel)
    else return []

/-- Reads a literal, a star, or what is in parentheses. -/
def primary (g : Rules) : Parsing (Option Tree) := do
  match ← current? with
  | none => return none
  | some t =>
    match t.kind with
    | .STRING =>
      advance
      let first ← literalNode t
      match ← moreTexts (← budget) with
      | [] => return some first
      | more =>
        let coalesce := if (← features).has .nullsAreEmpty then Tree.flag true else .absent
        return some (← node (.function .concat)
          [("expressions", .many (first :: more)), ("coalesce", coalesce)])
    | .NUMBER =>
      advance
      return some (← literalNode t)
    | .NULL =>
      advance
      return some (← node .null [])
    | .TRUE =>
      advance
      return some (← node .boolean [("this", .flag true)])
    | .FALSE =>
      advance
      return some (← node .boolean [("this", .flag false)])
    | .HEX_STRING =>
      advance
      let whole := if (← features).has .hexIntegers then Tree.flag true else .absent
      return some (← node .hexString [("this", .text t.text), ("is_integer", whole)])
    | .STAR =>
      advance
      return some ((← node .star []).atPlace t.place)
    | .L_PAREN => paren g
    | _ =>
      if ← acceptPair .DOT .NUMBER then
        return some (bareNumber ("0." ++ (← previous).text))
      else return none

/-- Reads a literal, a call or a name. -/
def field? (g : Rules) : Parsing (Option Tree) := do
  match ← primary g with
  | some t => return some t
  | none =>
    match ← call? g false false true with
    | some t => return some t
    | none => plainName?

/-- Reads what stands after a dot, where any word may be a name. -/
def member? (g : Rules) : Parsing (Option Tree) := do
  match ← call? g true true true with
  | some t => return some t
  | none =>
    match ← primary g with
    | some t => return some t
    | none => name? true TokenKind.isName

/-- Reads a field of a record: a value, perhaps after its name and a colon. -/
def recordField? (g : Rules) : Parsing (Option Tree) := do
  let first ← aliased true (← g.disjunction)
  if ← accept .COLON then
    let value ← g.disjunction
    return some (← node .propertyEq [("this", .ofOption first), ("expression", .ofOption value)])
  else return first

/-- Reads subscripts, or a record between braces. -/
def subscripts (g : Rules) : (fuel : Nat) → Option Tree → Parsing (Option Tree)
  | 0, this => return this
  | fuel + 1, this => do
    if ← accept .L_BRACKET then
      let items ← separated g.disjunction
      unless ← accept .R_BRACKET do complain (.expected "]") none
      let t ←
        match this with
        | none => node .array [("expressions", .many items)]
        | some t => node .bracket [("this", t), ("expressions", .many items)]
      subscripts g fuel (some t)
    else if ← accept .L_BRACE then
      let items ← separated (recordField? g)
      unless ← accept .R_BRACE do complain (.expected "\x7d") none
      let t ← node .struct [("expressions", .many items)]
      subscripts g fuel (some t)
    else return this

/-- Reads subscripts, of a tree or as an array. -/
def subscripted (g : Rules) (this : Option Tree) : Parsing (Option Tree) := do
  subscripts g (← budget) this

/-- A column as a path of names, which is how a call is qualified. -/
def asPath (t : Tree) : Tree :=
  if t.isA .column then
    let names := ["catalog", "db", "table", "this"].filterMap fun n => t.field? n
    match names with
    | [] => t
    | first :: rest =>
      rest.foldl (fun path n => .of .dot [("this", path), ("expression", n)]) first
  else t

/-- A tree with what stands after a dot. -/
def joined (this : Tree) (part : Option Tree) : Parsing Tree := do
  let called := (part.map Tree.isCall).getD false
  let this := if called then asPath this else this
  let t ←
    if this.isA .column && (this.field? "catalog").isNone then
      finishWith this.comments (.of .column
        [("this", .ofOption (part.map fun p => p.withComments [])),
          ("table", .ofOption (this.field? "this")), ("db", .ofOption (this.field? "table")),
          ("catalog", .ofOption (this.field? "db"))])
    else
      match part with
      | some p =>
        if p.isA .window then
          let inner ← node .dot [("this", this), ("expression", .ofOption (p.field? "this"))]
          pure (p.set "this" inner)
        else node .dot [("this", this), ("expression", p.withComments [])]
      | none => node .dot [("this", this)]
  return t.addComments ((part.map Tree.comments).getD [])

/-- Reads what may stand after a column: parts, conversions and subscripts. -/
def suffixes (g : Rules) : (fuel : Nat) → Tree → Parsing Tree
  | 0, this => return this
  | fuel + 1, this => do
    if ← accept .DOT then
      let part ← member? g
      let t ← joined this part
      suffixes g fuel ((← subscripted g (some t)).getD t)
    else if ← accept .DCOLON then
      let target ← dataType? true false
      if target.isNone then complain (.expected "type") none
      let t ← plainCastNode (some this) target
      suffixes g fuel ((← subscripted g (some t)).getD t)
    else return this

/-- Reads what may stand after a tree. -/
def suffixed (g : Rules) (this : Tree) : Parsing Tree := do
  let t := (← subscripted g (some this)).getD this
  suffixes g (← budget) t

/-- Reads a column, a literal or a call. -/
def reference? (g : Rules) : Parsing (Option Tree) := do
  match ← field? g with
  | none => return none
  | some t =>
    if t.isA .identifier then
      return some (← finishWith t.comments (.of .column [("this", t.withComments [])]))
    else return some t

/-- Reads a column with what follows it. -/
def column? (g : Rules) : Parsing (Option Tree) := do
  match ← reference? g with
  | some t => return some (← suffixed g t)
  | none => subscripted g none

/-- Reads a literal that a type stands before. -/
def typedLiteral? (g : Rules) : Parsing (Option Tree) := do
  let mark ← get
  match ← dataType? false true with
  | none => return none
  | some target =>
    if ← seesAny [.STRING, .NUMBER] then
      match ← primary g with
      | none => return none
      | some t => return some (← castNode (some (← suffixed g t)) (some target))
    else
      backTo mark
      return none

/-- Reads an operand. -/
def operand? (g : Rules) : Parsing (Option Tree) := do
  match ← typedLiteral? g with
  | some t => return some t
  | none =>
    match ← column? g with
    | some t => return some (← suffixed g t)
    | none => return none

/-- Whether a sign is a complement of bits: where a tilde compares with patterns, it is one before
an operand. -/
def isComplement (t : Token) : Bool :=
  t.kind == .TILDE || (t.kind == .RLIKE && t.text == "~")

/-- Reads an operand with its signs; a plus sign changes nothing. -/
def signed (g : Rules) : Parsing (Option Tree) := do
  if ← accept .PLUS then g.unary
  else if ← accept .NOT then
    return some (← node .negation [("this", .ofOption (← g.equality))])
  else if ← acceptIf isComplement then
    return some (← node .bitwiseNot [("this", .ofOption (← g.unary))])
  else if ← accept .DASH then
    return some (← node .neg [("this", .ofOption (← g.unary))])
  else operand? g

/-- A quotient says what division means in its dialect. -/
def typedQuotient (t : Tree) : Parsing Tree := do
  if t.isA .div then
    let f ← features
    return (t.set "typed" (.flag (f.has .typedDivision))).set "safe"
      (.flag (f.has .safeDivision))
  else return t

/-- The symbols for powers in a dialect. -/
def powerSymbols (f : Features) : List (TokenKind × Kind) :=
  let power : Kind := .function .pow
  (if f.has .caretPowers then [(TokenKind.CARET, power)] else []) ++ [(.DSTAR, power)]

/-- Reads a power. -/
def power (g : Rules) : Parsing (Option Tree) := do
  chain (signed g) (powerSymbols (← features)) pure

/-- Reads a product. -/
def product (g : Rules) : Parsing (Option Tree) :=
  chain (power g) [(.STAR, .mul), (.SLASH, .div), (.DIV, .intDiv)] typedQuotient

/-- A text with an order of its own: a plain column names the order. -/
def namedOrder (t : Tree) : Parsing Tree := do
  match (t.field? "expression").filter fun e => t.isA .collate && e.isA .column with
  | none => return t
  | some e =>
    if (e.field? "table").isSome then return t
    match e.field? "this" with
    | some name =>
      if !name.isA .identifier then return t
      else if name.holds "quoted" then return t.set "expression" name
      else return t.set "expression" (wordNode ((name.text? "this").getD ""))
    | none => return t

/-- Reads a sum. -/
def sum (g : Rules) : Parsing (Option Tree) :=
  chain (product g) [(.PLUS, .add), (.DASH, .sub), (.MOD, .mod), (.COLLATE, .collate)]
    namedOrder

/-- A join of texts says whether it takes values that are no texts. -/
def safeJoin (t : Tree) : Parsing Tree := do
  let safe := !(← features).has .joinsTextsOnly
  return if t.isA .dpipe then t.set "safe" (.flag safe) else t

/-- Reads sums that are joined as texts or combined bit by bit. -/
def bitwise (g : Rules) : Parsing (Option Tree) := do
  let f ← features
  let bars := if f.has .barsMeanOr then [] else [(TokenKind.DPIPE, Kind.dpipe)]
  let hash :=
    if f.operatorNames.lookup .bitwiseXor == some "#" then [(TokenKind.HASH, Kind.bitwiseXor)]
    else []
  chain (sum g)
    ([(TokenKind.AMP, Kind.bitwiseAnd), (.CARET, .bitwiseXor), (.PIPE, .bitwiseOr)] ++ hash ++ bars)
    safeJoin

/-- Reads the character that escapes others in a pattern. -/
def escaped (t : Tree) : Parsing Tree := do
  if ← accept .ESCAPE then
    let mark ← if ← accept .STRING then some <$> literalNode (← previous) else pure none
    node .escape [("this", t), ("expression", .ofOption mark)]
  else return t

/-- A comparison with a pattern. -/
def pattern (g : Rules) (k : Kind) (this : Option Tree) : Parsing (Option Tree) := do
  let e ← bitwise g
  return some (← escaped
    (← node k [("this", .ofOption this), ("expression", .ofOption e)]))

/-- A comparison with two bounds. -/
def bounds (g : Rules) (this : Option Tree) : Parsing (Option Tree) := do
  let low ← bitwise g
  let _ ← accept .AND
  let high ← bitwise g
  return some (← node .between
    [("this", .ofOption this), ("low", .ofOption low), ("high", .ofOption high)])

/-- An item of a list that something is looked up in. -/
def listItem (g : Rules) : Parsing (Option Tree) := do
  match ← g.query .inner with
  | some q => return some q
  | none => g.combinations (← g.disjunction)

/-- A comparison with a list, a query or a column. -/
def membership (g : Rules) (this : Option Tree) : Parsing (Option Tree) := do
  if ← accept .L_PAREN then
    let items ← separated (listItem g)
    let t ←
      match items with
      | [q] =>
        if q.isQuery then
          let inner ← g.clauses (some q)
          let sub := Tree.of .subquery [("this", .ofOption inner)]
          node .inList [("this", .ofOption this), ("query", sub)]
        else node .inList [("this", .ofOption this), ("expressions", .many items)]
      | _ => node .inList [("this", .ofOption this), ("expressions", .many items)]
    closeParen (some t)
  else
    let f ← column? g
    return some (← node .inList [("this", .ofOption this), ("field", .ofOption f)])

/-- What a value is or is not; if no value follows, goes back and reads nothing. -/
def identity (g : Rules) (this : Option Tree) : Parsing (Option Tree) := do
  let mark ← get
  advance
  let negated ← accept .NOT
  if ← acceptWords ["DISTINCT", "FROM"] then
    let e ← bitwise g
    let k := if negated then Kind.nullSafeEq else Kind.nullSafeNeq
    return some (← node k [("this", .ofOption this), ("expression", .ofOption e)])
  else
    match ← bitwise g with
    | none =>
      backTo mark
      return none
    | some e =>
      let t ← node .isValue [("this", .ofOption this), ("expression", e)]
      if negated then return some (← node .negation [("this", t)]) else return some t

/-- The kinds of comparisons with patterns. -/
def patterns : List (TokenKind × Kind) :=
  [(.LIKE, .like), (.ILIKE, .ilike), (.RLIKE, .regexpLike)]

/-- Reads the comparison that a word announces; `none` if no such word is next. -/
def rangeAfter (g : Rules) (this : Option Tree) : Parsing (Option (Option Tree)) := do
  match ← current? with
  | none => return none
  | some t =>
    match t.kind with
    | .BETWEEN =>
      advance
      return some (← bounds g this)
    | .IN =>
      advance
      return some (← membership g this)
    | .IS => return some (← identity g this)
    | k =>
      match patterns.lookup k with
      | none => return none
      | some k =>
        advance
        return some (← pattern g k this)

/-- Whether a comparison with a pattern says itself that it is negated. -/
def saysNegation (t : Tree) : Bool :=
  t.isA .like || t.isA .ilike

/-- A comparison that is negated. -/
def negatedRange (t : Tree) : Parsing Tree := do
  let f ← features
  let this := Tree.ofOption (t.field? "this")
  match (t.field? "query").filter fun _ => t.isA .inList && f.has .unlikeAllRows with
  | some q =>
    node .neq [("this", this), ("expression", .of .everyOf [("this", q.unwrapped)])]
  | none =>
    if saysNegation t then return t.set "negate" (.flag true)
    else if t.isA .escape && saysNegation this then
      return t.set "this" (this.set "negate" (.flag true))
    else node .negation [("this", t)]

/-- Reads a comparison with a range, a list, a pattern or null. -/
def range (g : Rules) : Parsing (Option Tree) := do
  let this ← bitwise g
  let mark ← get
  let negated ← accept .NOT
  let null : Parsing (Option Tree) := do
    return some (← node .isValue
      [("this", .ofOption this), ("expression", .of .null [])])
  let found ←
    match ← rangeAfter g this with
    | some none => return this
    | some r => pure r
    | none =>
      if ← accept .ISNULL then null
      else if negated then
        if ← accept .NULL then null
        else
          backTo mark
          return this
      else pure this
  let found ←
    if ← accept .NOTNULL then
      let t ← node .isValue [("this", .ofOption found), ("expression", .of .null [])]
      some <$> node .negation [("this", t)]
    else pure found
  let found ←
    match found with
    | some t => if negated then some <$> negatedRange t else pure (some t)
    | none => pure none
  if ← sees .IS then identity g found else return found

/-- Reads comparisons by order. -/
def comparison (g : Rules) : Parsing (Option Tree) :=
  chain (range g) [(.GT, .gt), (.GTE, .gte), (.LT, .lt), (.LTE, .lte)] pure

/-- Reads equalities. -/
def equality (g : Rules) : Parsing (Option Tree) :=
  chain (comparison g) [(.EQ, .eq), (.NEQ, .neq), (.NULLSAFE_EQ, .nullSafeEq)] pure

/-- Reads a conjunction. -/
def conjunction (g : Rules) : Parsing (Option Tree) := do
  let more :=
    if (← features).has .barsMeanOr then [(TokenKind.DAMP, Kind.both), (.XOR, .exclusive)]
    else []
  chain (equality g) ([(TokenKind.AND, Kind.both)] ++ more) pure

/-- Reads a disjunction. -/
def disjunction (g : Rules) : Parsing (Option Tree) := do
  let bars := if (← features).has .barsMeanOr then [(TokenKind.DPIPE, Kind.either)] else []
  chain (conjunction g) ([(TokenKind.OR, Kind.either)] ++ bars) pure

/-- Reads an expression that may have an alias. -/
def expression (g : Rules) : Parsing (Option Tree) := do
  aliased false (← disjunction g)

end Parsing
end Sql
end SqlDialects
