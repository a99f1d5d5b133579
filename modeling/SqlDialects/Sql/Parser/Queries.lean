import SqlDialects.Sql.Lexer
import SqlDialects.Sql.Parser.Tables

/-!
# Reading queries

Queries with their clauses, named queries before them, and combinations of queries.

**Results.**
* `query` reads a query, where its place says what may stand there.
* `clauses` reads the clauses after a query; no clause may come twice.
* `combinations` reads the queries that a query is combined with, from left to right.
-/

namespace SqlDialects
namespace Sql
namespace Parsing

/-- Reads a source after the word `FROM`. -/
def from? (g : Rules) : Parsing (Option Tree) := do
  if ← accept .FROM then
    let comments := (← get).waiting
    let this ← source g TokenKind.isTableName
    return some (← finishWith comments (.of .fromClause [("this", this)]))
  else return none

/-- Reads a condition that a word announces. -/
def condition? (g : Rules) (word : TokenKind) (k : Kind) : Parsing (Option Tree) := do
  if ← accept word then
    let comments := (← get).waiting
    let this ← disjunction g
    return some (← finishWith comments (.of k [("this", .ofOption this)]))
  else return none

/-- Reads a condition on rows. -/
def where? (g : Rules) : Parsing (Option Tree) :=
  condition? g .WHERE .whereClause

/-- Reads the expressions that rows are grouped by. -/
def group? (g : Rules) : Parsing (Option Tree) := do
  if ← accept .GROUP_BY then
    let comments := (← get).waiting
    let keys ← separated (disjunction g)
    return some (← finishWith comments (.of .group [("expressions", .many keys)]))
  else return none

/-- Reads what a number of rows says besides the number: that it is a percentage, that it counts
rows, and whether rows that are equal to the last one count. -/
def limitOptions? : Parsing (Option Tree) := do
  let percent ← acceptAny [.PERCENT, .MOD]
  let rows ← acceptAny [.ROW, .ROWS]
  let _ ← acceptWord "ONLY"
  let ties ← acceptWords ["WITH", "TIES"]
  if !percent && !rows && !ties then return none
  return some (← node .limitOptions
    [("percent", .flag percent), ("rows", .flag rows), ("with_ties", .flag ties)])

/-- Reads a number of rows, after which a percent sign is no operator. -/
def rowCount (g : Rules) : Parsing (Option Tree) := do
  let mark ← get
  match ← attempt (sum g) with
  | none => product g
  | some t =>
    if t.isA .mod then
      backTo mark
      product g
    else return some t

/-- Reads the expressions whose values limit a number of rows each. -/
def limitKeys (g : Rules) : Parsing (List Tree) := do
  if ← acceptWord "BY" then separated (bitwise g) else return []

/-- Reads the number of rows after the word `LIMIT`, perhaps with an offset before it. -/
def limit? (g : Rules) : Parsing (Option Tree) := do
  unless ← accept .LIMIT do return none
  let comments := (← get).waiting
  let first ← rowCount g
  let options ← limitOptions?
  let two ← accept .COMMA
  let second ← if two then sum g else pure none
  let keys ← limitKeys g
  return some (← finishWith comments (.of .limit
    [("expression", .ofOption (if two then second else first)),
      ("offset", if two then .ofOption first else .absent),
      ("limit_options", .ofOption options),
      ("expressions", if keys.isEmpty then .absent else .many keys)]))

/-- Reads the number of rows after the word `TOP`. -/
def top? (g : Rules) : Parsing (Option Tree) := do
  unless ← accept .TOP do return none
  let comments := (← get).waiting
  let inside ← accept .L_PAREN
  let count ← if inside then sum g else number?
  if inside then endList
  let options ← limitOptions?
  let t ← finishWith comments
    (.of .limit [("expression", .ofOption count), ("limit_options", .ofOption options)])
  return some t.leading

/-- Reads a number of rows to fetch: a literal, a call or a name, but no word that may follow the
number. -/
def fetchCount? (g : Rules) : Parsing (Option Tree) := do
  if ← seesAny [.ROW, .ROWS, .PERCENT] then return none
  field? g

/-- Reads the number of rows after the word `FETCH`. -/
def fetch? (g : Rules) : Parsing (Option Tree) := do
  unless ← accept .FETCH do return none
  let named ← acceptIf fun t => t.kind == .FIRST || Text.upper t.text == "NEXT"
  let word ← previous
  let direction := if named then Text.upper word.text else "FIRST"
  let count ← fetchCount? g
  let options ← limitOptions?
  return some (← node .fetch
    [("direction", .text direction), ("count", .ofOption count),
      ("limit_options", .ofOption options)])

/-- Reads the number of rows that are passed over. -/
def offset? (g : Rules) : Parsing (Option Tree) := do
  if ← accept .OFFSET then
    let count ← sum g
    let _ ← acceptAny [.ROW, .ROWS]
    return some (← node .offset [("expression", .ofOption count)])
  else return none

/-- Reads windows with names. -/
def windows? (g : Rules) : Parsing (Option Tree) := do
  if ← accept .WINDOW then return some (.many (← separated (namedWindow? g))) else return none

/-- Reads a clause, with the name of the field that holds it. -/
def clause? (g : Rules) : Parsing (Option (String × Tree)) := do
  let under (name : String) (r : Parsing (Option Tree)) : Parsing (Option (String × Tree)) := do
    return (← r).map fun t => (name, t)
  match (← current).kind with
  | .WHERE => under "where" (where? g)
  | .GROUP_BY => under "group" (group? g)
  | .HAVING => under "having" (condition? g .HAVING .having)
  | .QUALIFY => under "qualify" (condition? g .QUALIFY .qualify)
  | .WINDOW => under "windows" (windows? g)
  | .ORDER_BY => under "order" (ordering? g)
  | .LIMIT => under "limit" (limit? g)
  | .FETCH => under "limit" (fetch? g)
  | .OFFSET => under "offset" (offset? g)
  | _ => return none

/-- A query with a clause. An offset that stands in a limit becomes a clause of its own. -/
def withClause (name : String) (clause t : Tree) : Tree :=
  match if name == "limit" then clause.field? "offset" else none with
  | some o =>
    let passed := Tree.of .offset
      [("expression", o), ("expressions", .ofOption (clause.field? "expressions"))]
    (t.set name ((clause.drop "offset").drop "expressions")).set "offset" passed
  | none => t.set name (clause.drop "offset")

/-- Reads clauses. -/
def moreClauses (g : Rules) : (fuel : Nat) → Tree → Parsing Tree
  | 0, t => return t
  | fuel + 1, t => do
    let word ← current
    match ← clause? g with
    | none => return t
    | some (name, clause) =>
      if (t.field? name).isSome then
        complain (.repeated (Text.upper word.text)) (some word)
      moreClauses g fuel (withClause name clause t)

/-- Reads the joins and the clauses after a query. -/
def clauses (g : Rules) (q : Option Tree) : Parsing (Option Tree) := do
  match q with
  | none => return none
  | some t =>
    if (t.kind?.map Kind.takesClauses).getD false then
      return some (← moreClauses g (← budget) (← withJoins g t))
    else return some t

/-- The words that combine queries. -/
def combiners : List (TokenKind × Kind) :=
  [(.UNION, .unionOf), (.EXCEPT, .exceptOf), (.INTERSECT, .intersectOf)]

/-- Reads whether a combination drops equal rows: the word after it, or what the dialect takes a
combination without a word to mean. -/
def distinctness (k : Kind) : Parsing (Option Bool) := do
  if ← accept .DISTINCT then return some true
  if ← accept .ALL then return some false
  let plain := (← features).plainCombination k
  if plain.isNone then complain (.expected ("DISTINCT or ALL for " ++ k.name)) none
  return plain

/-- Reads a query that a query is combined with by one of some words. -/
def combinationBy (words : List (TokenKind × Kind)) (operand : Kind → Parsing (Option Tree))
    (this : Tree) : Parsing (Option Tree) := do
  match (← current?).bind fun t => words.lookup t.kind with
  | none => return none
  | some k =>
    advance
    let comments := (← previous).comments
    let distinct ← distinctness k
    let byName ← acceptWords ["BY", "NAME"]
    let right ← operand k
    return some (← finishWith comments (.of k
      [("this", this), ("distinct", .ofOption (distinct.map .flag)),
        ("by_name", if byName then .flag true else .absent),
        ("expression", .ofOption right)]))

/-- Reads the queries that a query is combined with by some words, from left to right. -/
def moreCombinations (words : List (TokenKind × Kind)) (operand : Kind → Parsing (Option Tree)) :
    (fuel : Nat) → Tree → Parsing Tree
  | 0, t => return t
  | fuel + 1, t => do
    match ← combinationBy words operand t with
    | none => return t
    | some t => moreCombinations words operand fuel t

/-- Clauses that belong to a whole combination, though they stand after its last query. -/
def sharedClauses : List String :=
  ["offset", "order", "limit"]

/-- A clause that belongs to a whole combination. A number of rows that stands before the
expressions of a query belongs to the query. -/
def sharedClause? (q : Tree) (name : String) : Option (String × Tree) :=
  match (q.field? name).filter fun c => !c.isLeading with
  | none => none
  | some c => some (name, if name == "limit" then c.examined else c)

/-- A combination with the clauses that stand after its last query. -/
def lifted (t : Tree) : Tree :=
  match t.field? "expression" with
  | none => t
  | some last =>
    let found := sharedClauses.filterMap (sharedClause? last)
    let last := found.foldl (fun q c => q.drop c.1) last
    found.foldl (fun q c => q.set c.1 c.2) (t.set "expression" last)

/-- A combination with the clauses that belong to it as a whole, where they do. -/
def settled (t : Tree) : Parsing Tree := do
  let own := (← features).has .ownClauses
  return if (t.kind?.map Kind.isSetOperation).getD false && !own then lifted t else t

/-- Reads a query that another one is combined with. Intersections are stronger than other
combinations. -/
def combinedWith (g : Rules) (k : Kind) : Parsing (Option Tree) := do
  match ← g.query .operand with
  | none => return none
  | some q =>
    if k == .intersectOf then return some q
    else
      let words := combiners.filter fun w => w.2 == .intersectOf
      return some (← settled
        (← moreCombinations words (fun _ => g.query .operand) (← budget) q))

/-- Reads the queries that a query is combined with. -/
def combinations (g : Rules) (q : Option Tree) : Parsing (Option Tree) := do
  match q with
  | none => return none
  | some t =>
    return some (← settled (← moreCombinations combiners (combinedWith g) (← budget) t))

/-- Reads whether a named query is to be kept as a table. -/
def materialization : Parsing Tree := do
  if ← acceptWords ["NOT", "MATERIALIZED"] then return .flag false
  else if ← acceptWord "MATERIALIZED" then return .flag true
  else return .absent

/-- Reads a named query. -/
def namedQuery? (g : Rules) : Parsing (Option Tree) := do
  let mark ← get
  let aliasTree ← tableAlias? TokenKind.isName
  if (aliasTree.bind fun a => a.field? "this").isNone then complain .aliasOfQuery none
  let announced ← accept .ALIAS
  if announced || !(← features).has .announcedQueries then
    let comments := (← get).waiting
    let materialized ← materialization
    let this ← wrapped g.statement
    return some (← finishWith comments (.of .cte
      [("this", .ofOption this), ("alias", .ofOption aliasTree), ("materialized", materialized)]))
  else
    backTo mark
    return none

/-- Reads named queries. -/
def namedQueries (g : Rules) : (fuel : Nat) → Parsing (List Tree)
  | 0 => return []
  | fuel + 1 => do
    let first ← namedQuery? g
    if ← acceptAny [.COMMA, .WITH] then
      let _ ← accept .WITH
      return first.toList ++ (← namedQueries g fuel)
    else return first.toList

/-- Reads the named queries that stand before a statement. -/
def with? (g : Rules) : Parsing (Option Tree) := do
  if ← accept .WITH then
    let comments := (← get).waiting
    let recursive ← accept .RECURSIVE
    let queries ← namedQueries g (← budget)
    return some (← finishWith comments (.of .withClause
      [("expressions", .many queries), ("recursive", .flag recursive)]))
  else return none

/-- Reads the statement after named queries. -/
def named (g : Rules) (queries : Tree) : Parsing (Option Tree) := do
  match ← g.statement with
  | none =>
    complain .nothingAfterQueries none
    return some queries
  | some t =>
    let t := t.unwrapped
    let kind := t.kind?.getD .expression
    if kind.takesNamedQueries then
      let inner := (t.field? "with_").map fun w => w.items "expressions"
      let own := queries.set "expressions" (.many (queries.items "expressions" ++ inner.getD []))
      return some (t.set "with_" own)
    else
      complain (.noNamedQueries kind) none
      return some queries

/-- Reads a hint: a call or a word. -/
def hint? (g : Rules) : Parsing (Option Tree) := do
  match ← call? g false false true with
  | some t => return some t
  | none =>
    if ← accept .VAR then
      return some (← node .var [("this", .text (Text.upper (← previous).text))])
    else return none

/-- Reads hints between commas, as often as there are some. -/
def hintItems (g : Rules) : (fuel : Nat) → Parsing (List Tree)
  | 0 => return []
  | fuel + 1 => do
    match ← separated (hint? g) with
    | [] => return []
    | ts => return ts ++ (← hintItems g fuel)

/-- The hints in a comment; what is no list of hints is a hint as a whole. -/
def hintsIn (g : Rules) (text : String) : Parsing Tree := fun setting cursor =>
  let whole := Tree.text (String.ofList (Text.trim Text.isSpace text.toList))
  let hints (ts : List Tree) : Tree := .of .hint [("expressions", .many ts)]
  match Lexer.tokens setting.features text with
  | .error _ => .ok (hints [whole], cursor)
  | .ok ts =>
    match hintItems g ts.length { setting with collecting := false } ⟨none, ts, [], []⟩ with
    | .ok (items, c) => .ok (hints (if c.rest.isEmpty then items else [whole]), cursor)
    | .error (.rejected _) => .ok (hints [whole], cursor)
    | .error .tooDeep => .error .tooDeep

/-- Reads a comment with hints. -/
def hints? (g : Rules) : Parsing (Option Tree) := do
  if ← accept .HINT then
    match (← previous).comments with
    | text :: _ => return some (← check (← hintsIn g text))
    | [] => return none
  else return none

/-- Reads a query from its first word on. -/
def select (g : Rules) (leading : Option Tree) : Parsing (Option Tree) := do
  let comments := (← get).waiting
  let hint ← hints? g
  let qualified := (← following?).any fun t => t.kind == .DOT
  let all ← if qualified then pure false else accept .ALL
  let distinct ← if qualified then pure false else accept .DISTINCT
  let mark ← if distinct then some <$> node .distinct [] else pure none
  if all && distinct then complain .contradictoryQuantifiers none
  let top ← top? g
  let items ← separated (expression g)
  let t ← node .select
    [("hint", .ofOption hint), ("distinct", .ofOption mark), ("expressions", .many items),
      ("limit", .ofOption top)]
  let _ ← takeWaiting
  let t := t.withComments comments
  let source ← if leading.isSome then pure leading else from? g
  clauses g (some (match source with
    | some s => t.set "from_" s
    | none => t))

/-- Reads a query or a table in parentheses. -/
def nested (g : Rules) (place : QueryPlace) : Parsing (Option Tree) := do
  let comments := (← get).waiting
  let inner ← if place.table then g.table else g.query ⟨true, false, true, false⟩
  let inner ← g.clauses (← g.combinations inner)
  endList
  match inner with
  | none => return none
  | some t =>
    let t := t.withComments (comments ++ t.comments)
    let sub ← pivoted g (.of .subquery [("this", t)])
    let aliasTree ← if place.aliased then tableAlias? TokenKind.isTableName else pure none
    return some (← finish (sub.set "alias" (.ofOption aliasTree)))

/-- Reads a query, if one is next. -/
def query (g : Rules) (place : QueryPlace) : Parsing (Option Tree) := do
  let combine (q : Option Tree) : Parsing (Option Tree) :=
    if place.combined then combinations g q else pure q
  match ← with? g with
  | some queries => named g queries
  | none =>
    let leading ← from? g
    if ← accept .SELECT then combine (← select g leading)
    else if ← if place.table || place.nested then accept .L_PAREN else pure false then
      nested g place
    else
      match ← if ← sees .VALUES then rows? g else pure none with
      | some t => combine (some t)
      | none =>
        match leading with
        | none => return none
        | some source =>
          let t := Tree.of .select
            [("expressions", .many [.of .star []]), ("from_", source)]
          combine (← clauses g (some t))

end Parsing
end Sql
end SqlDialects
