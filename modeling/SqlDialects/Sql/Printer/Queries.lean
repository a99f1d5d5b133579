import SqlDialects.Sql.Printer.Terms
import SqlDialects.Sql.Rewriting.Amounts
import SqlDialects.Sql.Rewriting.Joins
import SqlDialects.Sql.Rewriting.Nesting
import SqlDialects.Sql.Rewriting.Outputs
import SqlDialects.Sql.Rewriting.Windows

/-!
# Writing queries

Queries with their clauses, tables and joins, and combinations of queries.

**Rules.**
* A query is first put in other words where the dialect cannot say it as it stands.
* Every clause starts after a gap. Its conditions or keys stand on lines of their own.
* The number of rows is asked for where the dialect asks for it: after the first word of a query, or
  after its last clause.
* A join without a condition or a kind is a comma.

**Results.**
* `Pen.query?` writes a query or a part of one; it is `none` for all other nodes.
-/

namespace SqlDialects
namespace Sql
namespace Pen

open Writing

/-- Writes a field in parentheses, on lines of its own. -/
def wrapped (g : Pen) (name : String) (t : Tree) : Writing Layout := do
  let l ← g.field name t
  if l.isEmpty then put "()" else parenthesized l

/-- Writes a text after the named queries that stand before it. -/
def afterNamed (g : Pen) (t : Tree) (l : Layout) : Writing Layout := do
  let named ← g.field "with_" t
  if named.isEmpty then return l
  return named ++ (← gap) ++ l

/-- Writes a condition after a word. -/
def condition (g : Pen) (word : String) (t : Tree) : Writing Layout := do
  let this ← g.field "this" t
  return (← clause word) ++ (← gap) ++ (← indented this)

/-- Writes keys after a word. -/
def keys (g : Pen) (word : String) (t : Tree) : Writing Layout := do
  let l ← g.block (t.items "expressions")
  let word ← clause word
  if l.isEmpty then return word
  return word ++ (← gap) ++ l

/-- A number of rows as the dialect takes it. -/
def amount (f : Features) (t : Tree) : Tree :=
  if f.has .literalLimits then Rewriting.literalAmount t else t

/-- Writes what a number of rows says besides the number. -/
def limitOptions (t : Tree) : Writing Layout :=
  let say (name word : String) : String := if t.holds name then word else ""
  let only := if t.holds "rows" && !t.holds "with_ties" then " ONLY" else ""
  put (say "percent" " PERCENT" ++ say "rows" " ROWS" ++ say "with_ties" " WITH TIES" ++ only)

/-- Writes a number of rows that is asked for before the expressions. -/
def top (g : Pen) (t : Tree) : Writing Layout := do
  let count := amount (← features) (.ofOption (t.field? "expression"))
  let l ← g.write count
  return (← clause "TOP") ++ .ofText " "
    ++ (if Rewriting.isNumber count then l else .ofText "(" ++ l ++ .ofText ")")
    ++ (← g.field "limit_options" t)

/-- Writes a number of rows. -/
def limit (g : Pen) (t : Tree) : Writing Layout := do
  let f ← features
  let ls ← (["offset", "expression"].filterMap fun n => t.field? n).mapM fun u =>
    g.write (amount f u)
  let keys ← g.flat ", " (t.items "expressions")
  return (← clause "LIMIT") ++ .ofText " " ++ .join (.ofText ", ") ls
    ++ (← g.field "limit_options" t)
    ++ (if keys.isEmpty then .empty else .ofText " BY " ++ keys)

/-- Writes a number of rows that are fetched. -/
def fetch (g : Pen) (t : Tree) : Writing Layout := do
  let options ← g.field "limit_options" t
  return (← clause "FETCH") ++ (← g.fieldAfter " " "direction" t)
    ++ (← g.fieldAfter " " "count" t)
    ++ (if options.isEmpty then .ofText " ROWS ONLY" else options)

/-- Whether the query around a clause fetches a number of rows. -/
def fetching : Writing Bool :=
  return (← ancestors).head?.any fun q => (q.field? "limit").any fun l => l.isA .fetch

/-- Writes a number of rows that are passed over. -/
def offset (g : Pen) (t : Tree) : Writing Layout := do
  let f ← features
  let count ← g.write (amount f (.ofOption (t.field? "expression")))
  let keys ← g.flat ", " (t.items "expressions")
  let inRows := f.has .offsetInRows || (f.fetch == .afterOffset && (← fetching))
  return (← clause "OFFSET") ++ .ofText " " ++ count
    ++ .ofText (if inRows then " ROWS" else "")
    ++ (if keys.isEmpty then .empty else .ofText " BY " ++ keys)

/-- A number of rows that are fetched, in place of a number of rows. -/
def asFetch (t : Tree) : Tree :=
  .of .fetch [("direction", .text "FIRST"), ("count", .ofOption (t.field? "expression"))]

/-- A number of rows, in place of one that is fetched; a row without a number is one row. -/
def asLimit (t : Tree) : Tree :=
  .of .limit [("expression", (t.field? "count").getD (.number 1))]

/-- The number of rows of a query in the form of the dialect. -/
def limitOf (f : Features) (t : Tree) : Option Tree :=
  (t.field? "limit").map fun l =>
    match f.fetch with
    | .always => if l.isA .limit then asFetch l else l
    | .never => if l.isA .fetch then asLimit l else l
    | .afterOffset =>
      if l.isA .fetch && (t.field? "offset").isNone then asLimit l else l
    | .asWritten => l

/-- The clauses before the number of rows, in the order in which they are written. -/
def earlyClauses : List String :=
  ["where", "group", "having", "windows", "qualify", "order"]

/-- Writes a clause before the number of rows. -/
def earlyClause (g : Pen) (name : String) (t : Tree) : Writing Layout := do
  if name == "windows" then
    let ls ← g.flat ", " (t.items name)
    if ls.isEmpty then return .empty else return (← clause "WINDOW ") ++ ls
  else g.field name t

/-- Writes a query with the joins and the clauses that follow it. -/
def modified (g : Pen) (t : Tree) (l : Layout) : Writing Layout := do
  let f ← features
  let joins ← (t.items "joins").mapM g.write
  let clauses ← earlyClauses.mapM fun name => earlyClause g name t
  let rows := limitOf f t
  let count ← match rows with
    | some r => g.write r
    | none => pure .empty
  let passed ← g.field "offset" t
  let fetched := rows.any fun r => r.isA .fetch
  let last := if fetched || f.has .offsetFirst then [passed, count] else [count, passed]
  return .join .empty ([l] ++ joins ++ clauses ++ last)

/-- The word that combines queries. -/
def combiner (k : Kind) : String :=
  match k with
  | .exceptOf => "EXCEPT"
  | .intersectOf => "INTERSECT"
  | _ => "UNION"

/-- The combinations in a chain of them, from the inside out, each with the queries it adds. -/
inductive Combined where
  | query (t : Tree)
  | word (t : Tree)

mutual

/-- The queries in a combination with the combining nodes between them. A combination that another
query is combined with is one query. -/
def combined : Tree → List Combined
  | .node k fs cs origin =>
    if k.isSetOperation then
      let right := (Tree.node k fs cs origin).field? "expression"
      combinedField "this" fs
        ++ [.word (.node k fs cs origin), .query (.ofOption right)]
    else [.query (.node k fs cs origin)]
  | t => [.query t]

/-- The queries in a field of a combination. -/
def combinedField (name : String) : List (String × Tree) → List Combined
  | [] => []
  | (n, t) :: fs => if n == name then combined t else combinedField name fs

end

/-- Writes the words that combine two queries, or notes that the dialect lacks them. -/
def combiningWords (t : Tree) : Writing Layout := do
  let f ← features
  let kind := t.kind?.getD .unionOf
  let word := combiner kind
  let plain := f.plainCombination kind
  let said := (t.field? "distinct").map fun d => (Tree.of kind [("distinct", d)]).holds "distinct"
  if said == some false && kind != .unionOf && f.has .distinctCombinations then
    unsupported (word ++ " ALL is not supported")
  if said.isNone && plain.isNone then
    unsupported (word ++ " requires DISTINCT or ALL to be specified")
  let distinct := said <|> plain
  let quantifier :=
    if distinct == plain then ""
    else if distinct == some true then " DISTINCT"
    else " ALL"
  let byName := if t.holds "by_name" then " BY NAME" else ""
  Remark.before t.comments (.ofText (word ++ quantifier ++ byName))

/-- Whether a query has clauses that would belong to a combination that it stands in. -/
def endsOpen (t : Tree) : Bool :=
  t.isA .select && ["order", "limit", "offset"].any fun n => (t.field? n).isSome

/-- Writes a query that is combined with others. A combination is in parentheses, and so is a query
with an order or a number of rows; where a query cannot be in parentheses, it stands for a table. -/
def operand (g : Pen) (t : Tree) : Writing Layout := do
  if (t.kind?.map Kind.isSetOperation).getD false || endsOpen t then
    if (← features).has .bareOperands then
      g.write (.fromSource (.subquery t none) (.select [.star]))
    else parenthesized (← g.write t)
  else g.write t

/-- A query around a combination that takes over its order and its number of rows. -/
def outerQuery (f : Features) (t : Tree) : Tree :=
  let inner := (t.drop "limit").drop "order"
  let q := Tree.fromSource (.subquery inner (some (.nameOf "_l_0"))) (.select [.star])
  let q := ["limit", "order"].foldl (fun q n =>
    match t.field? n with
    | some u => q.set n u
    | none => q) q
  if f.outerQueries.contains .select then Rewriting.withOuterQueries q else q

/-- Writes a combination of queries. -/
def combination (g : Pen) (t : Tree) : Writing Layout := do
  let f ← features
  let hasClauses := (t.field? "limit").isSome || (t.field? "order").isSome
  if f.has .bareCombinations && hasClauses then g.write (outerQuery f t)
  else
    let ls ← (combined t).mapM fun c =>
      match c with
      | .query q => operand g q
      | .word t => combiningWords t
    afterNamed g t (← modified g t (.join (← gap) ls))

/-- A query in other words, where the dialect cannot say it as it stands. -/
def inOtherWords (f : Features) (t : Tree) : Except WriteFault Tree :=
  let change (trait : Trait) (r : Tree → Tree) (t : Tree) : Tree := if f.has trait then r t else t
  let t := change .qualifiedStars Rewriting.withQualifiedStar t
  let t := change .localAliases Rewriting.withLocalAliases t
  let t := change .aliasedGroups Rewriting.groupedByAlias t
  let t := change .inlineWindows Rewriting.withInlineWindows t
  let t := change .noSemiJoins Rewriting.withoutSemiJoins t
  let t := change .noQualify Rewriting.withoutWindowCondition t
  match if f.has .noFullJoins then Rewriting.fullJoin? t else none with
  | none => .ok t
  | some n =>
    match Rewriting.withoutFullJoin? n t with
    | some t => .ok t
    | none => .error .noCondition

/-- A query whose numbers of rows the dialect can say together. -/
def withAmounts (f : Features) (t : Tree) : Tree :=
  let t :=
    if f.has .limitedOffset && (t.field? "offset").isSome && (t.field? "limit").isNone then
      t.set "limit" (.of .limit [("expression", .null)])
    else t
  if f.has .orderedOffset then
    let fetched := (t.field? "limit").any fun l => l.isA .fetch
    let t :=
      if fetched && (t.field? "offset").isNone then
        t.set "offset" (.of .offset [("expression", .number 0)])
      else t
    if (t.field? "offset").isSome then
      let anything := Tree.of .order
        [("expressions", .many [.subquery (.select [.null]) none])]
      let t := if (t.field? "order").isNone then t.set "order" anything else t
      match t.field? "limit" with
      | some l => if l.isA .limit then t.set "limit" (asFetch l) else t
      | none => t
    else t
  else t

/-- Writes hints. -/
def hints (g : Pen) (t : Tree) : Writing Layout := do
  match t.field? "hint" with
  | none => return .empty
  | some h =>
    let f ← features
    if f.has .plainHints || f.has .noHints then
      unsupported "Hints are not supported"
      return .empty
    else
      return .ofText " /*+ " ++ (← g.flat ", " (h.items "expressions")) ++ .ofText " */"

/-- Writes a query that is not to be put in other words. -/
def plainSelect (g : Pen) (t : Tree) : Writing Layout := do
  let f ← features
  let t := withAmounts f t
  let distinct ← g.fieldAfter " " "distinct" t
  let hints ← hints g t
  let count := (t.field? "limit").filter fun l => f.has .topFirst && l.isA .limit
  let first ← match count with
    | some l => top g l
    | none => pure .empty
  let t := if count.isSome then t.drop "limit" else t
  let early := if f.has .topFirst then distinct ++ hints ++ first else first ++ hints ++ distinct
  let items ← g.block (t.items "expressions")
  let items ← if items.isEmpty then pure .empty else pure ((← gap) ++ items)
  let into ← g.field "into" t
  let source ← g.field "from_" t
  let l ← modified g t (.ofText "SELECT" ++ early ++ items ++ into ++ source)
  let l ← if t.holds "with_" then Remark.before t.comments l else pure l
  afterNamed g t l

/-- Writes a query. -/
def select (g : Pen) (t : Tree) : Writing Layout := do
  match inOtherWords (← features) t with
  | .error e => throw e
  | .ok t => if t.isA .select then plainSelect g t else combination g t

/-- Writes the pivots of a source, or notes that the dialect has none. -/
def pivot (g : Pen) (t : Tree) : Writing Layout := do
  if !(← features).has .noPivots then
    let sums ← g.flat ", " (t.items "expressions")
    let fields ← g.flat " " (t.items "fields")
    return (← clause (if t.holds "unpivot" then "UNPIVOT" else "PIVOT")) ++ .ofText "(" ++ sums
      ++ .ofText " FOR " ++ fields ++ .ofText ")" ++ (← g.fieldAfter " AS " "alias" t)
  else
    unsupported "PIVOT unsupported"
    return .empty

/-- Writes a table with its alias, pivots and joins. -/
def table (g : Pen) (t : Tree) : Writing Layout := do
  let f ← features
  let nearest ← enclosing? fun k => k == .update || k == .delete || k == .select
  let changed := nearest.any fun u => !u.isA .select
  let word := if changed && f.has .silentTargetAliases then " " else f.tableAlias
  let name ← path g ["catalog", "db", "this"] t
  let aliasText ← g.fieldAfter word "alias" t
  let pivots ← g.flat "" (t.items "pivots")
  let joins ← indentedRest (← g.flat "" (t.items "joins"))
  return name ++ aliasText ++ pivots ++ joins

/-- Writes an alias of a table. -/
def tableAlias (g : Pen) (t : Tree) : Writing Layout := do
  let columns ← g.flat ", " (t.items "columns")
  let name ← g.field "this" t
  let nameless := (← features).has .noAliasColumns
  if !columns.isEmpty && nameless then
    unsupported "Named columns are not supported in table alias."
  let name ← if name.isEmpty then pure (.ofText (← freshName)) else pure name
  return if columns.isEmpty || nameless then name
    else name ++ .ofText "(" ++ columns ++ .ofText ")"

/-- A query in parentheses with clauses after them as one without parentheses: the clauses go to the
query itself, or else the query stands for a table. -/
def withoutParens (t : Tree) : Tree :=
  let clauses := ["order", "limit", "offset"]
  let outer := clauses.filterMap fun n => (t.field? n).map fun c => (n, c)
  let add (q : Tree) : Tree := outer.foldl (fun q c => q.set c.1 c.2) q
  match t.field? "this" with
  | none => t
  | some q =>
    if outer.isEmpty || clauses.all fun n => (q.field? n).isNone then add q
    else add (Tree.fromSource (.subquery q none) (.select [.star]))

/-- Writes a query in parentheses that stands among others. -/
def innerSubquery (g : Pen) (t : Tree) : Writing Layout := do
  let f ← features
  let t := if f.has .namedOutputs then Rewriting.withOutputNames t else t
  let query ← wrapped g "this" t
  let aliasText ← g.fieldAfter f.tableAlias "alias" t
  let pivots ← g.flat "" (t.items "pivots")
  afterNamed g t (← modified g t (query ++ aliasText ++ pivots))

/-- Writes a query in parentheses. -/
def subquery (g : Pen) (t : Tree) : Writing Layout := do
  let isWhole := (← ancestors).isEmpty && (t.field? "alias").isNone
  if isWhole && (← features).has .bareQueries then g.write (withoutParens t)
  else innerSubquery g t

/-- Writes a word and the rows that it asks about. -/
def rowTest (g : Pen) (t : Tree) : Writing Layout := do
  let this := Tree.ofOption (t.field? "this")
  let isQuery := this.isA .select || (this.kind?.map Kind.isSetOperation).getD false
  if t.isA .everyOf then
    match (← features).callNames.lookup .everyOf with
    | some name => g.call name [this]
    | none =>
      let l ← if this.isA .tuple || this.isA .paren then g.write this else wrapped g "this" t
      return .ofText "ALL " ++ l
  else if isQuery then return .ofText "ANY" ++ (← wrapped g "this" t)
  else return .ofText (if this.isA .tuple then "ANY" else "ANY ") ++ (← g.write this)

/-- The name of the alias of a tree. -/
def aliasName? (t : Tree) : Option Tree :=
  (t.field? "alias").bind fun a => a.field? "this"

/-- Listed rows as queries that are combined. -/
def rowsAsQueries (t : Tree) : Tree :=
  let names := Rewriting.aliasColumns t
  let named (u name : Tree) : Tree := u.aliased name
  let queries := (t.items "expressions").zipIdx.map fun (row, n) =>
    let values := row.items "expressions"
    Tree.select (if n = 0 && !names.isEmpty then List.zipWith named values names else values)
  match queries with
  | [] => .subquery .absent (aliasName? t)
  | q :: qs => .subquery (qs.foldl Tree.unionAll q) (aliasName? t)

/-- Writes listed rows as an array of records. -/
def rowsAsRecords (g : Pen) (t : Tree) : Writing Layout := do
  let names := Rewriting.aliasColumns t
  let fieldName (n : Nat) : Tree := (names[n]?).getD (.nameOf ("_c" ++ toString n))
  let record (row : Tree) : Tree :=
    let values := row.items "expressions"
    let values := if names.isEmpty then values else values.take names.length
    let fields := values.zipIdx.map fun (v, n) =>
      Tree.of .aliasOf [("this", v), ("alias", fieldName n)]
    .of .anonymous [("this", .text "STRUCT"), ("expressions", .many fields)]
  let records ← g.folded ((t.items "expressions").map record)
  let aliasText ← match aliasName? t with
    | some a => pure (.ofText " AS " ++ (← g.write a))
    | none => pure .empty
  return .ofText "UNNEST([" ++ records ++ .ofText "])" ++ aliasText

/-- The form of listed rows where they stand for a table. -/
def rowsForm (f : Features) (t : Tree) : RowsForm :=
  match f.rows with
  | .namedQueries =>
    let first := ((t.items "expressions").head?.map fun row => row.items "expressions").getD []
    if !(Rewriting.aliasColumns t).isEmpty && !first.any fun v => v.isA .tuple then .queries
    else .list
  | form => form

/-- Writes listed rows as they are. -/
def listedRows (g : Pen) (t : Tree) : Writing Layout := do
  let items ← g.block (t.items "expressions")
  let aliasText ← g.field "alias" t
  let listed := .ofText "VALUES" ++ (← gap) ++ items
  let inSource := (← parentKind?).any fun k => k == .fromClause || k == .table
  let enclosed := !(← features).has .openRows && (!aliasText.isEmpty || inSource)
  let listed := if enclosed then .ofText "(" ++ listed ++ .ofText ")" else listed
  let l ← modified g t listed
  return if aliasText.isEmpty then l else l ++ .ofText " AS " ++ aliasText

/-- Writes listed rows. -/
def rows (g : Pen) (t : Tree) : Writing Layout := do
  let asTable := (← enclosing? fun k => k == .fromClause || k == .join).isSome
  match rowsForm (← features) t, asTable with
  | .queries, true => g.write (rowsAsQueries t)
  | .records, true => rowsAsRecords g t
  | _, _ => listedRows g t

/-- The words of a join in a dialect, as one text. -/
def joinWords (f : Features) (t : Tree) : String :=
  let kind := Rewriting.joinWord "kind" t
  let semi := kind == "SEMI" || kind == "ANTI"
  let bare := (t.field? "on").isNone && !t.holds "using"
  let open' := f.has .openCrossJoins && bare && (t.field? "method").isNone
    && ["", "INNER", "OUTER"].contains kind
  let sideless := (semi && f.has .sidelessSemiJoins) || open'
  let side := if sideless then "" else Rewriting.joinWord "side" t
  let kind := if open' then "" else kind
  let words := [Rewriting.joinWord "method" t, side, kind]
  " ".intercalate (words.filter fun w => !w.isEmpty)

/-- Writes a join. -/
def join (g : Pen) (t : Tree) : Writing Layout := do
  let words := joinWords (← features) t
  let this ← g.field "this" t
  let onCondition ← g.field "on" t
  let shared ← g.flat ", " (t.items "using")
  let condition ←
    if !onCondition.isEmpty then
      pure (some (.ofText "ON " ++ (← indentedRest onCondition)))
    else if !shared.isEmpty then
      pure (some (.ofText "USING (" ++ shared ++ .ofText ")"))
    else pure none
  match condition with
  | none =>
    if words.isEmpty then return .ofText ", " ++ this
    else return (← clause (words ++ " JOIN")) ++ .ofText " " ++ this
  | some c =>
    let word ← clause (if words.isEmpty then "JOIN" else words ++ " JOIN")
    let between := if (← read).pretty then Layout.newline ++ .ofText "  " else .ofText " "
    return word ++ .ofText " " ++ this ++ between ++ c

/-- Writes a named query. -/
def namedQuery (g : Pen) (t : Tree) : Writing Layout := do
  let f ← features
  let t := if f.has .innerColumns then Rewriting.withInnerColumns t else t
  let t := if f.has .namedOutputs then Rewriting.withOutputNames t else t
  let aliasTree := (Tree.ofOption (t.field? "alias")).addComments t.comments
  let name ← g.write aliasTree
  let word :=
    match t.data? "materialized" with
    | some (.bool true) => "MATERIALIZED "
    | some (.bool false) => "NOT MATERIALIZED "
    | _ => ""
  return name ++ .ofText (" AS " ++ word) ++ (← wrapped g "this" t)

/-- Writes the source of a query. -/
def source (g : Pen) (t : Tree) : Writing Layout := do
  return (← clause "FROM") ++ .ofText " " ++ (← g.field "this" t)

/-- Writes the table that a query fills. -/
def into (g : Pen) (t : Tree) : Writing Layout := do
  return (← clause "INTO") ++ .ofText " " ++ (← g.field "this" t)

/-- Writes named queries. -/
def namedQueries (g : Pen) (t : Tree) : Writing Layout := do
  let f ← features
  let recursive := t.holds "recursive"
  if recursive && f.has .noRecursion then unsupported "Recursive CTEs are unsupported"
  let announced := recursive && !f.has .noRecursion && !f.has .silentRecursion
  let t := if f.has .recursiveColumns then Rewriting.withRecursiveColumns t else t
  return .ofText (if announced then "WITH RECURSIVE " else "WITH ")
    ++ (← g.flat ", " (t.items "expressions"))

/-- Writes a query or a part of one. -/
def query? (g : Pen) (t : Tree) (k : Kind) : Option (Writing Layout) :=
  match k with
  | .select => some (select g t)
  | .subquery => some (subquery g t)
  | .unionOf | .exceptOf | .intersectOf => some (combination g t)
  | .existence => some do return .ofText "EXISTS" ++ (← wrapped g "this" t)
  | .everyOf | .anyOf => some (rowTest g t)
  | .limitOptions => some (limitOptions t)
  | .withClause => some (namedQueries g t)
  | .cte => some (namedQuery g t)
  | .fromClause => some (source g t)
  | .into => some (into g t)
  | .whereClause => some (condition g "WHERE" t)
  | .having => some (condition g "HAVING" t)
  | .qualify => some (condition g "QUALIFY" t)
  | .group => some (keys g "GROUP BY" t)
  | .order => some (keys g "ORDER BY" t)
  | .limit => some (limit g t)
  | .fetch => some (fetch g t)
  | .offset => some (offset g t)
  | .table => some (table g t)
  | .tableAlias => some (tableAlias g t)
  | .values => some (rows g t)
  | .join => some (join g t)
  | .pivot => some (pivot g t)
  | _ => none

end Pen
end Sql
end SqlDialects
