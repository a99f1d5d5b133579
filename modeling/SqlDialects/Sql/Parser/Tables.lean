import SqlDialects.Sql.Parser.Terms

/-!
# Reading tables

What queries take their rows from: tables, queries in parentheses, listed rows, and joins of these.

**Results.**
* `table` reads a source of rows with its alias and pivots.
* `joins` reads the joins that follow a source.
-/

namespace SqlDialects
namespace Sql
namespace Parsing

/-- Reads a text in place of a name. -/
def textAsName? : Parsing (Option Tree) := do
  if ← accept .STRING then
    return some (.of .identifier [("this", .text (← previous).text), ("quoted", .flag true)])
  else return none

/-- Reads a part of a table's name; a call may stand there unless columns are to follow. -/
def tablePart? (g : Rules) (columns : Bool) : Parsing (Option Tree) := do
  let call ←
    if columns then pure none else call? g false false false
  match call with
  | some t => return some t
  | none =>
    match ← plainName? with
    | some t => return some t
    | none => textAsName?

/-- The parts of a table's name: the table, its database, and its catalog. -/
def tableParts (g : Rules) (columns : Bool) : (fuel : Nat) → (table db catalog : Option Tree) →
    Parsing (Option Tree × Option Tree × Option Tree)
  | 0, table, db, catalog => return (table, db, catalog)
  | fuel + 1, table, db, catalog => do
    if ← accept .DOT then
      let part ← tablePart? g columns
      match catalog with
      | some c =>
        let t ← node .dot [("this", .ofOption table), ("expression", .ofOption part)]
        tableParts g columns fuel (some t) db (some c)
      | none => tableParts g columns fuel part table db
    else return (table, db, catalog)

/-- Reads an alias of a table, perhaps with names of columns. -/
def tableAlias? (ok : TokenKind → Bool) : Parsing (Option Tree) := do
  let marked ← accept .ALIAS
  let name ←
    match ← name? marked ok with
    | some t => pure (some t)
    | none => textAsName?
  let mark ← get
  let columns ←
    if ← accept .L_PAREN then
      let names ← separated (name? true TokenKind.isName)
      if names.isEmpty then backTo mark else endList
      pure names
    else pure []
  if name.isNone && columns.isEmpty then return none
  let comments := (name.map Tree.comments).getD []
  let own := Tree.ofOption (name.map fun n => n.withComments [])
  let t ← node .tableAlias
    [("this", own), ("columns", if columns.isEmpty then .absent else .many columns)]
  return some (t.addComments comments)

/-- Reads a field of a pivot: a column and the values that become columns. -/
def pivotField? (g : Rules) : Parsing (Option Tree) := do
  match ← column? g with
  | none => return none
  | some c =>
    unless ← accept .IN do complain (.expecting "IN") none
    membership g (some c)

/-- Reads the fields of a pivot. -/
def pivotFields (g : Rules) : (fuel : Nat) → Parsing (List Tree)
  | 0 => return []
  | fuel + 1 => do
    match ← attempt (pivotField? g) with
    | none => return []
    | some f => return f :: (← pivotFields g fuel)

/-- Reads a pivot. -/
def pivot? (g : Rules) : Parsing (Option Tree) := do
  if ← acceptPair .PIVOT .L_PAREN then
    let sums ← separated do aliased false (← call? g false false true)
    if sums.isEmpty then complain .noAggregates none
    unless ← accept .FOR do complain (.expecting "FOR") none
    let fields ← pivotFields g (← budget)
    endList
    let t ← node .pivot
      [("expressions", .many sums), ("fields", .many fields), ("unpivot", .flag false)]
    if ← sees .PIVOT then return some t
    else
      let aliasTree ← tableAlias? TokenKind.isTableName
      return some (t.set "alias" (.ofOption aliasTree))
  else return none

/-- Reads pivots. -/
def pivots (g : Rules) : (fuel : Nat) → Parsing (List Tree)
  | 0 => return []
  | fuel + 1 => do
    match ← pivot? g with
    | none => return []
    | some p => return p :: (← pivots g fuel)

/-- A tree with the pivots that follow it. -/
def pivoted (g : Rules) (t : Tree) : Parsing Tree := do
  if (t.field? "pivots").isSome then return t
  match ← pivots g (← budget) with
  | [] => return t
  | ps => return t.set "pivots" (.many ps)

/-- Reads the name of a table; complains if there is none. -/
def tableName (g : Rules) (columns : Bool) : Parsing Tree := do
  let first ← tablePart? g columns
  let (table, db, catalog) ← tableParts g columns (← budget) first none none
  if table.isNone then
    complain (.expected ("table name but got " ++ (← current).describe)) none
  let comments := (table.map Tree.comments).getD []
  let t ← finishWith comments (.of .table
    [("this", .ofOption (table.map fun t => t.withComments [])), ("db", .ofOption db),
      ("catalog", .ofOption catalog)])
  pivoted g t

/-- Reads a value of a row, or the word for the default value of a column. -/
def rowValue (g : Rules) : Parsing (Option Tree) := do
  if (← features).has .noDefaultValues then return ← g.expression
  if ← accept .DEFAULT then return some (wordNode (Text.upper (← previous).text))
  g.expression

/-- Reads a row of values. -/
def row? (g : Rules) : Parsing (Option Tree) := do
  if ← accept .L_PAREN then
    let items ← separated (rowValue g)
    endList
    return some (← node .tuple [("expressions", .many items)])
  else
    match ← g.expression with
    | some e => return some (← node .tuple [("expressions", .many [e])])
    | none => return none

/-- Reads listed rows, perhaps in parentheses. -/
def rows? (g : Rules) : Parsing (Option Tree) := do
  let inside ← acceptPair .L_PAREN .VALUES
  let listed ← if inside then pure true else acceptWord "VALUES"
  if listed then
    let rows ← separated (row? g)
    let inner ← tableAlias? TokenKind.isTableName
    if inside then endList
    let aliasTree ← if inner.isSome then pure inner else tableAlias? TokenKind.isTableName
    return some (← node .values [("expressions", .many rows), ("alias", .ofOption aliasTree)])
  else return none

/-- Reads a source of rows. An alias of a table is a name that passes a test. -/
def source (g : Rules) (ok : TokenKind → Bool) : Parsing Tree := do
  match ← rows? g with
  | some t => return t
  | none =>
    match ← g.query .source with
    | some t => pivoted g t
    | none =>
      let t ← tableName g false
      let t ←
        match ← tableAlias? ok with
        | some a => pure (t.set "alias" a)
        | none => pure t
      pivoted g t

/-- Reads a source of rows. -/
def table (g : Rules) : Parsing (Option Tree) :=
  some <$> source g TokenKind.isTableName

/-- The words that say how two sources are joined, each with the field it belongs to, and the
comments of these words. -/
def joinWords : Parsing (List (String × Tree) × List String) := do
  let word (name : String) (ks : List TokenKind) :
      Parsing (List (String × Tree) × List String) := do
    if ← acceptAny ks then
      let t ← previous
      return ([(name, .text (Text.upper t.text))], t.comments)
    else return ([], [])
  let method ← word "method" [.ASOF, .NATURAL]
  let side ← word "side" [.LEFT, .RIGHT, .FULL]
  let kind ← word "kind" [.ANTI, .CROSS, .INNER, .OUTER, .SEMI]
  return (method.1 ++ side.1 ++ kind.1, method.2 ++ side.2 ++ kind.2)

/-- The names of columns that two sources share. -/
def sharedColumns (g : Rules) : Parsing Tree := do
  let name : Parsing (Option Tree) := do
    match ← column? g with
    | some t => return if t.isA .column then t.field? "this" else some t
    | none => return none
  let names ← if ← sees .L_PAREN then wrapped (separated name) else separated name
  return .many names

/-- Reads the condition of a join. -/
def joinCondition (g : Rules) : Parsing (List (String × Tree)) := do
  if ← accept .ON then return [("on", .ofOption (← g.disjunction))]
  else if ← accept .USING then return [("using", ← sharedColumns g)]
  else return []

mutual

/-- Reads a join. A join without a condition takes the joins after it to itself if a condition
follows those. -/
def join? (g : Rules) : (fuel : Nat) → Parsing (Option Tree)
  | 0 => return none
  | fuel + 1 => do
    if ← accept .COMMA then
      match ← attempt g.table with
      | none => return none
      | some t => return some (← node .join [("this", t)])
    let mark ← get
    let (words, remarks) ← joinWords
    if ← accept .JOIN then
      let comments := (← get).waiting ++ remarks
      let this ← source g TokenKind.isTableName
      let condition ← joinCondition g
      let bare := condition.isEmpty && (words.lookup "method").isNone
        && (words.lookup "kind").all fun k => match k with
          | .scalar (.text s) => s != "CROSS"
          | _ => true
      let (this, condition) ←
        if bare then
          let before ← get
          let more ← joinsWithin g fuel
          let late ← if more.isEmpty then pure [] else joinCondition g
          if late.isEmpty then
            backTo before
            pure (this, condition)
          else pure (this.set "joins" (.many more), late)
        else pure (this, condition)
      return some (← finishWith comments (.of .join ([("this", this)] ++ words ++ condition)))
    else
      backTo mark
      return none

/-- Reads joins. -/
def joinsWithin (g : Rules) : (fuel : Nat) → Parsing (List Tree)
  | 0 => return []
  | fuel + 1 => do
    match ← join? g fuel with
    | none => return []
    | some j => return j :: (← joinsWithin g fuel)

end

/-- Reads the joins after a source. -/
def joins (g : Rules) : Parsing (List Tree) := do
  joinsWithin g (2 * (← budget))

/-- A tree with the joins that follow it. -/
def withJoins (g : Rules) (t : Tree) : Parsing Tree := do
  match ← joins g with
  | [] => return t
  | js => return t.set "joins" (.many (t.items "joins" ++ js))

end Parsing
end Sql
end SqlDialects
