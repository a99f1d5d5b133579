import SqlDialects.Sql.Parser.Queries

/-!
# Reading statements

Statements that change tables, and the choice among all statements by their first word.

**Results.**
* `statement` reads a statement; what starts with no word of its own is an expression or a query.
-/

namespace SqlDialects
namespace Sql
namespace Parsing

/-- Reads `IF EXISTS`, or `IF NOT EXISTS`; words that are there are read even if others are
missing. -/
def ifExists (negated : Bool) : Parsing Bool := do
  unless ← acceptWord "IF" do return false
  if negated then
    unless ← accept .NOT do return false
  accept .EXISTS

/-- The names of columns in parentheses, if there are some. -/
def columnNames? (g : Rules) (this : Option Tree) : Parsing (Option Tree) := do
  if ← accept .L_PAREN then
    let names ← separated (field? g)
    endList
    return some (← node .schema [("this", .ofOption this), ("expressions", .many names)])
  else return this

/-- Words for what becomes of rows whose key is changed or removed elsewhere. -/
def keyActions : List (List String) :=
  [["NO", "ACTION"], ["CASCADE"], ["RESTRICT"], ["SET", "NULL"], ["SET", "DEFAULT"]]

/-- Words that a key may end with. -/
def keyRemarks : List (List String) :=
  [["NOT", "ENFORCED"], ["MATCH", "FULL"], ["MATCH", "PARTIAL"], ["MATCH", "SIMPLE"],
    ["INITIALLY", "DEFERRED"], ["INITIALLY", "IMMEDIATE"], ["USING", "BTREE"], ["USING", "HASH"],
    ["DEFERRABLE"], ["NORELY"], ["RELY"]]

/-- Reads the first of some phrases that is next. -/
def acceptPhrase : List (List String) → Parsing (Option String)
  | [] => return none
  | ws :: more => do
    if ← acceptWords ws then return some (" ".intercalate ws) else acceptPhrase more

/-- Reads what becomes of rows whose key is changed or removed elsewhere. -/
def keyAction? : Parsing (Option Tree) := do
  unless ← accept .ON do return none
  let word := (← current).text
  advance
  match ← acceptPhrase keyActions with
  | some action => return some (.text ("ON " ++ word ++ " " ++ action))
  | none =>
    complain .badKey none
    return some (.text ("ON " ++ word ++ " None"))

/-- Reads what is said of a key at its end. -/
def keyOptions : (fuel : Nat) → Parsing (List Tree)
  | 0 => return []
  | fuel + 1 => do
    match ← keyAction? with
    | some t => return t :: (← keyOptions fuel)
    | none =>
      match ← acceptPhrase keyRemarks with
      | some s => return .text s :: (← keyOptions fuel)
      | none => return []

/-- Reads the columns of another table that columns have their values from. -/
def keyReference? (g : Rules) : Parsing (Option Tree) := do
  unless ← accept .REFERENCES do return none
  let this ← columnNames? g (some (← tableName g true))
  let options ← keyOptions (← budget)
  return some (← node .reference [("this", .ofOption this), ("options", .many options)])

/-- Reads the word for a condition that every row meets. -/
def acceptCheck : Parsing Bool :=
  acceptIf fun t => t.kind == .VAR && Text.upper t.text == "CHECK"

/-- Reads a condition in parentheses that every row meets. -/
def checkOf (g : Rules) : Parsing (Option Tree) := do
  let test ← wrapped g.disjunction
  let enforced ← acceptWord "ENFORCED"
  return some (← node .checkConstraint
    [("this", .ofOption test), ("enforced", .flag enforced)])

/-- Reads what a mark for unique values says: perhaps a name, and the columns that are unique
together. -/
def uniqueOf (g : Rules) : Parsing (Option Tree) := do
  let _ ← acceptIf fun t => ["KEY", "INDEX"].contains (Text.upper t.text)
  let distinct ← acceptWords ["NULLS", "NOT", "DISTINCT"]
  let name ← plainName?
  let this ← columnNames? g name
  let indexed ← accept .USING
  let method ← current
  if indexed then advance
  let options ← keyOptions (← budget)
  return some (← node .uniqueConstraint
    [("nulls", .flag distinct), ("this", .ofOption this),
      ("index_type", if indexed then .text method.text else .flag false),
      ("options", .many options)])

/-- Reads what a primary key says: perhaps the columns that it consists of. -/
def primaryKeyOf (g : Rules) : Parsing (Option Tree) := do
  let ascending ← accept .ASC
  let descending ← accept .DESC
  let direction :=
    if ascending then Tree.flag false else if descending then .flag true else .absent
  let several ← sees .L_PAREN
  if several then
    let columns ← wrapped (separated (field? g))
    let parameters ← node .indexParameters [("with_storage", .flag false)]
    let options ← keyOptions (← budget)
    return some (← node .primaryKey
      [("expressions", .many columns), ("include", parameters), ("options", .many options)])
  else
    let options ← keyOptions (← budget)
    return some (← node .primaryKeyConstraint
      [("desc", direction), ("options", .many options)])

/-- Reads a key whose values are those of another table. -/
def foreignKeyOf (g : Rules) : Parsing (Option Tree) := do
  let several ← sees .L_PAREN
  let columns ← if several then wrapped (separated plainName?) else pure []
  let reference ← keyReference? g
  let options ← keyOptions (← budget)
  return some (← node .foreignKey
    [("expressions", .many columns), ("reference", .ofOption reference),
      ("options", .many options)])

/-- Reads what a constraint asks of a column. -/
def constraintKind? (g : Rules) : Parsing (Option Tree) := do
  if ← acceptPair .NOT .NULL then return some (← node .notNullConstraint [])
  else if ← accept .NULL then
    return some (← node .notNullConstraint [("allow_null", .flag true)])
  else if ← accept .PRIMARY_KEY then primaryKeyOf g
  else if ← accept .UNIQUE then uniqueOf g
  else if ← sees .REFERENCES then keyReference? g
  else if ← acceptCheck then checkOf g
  else if ← accept .DEFAULT then
    return some (← node .defaultConstraint [("this", .ofOption (← bitwise g))])
  else return none

/-- Reads a constraint on a column. -/
def columnConstraint? (g : Rules) : Parsing (Option Tree) := do
  let named ← if ← accept .CONSTRAINT then name? true TokenKind.isName else pure none
  match ← constraintKind? g with
  | none => return named
  | some k => return some (← node .columnConstraint [("this", .ofOption named), ("kind", k)])

/-- Reads constraints on a column. -/
def columnConstraints (g : Rules) : (fuel : Nat) → Parsing (List Tree)
  | 0 => return []
  | fuel + 1 => do
    match ← columnConstraint? g with
    | none => return []
    | some c => return c :: (← columnConstraints g fuel)

/-- Reads a column of a table: a name, perhaps with a type and constraints. -/
def columnDef? (g : Rules) : Parsing (Option Tree) := do
  match ← name? true TokenKind.isName with
  | none => return none
  | some name =>
    let type ← columnType?
    let constraints ← columnConstraints g (← budget)
    if type.isNone && constraints.isEmpty then return some name
    else
      return some (← node .columnDef
        [("this", name), ("kind", .ofOption type), ("constraints", .many constraints)])

/-- Reads a constraint on a table that has no name. -/
def tableConstraint? (g : Rules) : Parsing (Option Tree) := do
  if ← accept .PRIMARY_KEY then primaryKeyOf g
  else if ← accept .FOREIGN_KEY then foreignKeyOf g
  else if ← accept .UNIQUE then uniqueOf g
  else if ← acceptCheck then checkOf g
  else return none

/-- Reads the constraints after a name that they share. -/
def namedConstraints (g : Rules) : (fuel : Nat) → Parsing (List Tree)
  | 0 => return []
  | fuel + 1 => do
    match ← tableConstraint? g with
    | some t => return t :: (← namedConstraints g fuel)
    | none =>
      match ← constraintKind? g with
      | some t => return t :: (← namedConstraints g fuel)
      | none => return []

/-- Reads a part of a table's definition. -/
def tableItem? (g : Rules) : Parsing (Option Tree) := do
  if ← accept .CONSTRAINT then
    let name ← plainName?
    let constraints ← namedConstraints g (← budget)
    return some (← node .constraint
      [("this", .ofOption name), ("expressions", .many constraints)])
  else
    match ← tableConstraint? g with
    | some t => return some t
    | none => columnDef? g

/-- A table with the columns that follow it in parentheses; parentheses around a query are left. -/
def withColumns (g : Rules) (t : Tree) : Parsing Tree := do
  let isQuery := (← seesPair .L_PAREN .SELECT) || (← seesPair .L_PAREN .WITH)
    || (← seesPair .L_PAREN .L_PAREN)
  if isQuery then return t
  else if ← accept .L_PAREN then
    let items ← separated (tableItem? g)
    endList
    node .schema [("this", t), ("expressions", .many items)]
  else return t

/-- Reads the query that fills or defines a table. -/
def content? (g : Rules) : Parsing (Option Tree) := do
  clauses g (← combinations g (← g.query .content))

/-- A statement that adds rows. -/
def insert (g : Rules) : Parsing (Option Tree) := do
  let hint ← hints? g
  let overwrite ← accept .OVERWRITE
  let _ ← accept .INTO
  let comments := (← get).waiting
  let _ ← accept .TABLE
  let table ← withColumns g (← tableName g true)
  let byName ← acceptWords ["BY", "NAME"]
  let existing ← ifExists false
  let defaults ← acceptWords ["DEFAULT", "VALUES"]
  let rows ←
    match ← rows? g with
    | some t => pure (some t)
    | none => content? g
  let no := Tree.flag false
  return some (← finishWith comments (.of .insert
    [("hint", .ofOption hint), ("is_function", no), ("this", table), ("stored", no),
      ("by_name", .flag byName), ("exists", .flag existing), ("where", no), ("partition", no),
      ("settings", no), ("default", .flag defaults), ("expression", .ofOption rows),
      ("overwrite", .flag overwrite), ("ignore", no), ("source", no)]))

/-- Whether a word can be the alias of a table that is changed. -/
def isTargetAlias (k : TokenKind) : Bool :=
  k.isTableName && k != .SET

/-- The parts of a statement that changes rows, each with the name of its field. -/
def updateParts (g : Rules) : (fuel : Nat) → Tree → Parsing Tree
  | 0, t => return t
  | fuel + 1, t => do
    let next (name : String) (r : Parsing (Option Tree)) : Parsing Tree := do
      updateParts g fuel (t.set name (.ofOption (← r)))
    match (← current).kind with
    | .SET =>
      advance
      next "expressions" do return some (.many (← separated (equality g)))
    | .FROM => next "from_" do
      match ← from? g with
      | some t =>
        return some (t.set "this" (← withJoins g (.ofOption (t.field? "this"))))
      | none => return none
    | .WHERE => next "where" (where? g)
    | .ORDER_BY => next "order" (ordering? g)
    | .LIMIT => next "limit" (limit? g)
    | _ => return t

/-- The tables that a statement takes values from, where they stand before the changes. -/
def updateFromFirst (g : Rules) (target : Tree) : Parsing Tree := do
  let source ← from? g
  let isSet ← accept .SET
  let changes ← if isSet then separated (equality g) else pure []
  let condition ← where? g
  finish (.of .update
    [("this", target), ("from_", .ofOption source),
      ("expressions", if isSet then .many changes else .flag false),
      ("where", .ofOption condition)])

/-- A statement that changes rows. -/
def update (g : Rules) : Parsing (Option Tree) := do
  if (← features).updates == .fromFirst then
    return some (← updateFromFirst g (← source g isTargetAlias))
  else
    let target ← withJoins g (← source g isTargetAlias)
    let t ← updateParts g (← budget) (.of .update [("this", target)])
    return some (← finish t)

/-- A statement that removes rows. -/
def delete (g : Rules) : Parsing (Option Tree) := do
  let tables ← if ← sees .FROM then pure [] else separated (table g)
  let target ←
    if ← accept .FROM then some <$> (do withJoins g (← source g TokenKind.isTableName))
    else pure none
  let others ← if ← accept .USING then separated (table g) else pure []
  let condition ← where? g
  let order ← ordering? g
  let count ← limit? g
  return some (← node .delete
    [("tables", if tables.isEmpty then .absent else .many tables),
      ("this", (target.getD (.flag false))),
      ("using", if others.isEmpty then .flag false else .many others),
      ("cluster", .flag false), ("where", .ofOption condition), ("order", .ofOption order),
      ("limit", .ofOption count)])

/-- Words for what can be created and removed. -/
def creatable : List TokenKind :=
  [.TABLE, .VIEW, .SCHEMA, .DATABASE, .INDEX, .COLUMN, .FUNCTION, .PROCEDURE]

/-- What is created or removed in the words of all dialects. -/
def creatableKind (f : Features) (word : String) : String :=
  if f.has .schemasAreDatabases && word == "DATABASE" then "SCHEMA" else word

/-- A statement that removes what has been created; one that removes anything else is kept as it
is. -/
def remove (g : Rules) : Parsing (Option Tree) := do
  let first ← previous
  let temporary ← accept .TEMPORARY
  let materialized ← acceptWord "MATERIALIZED"
  unless ← acceptAny creatable do return ← verbatim first
  let kind := creatableKind (← features) (Text.upper (← previous).text)
  let concurrently ← acceptWord "CONCURRENTLY"
  let existing ← ifExists false
  let tables ← separated (some <$> tableName g true)
  let cascade ← acceptWord "CASCADE"
  let restrict ← acceptWord "RESTRICT"
  let constraints ← acceptWord "CONSTRAINTS"
  let purge ← acceptWord "PURGE"
  return some (← node .drop
    [("exists", .flag existing), ("tables", .many tables), ("kind", .text kind),
      ("temporary", .flag temporary), ("materialized", .flag materialized),
      ("cascade", .flag cascade), ("restrict", .flag restrict),
      ("constraints", .flag constraints), ("purge", .flag purge),
      ("concurrently", .flag concurrently), ("sync", .flag false), ("iceberg", .flag false),
      ("force", .flag false)])

/-- Reads what fills or defines a table: a query, or after a word a table. -/
def definition? (g : Rules) : Parsing (Option Tree) := do
  let announced ← accept .ALIAS
  match ← content? g with
  | some q => return some q
  | none => if announced then attempt (some <$> tableName g false) else return none

/-- A statement that creates a table or a view; one that creates anything else, or goes on where it
should end, is kept as it is. -/
def create (g : Rules) : Parsing (Option Tree) := do
  let first ← previous
  let replace ← acceptPair .OR .REPLACE
  let unique ← accept .UNIQUE
  let temporary ← accept .TEMPORARY
  unless ← acceptAny creatable do return ← verbatim first
  let kind := creatableKind (← features) (Text.upper (← previous).text)
  let existing ← ifExists true
  let this ← withColumns g (← tableName g true)
  let body ← definition? g
  let goesOn := (← current?).any fun t => t.kind != .R_PAREN && t.kind != .COMMA
  if goesOn then return ← verbatim first
  let properties :=
    if temporary then
      some (Tree.of .properties [("expressions", .many [.of .temporaryProperty []])])
    else none
  return some (← node .create
    [("this", this), ("kind", .text kind), ("replace", .flag replace), ("refresh", .flag false),
      ("unique", .flag unique), ("expression", .ofOption body), ("exists", .flag existing),
      ("properties", .ofOption properties), ("concurrently", .flag false)])

/-- The comments of a semicolon, which stand for a statement of their own. -/
def remark : Parsing (Option Tree) :=
  return some (.of .semicolon [])

/-- The statements that have a first word of their own. -/
def starters (g : Rules) : TokenKind → Option (Parsing (Option Tree))
  | .INSERT => some (insert g)
  | .UPDATE => some (update g)
  | .DELETE => some (delete g)
  | .DROP => some (remove g)
  | .CREATE => some (create g)
  | .SEMICOLON => some remark
  | _ => none

/-- Reads a statement. -/
def statement (g : Rules) : Parsing (Option Tree) := do
  match ← current? with
  | none => return none
  | some t =>
    match starters g t.kind with
    | some r =>
      advance
      let comments := (← get).waiting
      return (← r).map fun t => t.withComments (comments ++ t.comments)
    | none =>
      match ← expression g with
      | some e => clauses g (← combinations g (some e))
      | none => clauses g (← query g .inner)

end Parsing

/-- The rules over rules that may be gone back to. -/
def Rules.above (g : Rules) : Rules :=
  { statement := Parsing.statement g
    query := Parsing.query g
    clauses := Parsing.clauses g
    combinations := Parsing.combinations g
    table := Parsing.table g
    expression := Parsing.expression g
    disjunction := Parsing.disjunction g
    equality := Parsing.equality g
    bitwise := Parsing.bitwise g
    unary := Parsing.signed g }

/-- The rules for nesting up to a depth. -/
def Rules.within : (depth : Nat) → Rules
  | 0 => .exhausted
  | depth + 1 => .above (within depth)

end Sql
end SqlDialects
