import SqlDialects.Sql.Function

/-!
# Kinds of nodes

The kinds of nodes of a syntax tree.

**Results.**
* `Kind.path` is the name of a kind with the family it belongs to; payloads carry it.
* `Kind.ofName?` finds a kind by its name.
* `Kind.required` lists the fields that a node of a kind has to have.
-/

namespace SqlDialects
namespace Sql

/-- What a node of a syntax tree is. -/
inductive Kind where
  | add | aggregate | aliasOf | anonymous | anyOf | anything | array | between | binary
  | bitwiseAnd | bitwiseNot | bitwiseOr | bitwiseXor | block | boolean | both | bracket
  | callable | caseOf | cast | checkConstraint | collate | column | columnConstraint | columnDef
  | command | condition | connective | constraint | create | cte | dataType | dataTypeParam
  | defaultConstraint | delete | derived | distinct | div | dot | dpipe | drop | either | eq
  | escape | everyOf | exceptOf | exclusive | existence | expression | fetch | filter
  | foreignKey | fromClause | group | gt | gte | having | hexString | hint | identifier | ifThen
  | ilike | indexParameters | inList | insert | intDiv | intersectOf | into | isValue | join
  | like | limit | limitOptions | literal | lt | lte | mod | mul | neg | negation | neq
  | notNullConstraint | null | nullSafeEq | nullSafeNeq | offset | order | ordered | paren
  | pivot | predicate | primaryKey | primaryKeyConstraint | properties | propertyEq | qualify
  | queryLike | reference | regexpLike | rowPredicate | schema | select | semicolon | star
  | struct | sub | subquery | table | tableAlias | tableCall | temporaryProperty | tryCast
  | tuple | unary | unionOf | uniqueConstraint | update | values | var | whereClause | window
  | windowSpec | withClause
  | function (f : Function)
deriving DecidableEq, Repr

namespace Kind

/-- Every kind. -/
def all : List Kind :=
  ([.add, .aggregate, .aliasOf, .anonymous, .anyOf, .anything, .array, .between, .binary,
    .bitwiseAnd, .bitwiseNot, .bitwiseOr, .bitwiseXor, .block, .boolean, .both, .bracket,
    .callable, .caseOf, .cast, .checkConstraint, .collate, .column, .columnConstraint,
    .columnDef, .command, .condition, .connective, .constraint, .create, .cte, .dataType,
    .dataTypeParam, .defaultConstraint, .delete, .derived, .distinct, .div, .dot, .dpipe, .drop,
    .either, .eq, .escape, .everyOf, .exceptOf, .exclusive, .existence, .expression, .fetch,
    .filter, .foreignKey, .fromClause, .group, .gt, .gte, .having, .hexString, .hint,
    .identifier, .ifThen, .ilike, .indexParameters, .inList, .insert, .intDiv, .intersectOf,
    .into, .isValue, .join, .like, .limit, .limitOptions, .literal, .lt, .lte, .mod, .mul, .neg,
    .negation, .neq, .notNullConstraint, .null, .nullSafeEq, .nullSafeNeq, .offset, .order,
    .ordered, .paren, .pivot, .predicate, .primaryKey, .primaryKeyConstraint, .properties,
    .propertyEq, .qualify, .queryLike, .reference, .regexpLike, .rowPredicate, .schema, .select,
    .semicolon, .star, .struct, .sub, .subquery, .table, .tableAlias, .tableCall,
    .temporaryProperty, .tryCast, .tuple, .unary, .unionOf, .uniqueConstraint, .update, .values,
    .var, .whereClause, .window, .windowSpec, .withClause] : List Kind)
    ++ Function.all.map .function

/-- The name of a kind. -/
def name : Kind → String
  | add => "Add"
  | aggregate => "AggFunc"
  | aliasOf => "Alias"
  | anonymous => "Anonymous"
  | anyOf => "Any"
  | anything => "Expr"
  | array => "Array"
  | between => "Between"
  | binary => "Binary"
  | bitwiseAnd => "BitwiseAnd"
  | bitwiseNot => "BitwiseNot"
  | bitwiseOr => "BitwiseOr"
  | bitwiseXor => "BitwiseXor"
  | block => "Block"
  | boolean => "Boolean"
  | both => "And"
  | bracket => "Bracket"
  | callable => "Func"
  | caseOf => "Case"
  | cast => "Cast"
  | checkConstraint => "CheckColumnConstraint"
  | collate => "Collate"
  | column => "Column"
  | columnConstraint => "ColumnConstraint"
  | columnDef => "ColumnDef"
  | command => "Command"
  | condition => "Condition"
  | connective => "Connector"
  | constraint => "Constraint"
  | create => "Create"
  | cte => "CTE"
  | dataType => "DataType"
  | dataTypeParam => "DataTypeParam"
  | defaultConstraint => "DefaultColumnConstraint"
  | delete => "Delete"
  | derived => "DerivedTable"
  | distinct => "Distinct"
  | div => "Div"
  | dot => "Dot"
  | dpipe => "DPipe"
  | drop => "Drop"
  | either => "Or"
  | eq => "EQ"
  | escape => "Escape"
  | everyOf => "All"
  | exceptOf => "Except"
  | exclusive => "Xor"
  | existence => "Exists"
  | expression => "Expression"
  | fetch => "Fetch"
  | filter => "Filter"
  | foreignKey => "ForeignKey"
  | fromClause => "From"
  | group => "Group"
  | gt => "GT"
  | gte => "GTE"
  | having => "Having"
  | hexString => "HexString"
  | hint => "Hint"
  | identifier => "Identifier"
  | ifThen => "If"
  | ilike => "ILike"
  | indexParameters => "IndexParameters"
  | inList => "In"
  | insert => "Insert"
  | intDiv => "IntDiv"
  | intersectOf => "Intersect"
  | into => "Into"
  | isValue => "Is"
  | join => "Join"
  | like => "Like"
  | limit => "Limit"
  | limitOptions => "LimitOptions"
  | literal => "Literal"
  | lt => "LT"
  | lte => "LTE"
  | mod => "Mod"
  | mul => "Mul"
  | neg => "Neg"
  | negation => "Not"
  | neq => "NEQ"
  | notNullConstraint => "NotNullColumnConstraint"
  | null => "Null"
  | nullSafeEq => "NullSafeEQ"
  | nullSafeNeq => "NullSafeNEQ"
  | offset => "Offset"
  | order => "Order"
  | ordered => "Ordered"
  | paren => "Paren"
  | pivot => "Pivot"
  | predicate => "Predicate"
  | primaryKey => "PrimaryKey"
  | primaryKeyConstraint => "PrimaryKeyColumnConstraint"
  | properties => "Properties"
  | propertyEq => "PropertyEQ"
  | qualify => "Qualify"
  | queryLike => "Query"
  | reference => "Reference"
  | regexpLike => "RegexpLike"
  | rowPredicate => "SubqueryPredicate"
  | schema => "Schema"
  | select => "Select"
  | semicolon => "Semicolon"
  | star => "Star"
  | struct => "Struct"
  | sub => "Sub"
  | subquery => "Subquery"
  | table => "Table"
  | tableAlias => "TableAlias"
  | tableCall => "UDTF"
  | temporaryProperty => "TemporaryProperty"
  | tryCast => "TryCast"
  | tuple => "Tuple"
  | unary => "Unary"
  | unionOf => "Union"
  | uniqueConstraint => "UniqueColumnConstraint"
  | update => "Update"
  | values => "Values"
  | var => "Var"
  | whereClause => "Where"
  | window => "Window"
  | windowSpec => "WindowSpec"
  | withClause => "With"
  | function f => f.name

/-- The family that a kind belongs to. -/
def family : Kind → String
  | array | struct => "array"
  | block | columnDef | cte | derived | exceptOf | fetch | fromClause | group | having | hint
  | intersectOf | into | join | limit | limitOptions | offset | order | pivot | qualify | queryLike
  | schema | select | semicolon | subquery | table | tableAlias | tableCall | tuple | unionOf
  | values | whereClause | window | windowSpec | withClause => "query"
  | caseOf | cast | collate | existence | ifThen | tryCast => "functions"
  | checkConstraint | columnConstraint | constraint | defaultConstraint | foreignKey
  | indexParameters | notNullConstraint | primaryKey | primaryKeyConstraint | reference
  | uniqueConstraint => "constraints"
  | command | create | drop => "ddl"
  | dataType | dataTypeParam => "datatypes"
  | delete | insert | update => "dml"
  | properties | temporaryProperty => "properties"
  | function f => f.signature.family
  | _ => "core"

/-- The name of a kind with its family. -/
def path (k : Kind) : String :=
  "sqlglot.expressions." ++ k.family ++ "." ++ k.name

/-- The kind of a name. -/
def ofName? (s : String) : Option Kind :=
  all.find? fun k => k.name == s

/-- The fields that a node of a kind has to have, in the order in which they are missed. -/
def required : Kind → List String
  | add | both | bitwiseAnd | bitwiseOr | bitwiseXor | collate | div | dot | dpipe | eq | escape
  | exceptOf | filter | gt | gte | ilike | intDiv | intersectOf | isValue | like | lt | lte | mod
  | mul | neq | nullSafeEq | nullSafeNeq | either | propertyEq | regexpLike | sub | unionOf =>
    ["expression", "this"]
  | aliasOf | anonymous | anyOf | boolean | bitwiseNot | checkConstraint | column | columnDef
  | command | dataType | dataTypeParam | defaultConstraint | everyOf | existence | fromClause
  | having | hexString | identifier | inList | join | neg | negation | paren | qualify | reference
  | subquery | var | whereClause | window => ["this"]
  | between => ["high", "this", "low"]
  | block | hint | order | primaryKey | properties | values | withClause => ["expressions"]
  | bracket => ["this", "expressions"]
  | caseOf => ["ifs"]
  | cast | tryCast => ["this", "to"]
  | columnConstraint | create => ["kind"]
  | constraint => ["this", "expressions"]
  | cte => ["alias", "this"]
  | ifThen => ["true", "this"]
  | limit | offset => ["expression"]
  | literal => ["this", "is_string"]
  | ordered => ["this", "nulls_first"]
  | function f => f.required
  | _ => []

/-- The fields for the arguments of a choice, and whether a call has to give them. -/
def choiceFields : List (String × Bool) :=
  [("this", true), ("true", true), ("false", false)]

/-- The fields for the arguments of a test for rows. -/
def existenceFields : List (String × Bool) :=
  [("this", true), ("expression", false)]

/-- How many arguments a function takes at most, if there is a limit. -/
def arity? : Kind → Option Nat
  | ifThen => some choiceFields.length
  | existence => some existenceFields.length
  | function f => f.arity?
  | _ => none

/-- Whether a node of a kind is a query. -/
def isQuery (k : Kind) : Bool :=
  [select, subquery, unionOf, exceptOf, intersectOf].contains k

/-- Whether a node of a kind combines two queries. -/
def isSetOperation (k : Kind) : Bool :=
  [unionOf, exceptOf, intersectOf].contains k

/-- Whether named queries may stand before a node of a kind. -/
def takesNamedQueries (k : Kind) : Bool :=
  k.isQuery || [create, delete, insert, update].contains k

/-- Whether clauses may follow a node of a kind. -/
def takesClauses (k : Kind) : Bool :=
  k.isQuery || k == table || k == values

/-- The operators between two operands. -/
def binaries : List Kind :=
  [add, both, bitwiseAnd, bitwiseOr, bitwiseXor, collate, div, dot, dpipe, either, eq, escape,
    exclusive, function .pow, gt, gte, ilike, intDiv, isValue, like, lt, lte, mod, mul, neq,
    nullSafeEq, nullSafeNeq, propertyEq, regexpLike, sub]

/-- Whether a node of a kind is an operator between two operands. -/
def isBinary (k : Kind) : Bool :=
  binaries.contains k

/-- Whether a node of a kind connects two conditions. -/
def isConnector (k : Kind) : Bool :=
  [both, either, exclusive].contains k

/-- Whether a node of a kind is a function call. -/
def isFunction : Kind → Bool
  | anonymous | caseOf | cast | collate | existence | ifThen | tryCast | function _ => true
  | _ => false

/-- Whether a node of a kind is a conversion. -/
def isCast (k : Kind) : Bool :=
  k == cast || k == tryCast

/-- The kinds that only stand for what several kinds have in common. -/
def abstracts : List Kind :=
  [aggregate, anything, binary, callable, condition, connective, derived, predicate, queryLike,
    rowPredicate, tableCall, unary]

/-- Whether a kind only stands for what several kinds have in common. -/
def isAbstract (k : Kind) : Bool :=
  abstracts.contains k

/-- Whether nodes of a kind have no text. -/
def isTextless (k : Kind) : Bool :=
  k == expression || k.isAbstract

end Kind
end Sql
end SqlDialects
