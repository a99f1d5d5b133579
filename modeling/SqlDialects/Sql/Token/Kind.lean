/-!
# Kinds of tokens

What a token of SQL is: a symbol, a text with a value of its own, a word with a role in the
grammar, or the name of a type. Every word is spelled as SQL spells it.

**Results.**
* `TokenKind.label` is the name of a kind in messages.
* `TokenKind.isType`, `isName` and `isCallable` say where a token may stand for a type, for a name
  and for the name of a function.
-/

namespace SqlDialects
namespace Sql

/-- What a token is. -/
inductive TokenKind where
  | L_PAREN | R_PAREN | L_BRACKET | R_BRACKET | L_BRACE | R_BRACE | COMMA | DOT | DASH | PLUS
  | DSTAR
  | COLON | DCOLON | SEMICOLON | STAR | BACKSLASH | SLASH | LT | LTE | GT | GTE | EQ | NEQ
  | NULLSAFE_EQ | COLON_EQ | AMP | DAMP | DPIPE | PIPE | CARET | TILDE | ARROW | DARROW | FARROW
  | HASH | DQMARK | MOD | PLACEHOLDER | PARAMETER
  | STRING | NUMBER | HEX_STRING | IDENTIFIER | VAR | UNKNOWN | SENTINEL
  | ALIAS | ALL | AND | ANTI | ANY | ASC | ASOF | BETWEEN | CASE | COLLATE | COLUMN | CONSTRAINT
  | CREATE | CROSS | CUBE | CURRENT_DATE | CURRENT_TIME | CURRENT_TIMESTAMP | CURRENT_USER
  | DATABASE | DEFAULT | DELETE | DESC | DISTINCT | DIV | DROP | ELSE | END | ESCAPE | EXCEPT
  | EXISTS | FALSE | FETCH | FILTER | FIRST | FOR | FOREIGN_KEY | FROM | FULL | FUNCTION
  | GROUP_BY | HAVING | ILIKE | IN | INDEX | INNER | INSERT | INTERSECT | INTERVAL | INTO | IS
  | ISNULL | JOIN | LATERAL | LEFT | LIKE | LIMIT | NATURAL | NOT | NOTNULL | NULL | OFFSET | ON
  | OR | ORDER_BY | OUTER | OVER | OVERWRITE | PARTITION | PARTITION_BY | PERCENT | PIVOT
  | PRIMARY_KEY | PROCEDURE | QUALIFY | RANGE | RECURSIVE | REFERENCES | REPLACE | RETURNING
  | RIGHT | RLIKE | ROLLUP | ROW | ROWS | SCHEMA | SELECT | SEMI | SET | SOME | TABLE | TEMPORARY
  | THEN | TOP | TRUE | UNION | UNIQUE | UNNEST | UNPIVOT | UPDATE | USING | VALUES | VIEW | WHEN | WHERE
  | WINDOW | WITH | XOR | HINT
  | BIGDECIMAL | BIGINT | BINARY | BIT | BLOB | BOOLEAN | CHAR | DATE | DATETIME | DATETIME2
  | DECIMAL | DOUBLE | FLOAT | INT | INT128 | JSON | JSONB | LONGTEXT | MEDIUMINT | MEDIUMTEXT
  | NCHAR | NVARCHAR | ROWVERSION | SMALLDATETIME | SMALLINT | TEXT | TIME | TIMESTAMP
  | TIMESTAMPLTZ | TIMESTAMPNTZ | TIMESTAMPTZ | TIMETZ | TINYINT | TINYTEXT | UBIGINT | UINT
  | USMALLINT | UTINYINT | UUID | VARBINARY | VARCHAR
deriving DecidableEq, Repr

namespace TokenKind

/-- The name of a kind in messages. -/
def label : TokenKind → String
  | L_PAREN => "L_PAREN"
  | R_PAREN => "R_PAREN"
  | L_BRACKET => "L_BRACKET"
  | R_BRACKET => "R_BRACKET"
  | L_BRACE => "L_BRACE"
  | R_BRACE => "R_BRACE"
  | COMMA => "COMMA"
  | DOT => "DOT"
  | DASH => "DASH"
  | DSTAR => "DSTAR"
  | PLUS => "PLUS"
  | COLON => "COLON"
  | DCOLON => "DCOLON"
  | SEMICOLON => "SEMICOLON"
  | STAR => "STAR"
  | BACKSLASH => "BACKSLASH"
  | SLASH => "SLASH"
  | LT => "LT"
  | LTE => "LTE"
  | GT => "GT"
  | GTE => "GTE"
  | EQ => "EQ"
  | NEQ => "NEQ"
  | NULLSAFE_EQ => "NULLSAFE_EQ"
  | COLON_EQ => "COLON_EQ"
  | AMP => "AMP"
  | DAMP => "DAMP"
  | DPIPE => "DPIPE"
  | PIPE => "PIPE"
  | CARET => "CARET"
  | TILDE => "TILDE"
  | ARROW => "ARROW"
  | DARROW => "DARROW"
  | FARROW => "FARROW"
  | HASH => "HASH"
  | DQMARK => "DQMARK"
  | MOD => "MOD"
  | PLACEHOLDER => "PLACEHOLDER"
  | PARAMETER => "PARAMETER"
  | STRING => "STRING"
  | NUMBER => "NUMBER"
  | HEX_STRING => "HEX_STRING"
  | IDENTIFIER => "IDENTIFIER"
  | VAR => "VAR"
  | UNKNOWN => "UNKNOWN"
  | SENTINEL => "SENTINEL"
  | ALIAS => "ALIAS"
  | ALL => "ALL"
  | AND => "AND"
  | ANTI => "ANTI"
  | ANY => "ANY"
  | ASC => "ASC"
  | ASOF => "ASOF"
  | BETWEEN => "BETWEEN"
  | CASE => "CASE"
  | COLLATE => "COLLATE"
  | COLUMN => "COLUMN"
  | CONSTRAINT => "CONSTRAINT"
  | CREATE => "CREATE"
  | CROSS => "CROSS"
  | CUBE => "CUBE"
  | CURRENT_DATE => "CURRENT_DATE"
  | CURRENT_TIME => "CURRENT_TIME"
  | CURRENT_TIMESTAMP => "CURRENT_TIMESTAMP"
  | CURRENT_USER => "CURRENT_USER"
  | DATABASE => "DATABASE"
  | DEFAULT => "DEFAULT"
  | DELETE => "DELETE"
  | DESC => "DESC"
  | DISTINCT => "DISTINCT"
  | DIV => "DIV"
  | DROP => "DROP"
  | ELSE => "ELSE"
  | END => "END"
  | ESCAPE => "ESCAPE"
  | EXCEPT => "EXCEPT"
  | EXISTS => "EXISTS"
  | FALSE => "FALSE"
  | FETCH => "FETCH"
  | FILTER => "FILTER"
  | FIRST => "FIRST"
  | FOR => "FOR"
  | FOREIGN_KEY => "FOREIGN_KEY"
  | FROM => "FROM"
  | FULL => "FULL"
  | FUNCTION => "FUNCTION"
  | GROUP_BY => "GROUP_BY"
  | HAVING => "HAVING"
  | ILIKE => "ILIKE"
  | IN => "IN"
  | INDEX => "INDEX"
  | INNER => "INNER"
  | INSERT => "INSERT"
  | INTERSECT => "INTERSECT"
  | INTERVAL => "INTERVAL"
  | INTO => "INTO"
  | IS => "IS"
  | ISNULL => "ISNULL"
  | JOIN => "JOIN"
  | LATERAL => "LATERAL"
  | LEFT => "LEFT"
  | LIKE => "LIKE"
  | LIMIT => "LIMIT"
  | NATURAL => "NATURAL"
  | NOT => "NOT"
  | NOTNULL => "NOTNULL"
  | NULL => "NULL"
  | OFFSET => "OFFSET"
  | ON => "ON"
  | OR => "OR"
  | ORDER_BY => "ORDER_BY"
  | OUTER => "OUTER"
  | OVER => "OVER"
  | OVERWRITE => "OVERWRITE"
  | PARTITION => "PARTITION"
  | PARTITION_BY => "PARTITION_BY"
  | PERCENT => "PERCENT"
  | PIVOT => "PIVOT"
  | PRIMARY_KEY => "PRIMARY_KEY"
  | PROCEDURE => "PROCEDURE"
  | QUALIFY => "QUALIFY"
  | RANGE => "RANGE"
  | RECURSIVE => "RECURSIVE"
  | REFERENCES => "REFERENCES"
  | REPLACE => "REPLACE"
  | RETURNING => "RETURNING"
  | RIGHT => "RIGHT"
  | RLIKE => "RLIKE"
  | ROLLUP => "ROLLUP"
  | ROW => "ROW"
  | ROWS => "ROWS"
  | SCHEMA => "SCHEMA"
  | SELECT => "SELECT"
  | SEMI => "SEMI"
  | SET => "SET"
  | SOME => "SOME"
  | TABLE => "TABLE"
  | TEMPORARY => "TEMPORARY"
  | THEN => "THEN"
  | TOP => "TOP"
  | TRUE => "TRUE"
  | UNION => "UNION"
  | UNIQUE => "UNIQUE"
  | UNNEST => "UNNEST"
  | UNPIVOT => "UNPIVOT"
  | UPDATE => "UPDATE"
  | USING => "USING"
  | VALUES => "VALUES"
  | VIEW => "VIEW"
  | WHEN => "WHEN"
  | WHERE => "WHERE"
  | WINDOW => "WINDOW"
  | WITH => "WITH"
  | XOR => "XOR"
  | HINT => "HINT"
  | BIGDECIMAL => "BIGDECIMAL"
  | BIGINT => "BIGINT"
  | BINARY => "BINARY"
  | BIT => "BIT"
  | BLOB => "BLOB"
  | BOOLEAN => "BOOLEAN"
  | CHAR => "CHAR"
  | DATE => "DATE"
  | DATETIME => "DATETIME"
  | DATETIME2 => "DATETIME2"
  | DECIMAL => "DECIMAL"
  | DOUBLE => "DOUBLE"
  | FLOAT => "FLOAT"
  | INT => "INT"
  | INT128 => "INT128"
  | JSON => "JSON"
  | JSONB => "JSONB"
  | LONGTEXT => "LONGTEXT"
  | MEDIUMINT => "MEDIUMINT"
  | MEDIUMTEXT => "MEDIUMTEXT"
  | NCHAR => "NCHAR"
  | NVARCHAR => "NVARCHAR"
  | ROWVERSION => "ROWVERSION"
  | SMALLDATETIME => "SMALLDATETIME"
  | SMALLINT => "SMALLINT"
  | TEXT => "TEXT"
  | TIME => "TIME"
  | TIMESTAMP => "TIMESTAMP"
  | TIMESTAMPLTZ => "TIMESTAMPLTZ"
  | TIMESTAMPNTZ => "TIMESTAMPNTZ"
  | TIMESTAMPTZ => "TIMESTAMPTZ"
  | TIMETZ => "TIMETZ"
  | TINYINT => "TINYINT"
  | TINYTEXT => "TINYTEXT"
  | UBIGINT => "UBIGINT"
  | UINT => "UINT"
  | USMALLINT => "USMALLINT"
  | UTINYINT => "UTINYINT"
  | UUID => "UUID"
  | VARBINARY => "VARBINARY"
  | VARCHAR => "VARCHAR"

/-- The names of types. -/
def types : List TokenKind :=
  [.BIGDECIMAL, .BIGINT, .BINARY, .BIT, .BLOB, .BOOLEAN, .CHAR, .DATE, .DATETIME, .DATETIME2,
    .DECIMAL, .DOUBLE, .FLOAT, .INT, .INT128, .JSON, .JSONB, .LONGTEXT, .MEDIUMINT, .MEDIUMTEXT,
    .NCHAR, .NVARCHAR, .ROWVERSION, .SMALLDATETIME, .SMALLINT, .TEXT, .TIME, .TIMESTAMP,
    .TIMESTAMPLTZ, .TIMESTAMPNTZ, .TIMESTAMPTZ, .TIMETZ, .TINYINT, .TINYTEXT, .UBIGINT, .UINT,
    .USMALLINT, .UTINYINT, .UUID, .VARBINARY, .VARCHAR, .UNKNOWN]

/-- Words that may stand for names. -/
def nameWords : List TokenKind :=
  [.VAR, .ALL, .ANTI, .ASC, .ASOF, .CASE, .COLLATE, .CONSTRAINT, .CUBE, .DEFAULT, .DELETE, .DESC,
    .DIV, .END, .ESCAPE, .FALSE, .FIRST, .FILTER, .FULL, .IDENTIFIER, .IS, .ISNULL, .INTERVAL,
    .LEFT, .NATURAL, .OVER, .OVERWRITE, .PARTITION, .PERCENT, .PIVOT, .RANGE, .RECURSIVE,
    .REFERENCES, .REPLACE, .RIGHT, .ROLLUP, .ROW, .ROWS, .SEMI, .SET, .TEMPORARY, .TOP, .TRUE,
    .UNIQUE, .UNNEST, .UNPIVOT, .UPDATE, .WINDOW, .COLUMN, .FOREIGN_KEY, .FUNCTION, .INDEX,
    .PROCEDURE, .DATABASE, .SCHEMA, .TABLE, .VIEW, .ANY, .EXISTS, .SOME, .CURRENT_DATE,
    .CURRENT_TIME, .CURRENT_TIMESTAMP, .CURRENT_USER]

/-- Words that cannot name a table, though they may name other things. -/
def notTableNames : List TokenKind :=
  [.ANTI, .ASOF, .FULL, .LEFT, .NATURAL, .RIGHT, .SEMI, .WINDOW]

/-- Words that may stand for the name of a function, if a parenthesis follows. -/
def functionWords : List TokenKind :=
  [.VAR, .IDENTIFIER, .ALL, .ANY, .EXISTS, .SOME, .COLLATE, .CURRENT_DATE, .CURRENT_TIME,
    .CURRENT_TIMESTAMP, .CURRENT_USER, .FILTER, .FIRST, .INDEX, .ISNULL, .ILIKE, .INSERT, .LIKE,
    .OFFSET, .PRIMARY_KEY, .RANGE, .REPLACE, .RLIKE, .ROW, .UNNEST, .LEFT, .RIGHT, .TABLE,
    .WINDOW, .XOR]

/-- Tokens that are never taken for a name, not even where any word will do. -/
def reserved : List TokenKind :=
  [.L_PAREN, .R_PAREN, .L_BRACKET, .R_BRACKET, .L_BRACE, .R_BRACE, .AMP, .CARET, .COLON, .COMMA,
    .DASH, .DOT, .EQ, .GT, .LT, .MOD, .NOT, .PIPE, .PLUS, .SEMICOLON, .SLASH, .BACKSLASH, .STAR,
    .TILDE, .PLACEHOLDER, .PARAMETER, .HASH, .UNKNOWN, .SELECT]

/-- Whether a token is the name of a type. -/
def isType (k : TokenKind) : Bool :=
  types.contains k

/-- Whether a token may stand for a name. -/
def isName (k : TokenKind) : Bool :=
  nameWords.contains k || k.isType

/-- Whether a token may name a table. -/
def isTableName (k : TokenKind) : Bool :=
  k.isName && !notTableNames.contains k

/-- Whether a token may name a function. -/
def isCallable (k : TokenKind) : Bool :=
  functionWords.contains k || k.isType

end TokenKind
end Sql
end SqlDialects
