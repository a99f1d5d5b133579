import SqlDialects.Sql.Token.Kind
import SqlDialects.Text.Case

/-!
# Words of SQL

The spellings of tokens.

**Tables.**
* `symbols` are the characters that are tokens by themselves and that end a word.
* `compounds` are symbols of several characters.
* `phrases` are words with blanks in them.
* `words` are the single words that mean more than a name; case does not matter.
-/

namespace SqlDialects
namespace Sql

/-- Characters that are tokens by themselves. -/
def symbols : List (Char × TokenKind) :=
  [('(', .L_PAREN), (')', .R_PAREN), ('[', .L_BRACKET), (']', .R_BRACKET), ('\x7b', .L_BRACE),
    ('\x7d', .R_BRACE), ('&', .AMP), ('^', .CARET), (':', .COLON), (',', .COMMA), ('-', .DASH),
    ('.', .DOT), ('=', .EQ), ('>', .GT), ('<', .LT), ('%', .MOD), ('!', .NOT), ('|', .PIPE),
    ('+', .PLUS), (';', .SEMICOLON), ('/', .SLASH), ('\\', .BACKSLASH), ('*', .STAR),
    ('~', .TILDE), ('?', .PLACEHOLDER), ('@', .PARAMETER), ('#', .HASH), ('\'', .UNKNOWN),
    ('\x60', .UNKNOWN), ('\x22', .UNKNOWN)]

/-- Symbols of several characters. -/
def compounds : List (String × TokenKind) :=
  [("==", .EQ), ("::", .DCOLON), ("||", .DPIPE), (">=", .GTE), ("<=", .LTE), ("<>", .NEQ),
    ("!=", .NEQ), (":=", .COLON_EQ), ("<=>", .NULLSAFE_EQ), ("->", .ARROW), ("->>", .DARROW),
    ("=>", .FARROW), ("&&", .DAMP), ("??", .DQMARK), ("~~", .LIKE), ("~~*", .ILIKE),
    ("~*", .RLIKE)]

/-- Words with blanks in them. -/
def phrases : List (String × TokenKind) :=
  [("GROUP BY", .GROUP_BY), ("ORDER BY", .ORDER_BY), ("PARTITION BY", .PARTITION_BY),
    ("PARTITIONED BY", .PARTITION_BY), ("PRIMARY KEY", .PRIMARY_KEY),
    ("FOREIGN KEY", .FOREIGN_KEY), ("DOUBLE PRECISION", .DOUBLE), ("CHAR VARYING", .VARCHAR),
    ("CHARACTER VARYING", .VARCHAR)]

/-- The words of the grammar. -/
def words : List (String × TokenKind) :=
  [("ALL", .ALL), ("AND", .AND), ("ANTI", .ANTI), ("ANY", .ANY), ("ASC", .ASC), ("ASOF", .ASOF),
    ("BETWEEN", .BETWEEN), ("CASE", .CASE), ("COLLATE", .COLLATE), ("COLUMN", .COLUMN),
    ("CONSTRAINT", .CONSTRAINT), ("CREATE", .CREATE), ("CROSS", .CROSS), ("CUBE", .CUBE),
    ("CURRENT_DATE", .CURRENT_DATE), ("CURRENT_TIME", .CURRENT_TIME),
    ("CURRENT_TIMESTAMP", .CURRENT_TIMESTAMP), ("CURRENT_USER", .CURRENT_USER),
    ("DATABASE", .DATABASE), ("DEFAULT", .DEFAULT), ("DELETE", .DELETE), ("DESC", .DESC),
    ("DISTINCT", .DISTINCT), ("DIV", .DIV), ("DROP", .DROP), ("ELSE", .ELSE), ("END", .END),
    ("ESCAPE", .ESCAPE), ("EXCEPT", .EXCEPT), ("EXISTS", .EXISTS), ("FALSE", .FALSE),
    ("FETCH", .FETCH), ("FILTER", .FILTER), ("FIRST", .FIRST), ("FOR", .FOR), ("FROM", .FROM),
    ("FULL", .FULL), ("FUNCTION", .FUNCTION), ("HAVING", .HAVING), ("ILIKE", .ILIKE),
    ("IN", .IN), ("INDEX", .INDEX), ("INNER", .INNER), ("INSERT", .INSERT),
    ("INTERSECT", .INTERSECT), ("INTERVAL", .INTERVAL), ("INTO", .INTO), ("IS", .IS),
    ("ISNULL", .ISNULL), ("JOIN", .JOIN), ("LATERAL", .LATERAL), ("LEFT", .LEFT),
    ("LIKE", .LIKE), ("LIMIT", .LIMIT), ("NATURAL", .NATURAL), ("NOT", .NOT),
    ("NOTNULL", .NOTNULL), ("NULL", .NULL), ("OFFSET", .OFFSET), ("ON", .ON), ("OR", .OR),
    ("OUTER", .OUTER), ("OVER", .OVER), ("OVERWRITE", .OVERWRITE), ("PARTITION", .PARTITION),
    ("PERCENT", .PERCENT), ("PIVOT", .PIVOT), ("PROCEDURE", .PROCEDURE), ("QUALIFY", .QUALIFY),
    ("RANGE", .RANGE), ("RECURSIVE", .RECURSIVE), ("REFERENCES", .REFERENCES),
    ("REPLACE", .REPLACE),
    ("RETURNING", .RETURNING), ("RIGHT", .RIGHT), ("RLIKE", .RLIKE), ("ROLLUP", .ROLLUP),
    ("ROW", .ROW), ("ROWS", .ROWS), ("SCHEMA", .SCHEMA), ("SELECT", .SELECT), ("SEMI", .SEMI),
    ("SET", .SET), ("SOME", .SOME), ("TABLE", .TABLE), ("TEMPORARY", .TEMPORARY),
    ("THEN", .THEN), ("TRUE", .TRUE), ("UNION", .UNION), ("UNIQUE", .UNIQUE),
    ("UNKNOWN", .UNKNOWN), ("UNNEST", .UNNEST), ("UNPIVOT", .UNPIVOT), ("UPDATE", .UPDATE),
    ("USING", .USING), ("VALUES", .VALUES), ("VIEW", .VIEW), ("WHEN", .WHEN), ("WHERE", .WHERE),
    ("WINDOW", .WINDOW), ("WITH", .WITH), ("XOR", .XOR), ("AS", .ALIAS), ("TEMP", .TEMPORARY),
    ("REGEXP", .RLIKE)]

/-- The names of types. -/
def typeWords : List (String × TokenKind) :=
  [("BIT", .BIT), ("BOOL", .BOOLEAN), ("BOOLEAN", .BOOLEAN), ("BYTE", .TINYINT),
    ("MEDIUMINT", .MEDIUMINT), ("INT1", .TINYINT), ("TINYINT", .TINYINT), ("INT16", .SMALLINT),
    ("SHORT", .SMALLINT), ("SMALLINT", .SMALLINT), ("INT2", .SMALLINT), ("HUGEINT", .INT128),
    ("INT128", .INT128), ("INTEGER", .INT), ("INT", .INT), ("INT4", .INT), ("INT32", .INT),
    ("INT64", .BIGINT), ("LONG", .BIGINT), ("BIGINT", .BIGINT), ("INT8", .TINYINT),
    ("UINT", .UINT), ("DEC", .DECIMAL), ("DECIMAL", .DECIMAL), ("NUMBER", .DECIMAL),
    ("NUMERIC", .DECIMAL), ("FIXED", .DECIMAL), ("REAL", .FLOAT), ("FLOAT", .FLOAT),
    ("FLOAT4", .FLOAT), ("FLOAT8", .DOUBLE), ("DOUBLE", .DOUBLE), ("JSON", .JSON),
    ("JSONB", .JSONB), ("CHAR", .CHAR), ("CHARACTER", .CHAR), ("NCHAR", .NCHAR),
    ("VARCHAR", .VARCHAR), ("VARCHAR2", .VARCHAR), ("NVARCHAR", .NVARCHAR),
    ("NVARCHAR2", .NVARCHAR), ("STR", .TEXT), ("STRING", .TEXT), ("TEXT", .TEXT),
    ("LONGTEXT", .LONGTEXT), ("MEDIUMTEXT", .MEDIUMTEXT), ("TINYTEXT", .TINYTEXT),
    ("CLOB", .TEXT), ("LONGVARCHAR", .TEXT), ("BINARY", .BINARY), ("BLOB", .VARBINARY),
    ("BYTEA", .VARBINARY), ("VARBINARY", .VARBINARY), ("TIME", .TIME), ("TIMETZ", .TIMETZ),
    ("TIMESTAMP", .TIMESTAMP), ("TIMESTAMPTZ", .TIMESTAMPTZ), ("TIMESTAMPLTZ", .TIMESTAMPLTZ),
    ("TIMESTAMP_LTZ", .TIMESTAMPLTZ), ("TIMESTAMPNTZ", .TIMESTAMPNTZ),
    ("TIMESTAMP_NTZ", .TIMESTAMPNTZ), ("DATE", .DATE), ("DATETIME", .DATETIME),
    ("BIGDECIMAL", .BIGDECIMAL), ("BIGNUMERIC", .BIGDECIMAL), ("UUID", .UUID)]

/-- The token that a character is by itself. -/
def symbol? (c : Char) : Option TokenKind :=
  symbols.lookup c

/-- What a word means, given the words that a dialect adds; most words are names. -/
def wordKind (more : List (String × TokenKind)) (word : String) : TokenKind :=
  let key := Text.upper word
  match more.lookup key with
  | some k => k
  | none => (words.lookup key <|> typeWords.lookup key).getD .VAR

end Sql
end SqlDialects
