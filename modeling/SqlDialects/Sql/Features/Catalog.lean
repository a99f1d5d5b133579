import SqlDialects.Sql.Features
import SqlDialects.Sql.Features.Reserved

/-!
# The features of all dialects

Every dialect as the base dialect, or a close relative, with some changes.

**Results.**
* `Features.ofName` gives the features of a dialect by its name.
-/

namespace SqlDialects
namespace Sql
namespace Features

/-- Operators on bits as calls of functions whose names start alike. -/
def bitCalls (start : String) : List (Kind × String) :=
  [(.bitwiseAnd, start ++ "AND"), (.bitwiseOr, start ++ "OR"), (.bitwiseXor, start ++ "XOR"),
    (.bitwiseNot, start ++ "NOT")]

/-- The functions for the present without parentheses. -/
def plainPresent : List (Function × String) :=
  [(.currentDate, "CURRENT_DATE"), (.currentTime, "CURRENT_TIME"),
    (.currentTimestamp, "CURRENT_TIMESTAMP"), (.currentUser, "CURRENT_USER")]

/-- Marks around hexadecimal numbers: a zero and a letter before them. -/
def shortHex : List (String × String) :=
  [("0x", ""), ("0X", "")]

/-- Marks around hexadecimal numbers: a letter before a text. -/
def quotedHex : List (String × String) :=
  [("x'", "'"), ("X'", "'")]

/-- BigQuery: names in backticks, texts in either quote, and types of its own. -/
def bigquery : Features :=
  { standard with
    label := "BigQuery"
    nameQuotes := [('\x60', '\x60')]
    textQuotes := ['\'', '"']
    escapes := ['\\']
    lineComments := ["--", "#"]
    nestedComments := false
    nameEscape := some '\\'
    hexMarks := shortHex
    moreWords := [("BYTEINT", .INT), ("BYTES", .BINARY), ("DATETIME", .TIMESTAMP),
      ("FLOAT64", .DOUBLE), ("TIMESTAMP", .TIMESTAMPTZ), ("DIV", .VAR), ("VALUES", .VAR)]
    nullClause := .limited
    fetch := .never
    plainUnion := none
    plainOthers := none
    tryCast := .word "SAFE_"
    rows := .records
    choice := .call "IF" "NULL"
    callNames := [(.mod, "MOD"), (.intDiv, "DIV"), (.regexpLike, "REGEXP_CONTAINS"),
      (.collate, "COLLATE"), (.function .countIf, "COUNTIF"), (.function .variancePop, "VAR_POP"),
      (.hexString, "FROM_HEX")]
    logBase := .second
    reserved := Reserved.bigquery
    delimiters := " \t\n\r\x0c\x0b\\[\\]()\x7b\x7d/|<>!?@\"^#$&~_,.:;*%+\\-"
    traits := [.plainHints, .hexIntegers, .noMedian, .literalLimits, .distinctCombinations,
      .noSemiJoins, .noAliasColumns, .innerColumns, .aliasedGroups, .sizelessCasts,
      .caseSensitivePatterns, .scalarExtremes,
      .dividesByCall, .bareArguments, .keepsSpelling, .keepsNames, .byteLengths, .naturalLogs,
      .nullsSpread, .noNullChoice] }
  |>.withTypes
    [("BIGINT", "INT64"), ("INT", "INT64"), ("SMALLINT", "INT64"), ("TINYINT", "INT64"),
      ("TEXT", "STRING"), ("VARCHAR", "STRING"), ("CHAR", "STRING"), ("NCHAR", "STRING"),
      ("NVARCHAR", "STRING"), ("DECIMAL", "NUMERIC"), ("BIGDECIMAL", "BIGNUMERIC"),
      ("DOUBLE", "FLOAT64"), ("FLOAT", "FLOAT64"), ("BOOLEAN", "BOOL"), ("BINARY", "BYTES"),
      ("VARBINARY", "BYTES"), ("BLOB", "BYTES"), ("UUID", "STRING"), ("TIMESTAMP", "DATETIME"),
      ("TIMESTAMPNTZ", "DATETIME"), ("TIMESTAMPTZ", "TIMESTAMP"), ("TIMESTAMPLTZ", "TIMESTAMP"),
      ("ROWVERSION", "BYTES")]

/-- ClickHouse: types of its own, which are marked where they may hold nulls. -/
def clickhouse : Features :=
  { standard with
    label := "ClickHouse"
    nameQuotes := [('"', '"'), ('\x60', '\x60')]
    escapes := ['\'', '\\']
    lineComments := ["--", "#"]
    nameEscape := some '\\'
    hexMarks := shortHex
    moreWords := [("FLOAT32", .FLOAT), ("FLOAT64", .DOUBLE), ("UINT8", .UTINYINT),
      ("UINT16", .USMALLINT), ("UINT32", .UINT), ("UINT64", .UBIGINT)]
    fetch := .afterOffset
    nulls := .last
    plainUnion := none
    plainOthers := some false
    tryCast := .nullable
    rows := .namedQueries
    sizelessTypes := ["String"]
    callNames := [(.function .length, "CHAR_LENGTH"), (.function .anyValue, "any"),
      (.function .countIf, "countIf"), (.function .lag, "lag"), (.function .lead, "lead"),
      (.function .median, "median"), (.function .variancePop, "varPop"), (.hexString, "UNHEX"),
      (.function .nullif, "nullIf"), (.function .rand, "randCanonical"),
      (.function .stddev, "stddevSamp"), (.function .variance, "varSamp"), (.regexpLike, "match")]
    constants := [(.currentDate, "CURRENT_DATE()")]
    logBase := .named
    traits := [.digitNames, .plainHints, .byteLengths, .wordyTrims, .saysBothEnds, .safeDivision,
      .ownClauses, .announcedQueries, .definiteTypes, .keepsSpelling, .keepsNames, .naturalLogs,
      .noNullChoice, .noPivots, .bareCombinations, .parenthesizedTests, .marksNullable, .openRows,
      .spacedDigits, .hexIntegers, .schemasAreDatabases] }
  |>.withTypes
    [("TEXT", "String"), ("VARCHAR", "String"), ("CHAR", "String"), ("BLOB", "String"),
      ("VARBINARY", "String"), ("TIMESTAMP", "DateTime"), ("DATETIME", "DateTime"),
      ("TIMESTAMPNTZ", "DateTime"), ("TIMESTAMPTZ", "DateTime"), ("DATETIME2", "DateTime"),
      ("SMALLDATETIME", "DateTime"), ("UTINYINT", "UInt8"), ("USMALLINT", "UInt16"),
      ("MEDIUMINT", "Int32"), ("INT128", "Int128"),
      ("LONGTEXT", "String"), ("MEDIUMTEXT", "String"), ("TINYTEXT", "String"),
      ("BIGINT", "Int64"), ("INT", "Int32"), ("SMALLINT", "Int16"), ("TINYINT", "Int8"),
      ("UBIGINT", "UInt64"), ("UINT", "UInt32"), ("DOUBLE", "Float64"), ("FLOAT", "Float32"),
      ("DECIMAL", "Decimal"), ("DATE", "DATE"), ("BOOLEAN", "Bool")]

/-- MySQL: names in backticks, two bars mean "or", and few types can be converted to. -/
def mysql : Features :=
  { standard with
    label := "MySQL"
    nameQuotes := [('\x60', '\x60')]
    textQuotes := ['\'', '"']
    escapes := ['\'', '"', '\\']
    lineComments := ["--", "#"]
    nestedComments := false
    hexMarks := quotedHex ++ [("0x", "")]
    moreWords := [("SIGNED", .BIGINT), ("SIGNED INTEGER", .BIGINT), ("UNSIGNED", .UBIGINT),
      ("UNSIGNED INTEGER", .UBIGINT), ("MOD", .MOD), ("BLOB", .BLOB), ("DISTINCTROW", .DISTINCT),
      ("TIMESTAMP", .TIMESTAMPTZ)]
    nullClause := .simulated
    fetch := .never
    tryCast := .plain
    textJoin := .call
    rows := .queries
    updates := .joined
    sizelessNames := [("VARCHAR", "TEXT")]
    callNames := [(.function .length, "CHAR_LENGTH"), (.function .stddev, "STDDEV_SAMP"),
      (.function .variance, "VAR_SAMP"), (.function .variancePop, "VAR_POP")]
    operatorNames := [(.intDiv, "DIV"), (.nullSafeEq, "<=>")]
    reserved := Reserved.mysql
    castNames :=
      [("TEXT", "CHAR"), ("VARCHAR", "CHAR"), ("LONGTEXT", "CHAR"), ("MEDIUMTEXT", "CHAR"),
        ("TINYTEXT", "CHAR"), ("BIGINT", "SIGNED"), ("BOOLEAN", "SIGNED"), ("INT", "SIGNED"),
        ("SMALLINT", "SIGNED"), ("TINYINT", "SIGNED"), ("MEDIUMINT", "SIGNED"),
        ("UBIGINT", "UNSIGNED")]
    traits := [.digitNames, .barsMeanOr, .byteLengths, .wordyTrims, .safeDivision, .noPivots,
      .literalLimits, .noSemiJoins, .noQualify, .noFullJoins, .scalarExtremes,
      .caseSensitivePatterns, .naturalLogs, .noNullChoice, .noMedian, .skipsNulls,
      .callsForZones, .unsignedWords] }
  |>.withTypes
    [("MEDIUMTEXT", "MEDIUMTEXT"), ("LONGTEXT", "LONGTEXT"), ("TINYTEXT", "TINYTEXT"),
      ("BLOB", "BLOB"), ("TIMESTAMP", "DATETIME"), ("TIMESTAMPNTZ", "DATETIME"),
      ("TIMESTAMPTZ", "TIMESTAMP"), ("TIMESTAMPLTZ", "TIMESTAMP"), ("DATETIME2", "DATETIME"),
      ("SMALLDATETIME", "DATETIME"), ("UBIGINT", "BIGINT"), ("UINT", "INT"),
      ("USMALLINT", "SMALLINT"), ("UTINYINT", "TINYINT")]

/-- Doris: a relative of MySQL that converts to any type. -/
def doris : Features :=
  { mysql with
    label := "Doris"
    castNames := []
    sizelessNames := []
    updates := .fromLast
    choice := .call "IF" "NULL"
    callNames := (.regexpLike, "REGEXP") :: mysql.callNames
    constants := [(.currentDate, "CURRENT_DATE()"), (.currentTimestamp, "NOW()")]
    reserved := Reserved.doris }
  |>.withTypes [("TEXT", "STRING"), ("TIMESTAMP", "DATETIME"), ("TIMESTAMPTZ", "DATETIME")]
  |>.withTraits [.silentTargetAliases, .fullShifts]
  |>.withoutTraits [.callsForZones]

/-- StarRocks: a relative of MySQL that converts to any type and keeps keys apart. -/
def starrocks : Features :=
  { mysql with
    label := "StarRocks"
    castNames := []
    sizelessNames := []
    updates := .fromLast
    truthTest := .omitted
    callNames := (.regexpLike, "REGEXP") :: mysql.callNames
    overwrite := " OVERWRITE"
    reserved := Reserved.starrocks }
  |>.withTypes [("TEXT", "STRING"), ("TIMESTAMP", "DATETIME"), ("TIMESTAMPTZ", "DATETIME")]
  |>.withTraits [.distinctCombinations, .noTableKeys, .noRangesInDeletes]
  |>.withoutTraits [.noFullJoins, .noSemiJoins, .noQualify]

/-- SingleStore: a relative of MySQL with operators for conversions. -/
def singlestore : Features :=
  { mysql with
    label := "SingleStore"
    castOperator := some " :> "
    operatorNames := (.regexpLike, "RLIKE") :: mysql.operatorNames
    tryCast := .operator " !:> "
    nullClause := .written
    castNames := []
    constants := [(.currentDate, "CURRENT_DATE()")]
    reserved := Reserved.singlestore }
  |>.withTraits [.sumsConditions, .copiesByFilling]
  |>.withoutTraits [.callsForZones]

/-- Hive: names in backticks, backslashes escape, and texts are strings. -/
def hive : Features :=
  { standard with
    label := "Hive"
    nameQuotes := [('\x60', '\x60')]
    textQuotes := ['\'', '"']
    escapes := ['\\']
    numberTypes := [("L", .BIGINT), ("S", .SMALLINT), ("Y", .TINYINT), ("D", .DOUBLE),
      ("F", .FLOAT), ("BD", .DECIMAL)]
    fetch := .never
    tryCast := .plain
    choice := .call "IF" ""
    sizelessNames := [("VARCHAR", "STRING"), ("CHAR", "STRING"), ("NVARCHAR", "STRING"),
      ("NCHAR", "STRING")]
    moreWords := [("MINUS", .EXCEPT)]
    operatorNames := [(.intDiv, "DIV"), (.regexpLike, "RLIKE")]
    callNames := [(.function .anyValue, "FIRST"), (.function .variancePop, "VAR_POP")]
    outerQueries := [.insert, .select, .subquery]
    delimiters := " \t\n\r\x0c\x0b"
    traits := [.digitNames, .triesCasts, .safeDivision, .noQualify, .noRecursion, .scalarExtremes,
      .caseSensitivePatterns, .noUniqueColumns, .noNullMarks, .temporaryViews, .naturalLogs,
      .cutsByParts, .noNullChoice, .noHints, .noMedian, .skipsNulls, .wordyTrims,
      .unboundedTexts, .sizedTexts, .sizelessTimes, .fixedDelimiters] }
  |>.withTypes
    [("TEXT", "STRING"), ("VARBINARY", "BINARY"), ("BLOB", "BINARY"), ("BIT", "BOOLEAN"),
      ("DATETIME", "TIMESTAMP"), ("TIME", "TIMESTAMP"), ("TIMESTAMPNTZ", "TIMESTAMP"),
      ("TIMESTAMPTZ", "TIMESTAMP"), ("ROWVERSION", "BINARY"), ("UTINYINT", "SMALLINT")]

/-- Spark: a relative of Hive. -/
def spark : Features :=
  { hive with
    label := "Spark"
    tryCast := .announced "TRY_"
    hexMarks := [("X'", "'"), ("x'", "'")]
    callNames := [(.function .variancePop, "VAR_POP")] }
  |>.withTypes
    [("UUID", "STRING"), ("TIMESTAMPNTZ", "TIMESTAMP_NTZ"), ("TIMESTAMPLTZ", "TIMESTAMP_LTZ")]
  |>.withTraits [.openRows, .storedTemporaries]
  |>.withoutTraits [.caseSensitivePatterns, .cutsByParts, .noNullChoice, .noHints, .noMedian,
    .noRecursion]

/-- Databricks: a relative of Spark that rejects what fails. -/
def databricks : Features :=
  { spark with label := "Databricks", tryCast := .word "TRY_" }
  |>.withoutTraits [.safeDivision, .triesCasts, .noQualify]

/-- Postgres: nulls are large, and the quotient of integers is an integer. -/
def postgres : Features :=
  { standard with
    label := "Postgres"
    nulls := .large
    hexMarks := quotedHex
    moreWords := [("DIV", .VAR), ("FLOAT", .DOUBLE), ("INT8", .BIGINT)]
    moreSymbols := [("~", .RLIKE)]
    tryCast := .plain
    constants := plainPresent
    operatorNames := [(.bitwiseXor, "#"), (.function .pow, "^"), (.regexpLike, "~")]
    callNames := [(.intDiv, "DIV"), (.function .rand, "RANDOM"), (.function .variance, "VAR_SAMP"),
      (.function .variancePop, "VAR_POP")]
    traits := [.plainHints, .nullsAreEmpty, .wordyTrims, .wordyParts, .roundsExactly,
      .noNullChoice, .typedDivision, .noPivots, .noSemiJoins, .noQualify, .singleDistinct,
      .scalarExtremes, .sumsConditions, .noMedian, .extractsParts, .skipsNulls, .sizedFloats,
      .caretPowers, .exactQuotients, .orderedMedian] }
  |>.withTypes
    [("TINYINT", "SMALLINT"), ("FLOAT", "REAL"), ("DOUBLE", "DOUBLE PRECISION"),
      ("BINARY", "BYTEA"), ("VARBINARY", "BYTEA"), ("BLOB", "BYTEA"), ("ROWVERSION", "BYTEA"),
      ("DATETIME", "TIMESTAMP"), ("TIMESTAMPNTZ", "TIMESTAMP")]

/-- Redshift: a relative of Postgres with pivots and bounded texts. -/
def redshift : Features :=
  { postgres with
    label := "Redshift"
    escapes := ['\\', '\'']
    moreWords := ("MINUS", .EXCEPT) :: ("TOP", .TOP) :: ("VALUES", .VAR)
      :: ("VARBYTE", .VARBINARY) :: postgres.moreWords
    fetch := .never
    rows := .queries
    constants := [(.currentDate, "CURRENT_DATE"), (.currentTimestamp, "GETDATE()"),
      (.currentUser, "CURRENT_USER")]
    operatorNames := [(.bitwiseXor, "#"), (.regexpLike, "~")]
    sizelessNames := [("TEXT", "VARCHAR(MAX)")]
    reserved := Reserved.redshift }
  |>.withTypes
    [("TEXT", "VARCHAR"), ("INT", "INTEGER"), ("BINARY", "VARBYTE"), ("VARBINARY", "VARBYTE"),
      ("BLOB", "VARBYTE"), ("ROWVERSION", "VARBYTE"), ("TIMETZ", "TIME"),
      ("TIMESTAMPTZ", "TIMESTAMP")]
  |>.withTraits [.distinctCombinations, .barsForConcat, .barsForSeparators, .zoneWords,
    .noJsonCasts, .inlineWindows]
  |>.withoutTraits [.noPivots, .noQualify, .singleDistinct, .roundsExactly, .noNullChoice,
    .noMedian]

/-- Presto: nulls come last, and texts are bounded or not by one type. -/
def presto : Features :=
  { standard with
    label := "Presto"
    nestedComments := false
    nulls := .last
    textJoin := .strictCall
    truthTest := .omitted
    choice := .call "IF" ""
    moreWords := [("QUALIFY", .VAR)]
    callNames := (.function .anyValue, "ARBITRARY") :: (.function .variancePop, "VAR_POP")
      :: (.hexString, "FROM_HEX") :: bitCalls "BITWISE_"
    logBase := .named
    constants := plainPresent
    reserved := Reserved.presto
    traits := [.plainHints, .joinsTextsOnly, .typedDivision, .noPivots, .offsetFirst,
      .literalLimits, .distinctCombinations, .noSemiJoins, .noQualify, .recursiveColumns,
      .caseSensitivePatterns, .singleDistinct, .scalarExtremes, .noSingleConcat, .bareViews,
      .bareDeletes, .cutsByParts, .noNullChoice, .noMedian, .skipsNulls, .zoneWords,
      .inlineWindows, .capitalizesMatches, .noDefaultValues] }
  |>.withTypes
    [("INT", "INTEGER"), ("FLOAT", "REAL"), ("TEXT", "VARCHAR"), ("BINARY", "VARBINARY"),
      ("BIT", "BOOLEAN"), ("DATETIME", "TIMESTAMP"), ("TIMESTAMPTZ", "TIMESTAMP"),
      ("TIMESTAMPNTZ", "TIMESTAMP"), ("TIMETZ", "TIME"), ("ROWVERSION", "VARBINARY")]

/-- Trino: a relative of Presto. -/
def trino : Features :=
  { presto with label := "Trino", logBase := .first }
  |>.withTraits [.wordyTrims]
  |>.withoutTraits [.distinctCombinations]

/-- Athena: a relative of Trino, whose tables are defined in the manner of Hive. -/
def athena : Features :=
  { trino with
    label := "Athena"
    nameQuotes := [('"', '"'), ('\x60', '\x60')]
    escapes := ['\'', '\\'] }
  |>.withTraits [.foreignDefinitions]

/-- DuckDB: nulls come last, and all texts are of one type. -/
def duckdb : Features :=
  { standard with
    label := "DuckDB"
    plainDecimals := some (18, 3)
    nulls := .last
    moreWords := [("BINARY", .VARBINARY), ("BITSTRING", .BIT), ("BPCHAR", .TEXT), ("CHAR", .TEXT),
      ("DATETIME", .TIMESTAMPNTZ), ("INT8", .BIGINT), ("LOGICAL", .BOOLEAN), ("SIGNED", .INT),
      ("STRING", .TEXT), ("UBIGINT", .UBIGINT), ("UINTEGER", .UINT), ("USMALLINT", .USMALLINT),
      ("UTINYINT", .UTINYINT), ("VARCHAR", .TEXT)]
    moreSymbols := [("//", .DIV), ("**", .DSTAR)]
    fetch := .never
    callNames := [(.bitwiseXor, "XOR"), (.regexpLike, "REGEXP_MATCHES"), (.hexString, "FROM_HEX"),
      (.function .rand, "RANDOM"), (.function .variancePop, "VAR_POP")]
    operatorNames := [(.intDiv, "//")]
    constants := plainPresent
    reserved := Reserved.duckdb
    traits := [.plainHints, .safeDivision, .nullsAreEmpty, .sidelessSemiJoins, .openCrossJoins,
      .singleDistinct, .measuresBytes, .noNullChoice, .skipsNulls, .spacedDigits,
      .signedParameters, .caretPowers, .leavesNullsOut, .boundlessTexts] }
  |>.withTypes
    [("CHAR", "TEXT"), ("NCHAR", "TEXT"), ("NVARCHAR", "TEXT"), ("VARCHAR", "TEXT"),
      ("FLOAT", "REAL"), ("BINARY", "BLOB"), ("VARBINARY", "BLOB"), ("UINT", "UINTEGER"),
      ("DATETIME", "TIMESTAMP"), ("TIMESTAMPNTZ", "TIMESTAMP"), ("TIMESTAMPLTZ", "TIMESTAMPTZ"),
      ("JSONB", "JSON"), ("ROWVERSION", "BLOB"), ("BIGDECIMAL", "DECIMAL(38, 5)")]

/-- Oracle: rows are fetched, and nothing stands between a table and its alias. -/
def oracle : Features :=
  { standard with
    label := "Oracle"
    nulls := .large
    fetch := .always
    tableAlias := " "
    callNames := [(.mod, "MOD"), (.function .substring, "SUBSTR"),
      (.function .rand, "DBMS_RANDOM.VALUE")]
    constants := plainPresent
    moreWords := [("MINUS", .EXCEPT), ("TOP", .TOP), ("BINARY_DOUBLE", .DOUBLE),
      ("BINARY_FLOAT", .FLOAT)]
    traits := [.offsetInRows, .distinctCombinations, .noQualify, .caseSensitivePatterns,
      .globalTemporaries, .wordyTrims, .namedTrims, .roundsCasts, .zoneWords] }
  |>.withTypes
    [("TEXT", "CLOB"), ("BIGINT", "INT"), ("TINYINT", "SMALLINT"), ("SMALLINT", "SMALLINT"),
      ("INT", "INT"), ("DECIMAL", "NUMBER"), ("DOUBLE", "DOUBLE PRECISION"),
      ("VARCHAR", "VARCHAR2"), ("NVARCHAR", "NVARCHAR2"), ("NCHAR", "NCHAR"),
      ("BINARY", "BLOB"), ("VARBINARY", "BLOB"), ("ROWVERSION", "BLOB"), ("BLOB", "BLOB"),
      ("TIMETZ", "TIME"), ("TIMESTAMPNTZ", "TIMESTAMP"), ("TIMESTAMPTZ", "TIMESTAMP")]

/-- Snowflake: nulls are large, backslashes escape, and two slashes start a comment. -/
def snowflake : Features :=
  { standard with
    label := "Snowflake"
    plainDecimals := some (38, 0)
    escapes := ['\\', '\'']
    lineComments := ["--", "//"]
    nestedComments := false
    nulls := .large
    hexMarks := quotedHex
    tryCast := .ofTexts
    truthTest := .omitted
    choice := .call "IFF" "NULL"
    overwrite := " OVERWRITE INTO"
    moreWords := [("MINUS", .EXCEPT), ("TOP", .TOP), ("BYTEINT", .INT), ("SQL_DOUBLE", .DOUBLE),
      ("SQL_VARCHAR", .VARCHAR), ("TIMESTAMP_TZ", .TIMESTAMPTZ)]
    callNames := (.function .extract, "DATE_PART") :: bitCalls "BIT"
    delimiters := " \t\n\r\x0c\x0b!?@\"^#$&~_,.:;+\\-*%/|\\[\\]()\x7b\x7d<>"
    traits := [.plainHints, .limitedOffset, .distinctCombinations, .noSemiJoins, .scalarExtremes,
      .byteLengths, .literalLimits, .nullsSpread, .namesNullFilter,
      .numberedControls, .inlineWindows, .unlikeAllRows, .noFilters] }
  |>.withTypes [("TEXT", "VARCHAR"), ("JSON", "VARIANT"), ("BIGDECIMAL", "DOUBLE")]

/-- SQLite: names in three kinds of quotes, and five types. -/
def sqlite : Features :=
  { standard with
    label := "SQLite"
    nameQuotes := [('"', '"'), ('[', ']'), ('\x60', '\x60')]
    nestedComments := false
    hexMarks := quotedHex ++ shortHex
    fetch := .never
    tryCast := .plain
    choice := .call "IIF" ""
    callNames := [(.function .anyValue, "MAX"), (.function .rand, "RANDOM")]
    operatorNames := [(.nullSafeEq, "IS"), (.nullSafeNeq, "IS NOT")]
    constants := plainPresent
    traits := [.plainHints, .typedDivision, .safeDivision, .noPivots, .distinctCombinations,
      .bareOperands, .noSemiJoins, .noQualify, .noAliasColumns, .caseSensitivePatterns,
      .barsForConcat, .columnKeys, .sumsConditions, .noNullChoice, .callsForDates,
      .replacesNulls, .bareQueries] }
  |>.withTypes
    [("BLOB", "BLOB"), ("BOOLEAN", "INTEGER"), ("TINYINT", "INTEGER"), ("SMALLINT", "INTEGER"),
      ("INT", "INTEGER"), ("BIGINT", "INTEGER"), ("FLOAT", "REAL"), ("DOUBLE", "REAL"),
      ("DECIMAL", "REAL"),
      ("CHAR", "TEXT"), ("NCHAR", "TEXT"), ("VARCHAR", "TEXT"), ("NVARCHAR", "TEXT"),
      ("BINARY", "BLOB"), ("VARBINARY", "BLOB")]

/-- T-SQL: names in brackets, and the number of rows stands before the expressions. -/
def tsql : Features :=
  { standard with
    label := "TSQL"
    nameQuotes := [('[', ']'), ('"', '"')]
    textQuotes := ['\'', '"']
    hexMarks := shortHex
    moreWords := [("TOP", .TOP), ("DATETIME2", .DATETIME2), ("DATETIMEOFFSET", .TIMESTAMPTZ),
      ("NTEXT", .TEXT), ("PROC", .PROCEDURE), ("REAL", .FLOAT), ("ROWVERSION", .ROWVERSION),
      ("SMALLDATETIME", .SMALLDATETIME), ("SYSTEM_USER", .CURRENT_USER),
      ("TIMESTAMP", .ROWVERSION), ("TINYINT", .UTINYINT), ("UNIQUEIDENTIFIER", .UUID)]
    nullClause := .simulated
    fetch := .always
    textJoin := .plus
    truthTest := .compared
    choice := .call "IIF" ""
    callNames := [(.function .ceil, "CEILING"), (.function .length, "LEN"),
      (.function .stddev, "STDEV"), (.function .extract, "DATEPART"),
      (.function .ln, "LOG"), (.function .repeated, "REPLICATE"), (.function .anyValue, "MAX")]
    constants := [(.currentDate, "CAST(GETDATE() AS DATE)"), (.currentTimestamp, "GETDATE()")]
    logBase := .second
    outerQueries := [.create, .delete, .insert, .intersectOf, .exceptOf, .select, .subquery,
      .unionOf, .update]
    traits := [.plainHints, .nullsAreEmpty, .typedDivision, .topFirst, .offsetInRows,
      .orderedOffset, .distinctCombinations, .bareCombinations, .noSemiJoins, .noQualify,
      .namedOutputs, .silentRecursion, .numericTruth, .scalarExtremes, .noSingleConcat,
      .largeCounts, .batches, .wordyTrims, .naturalLogs, .measuresAnything, .noNullChoice,
      .countsChoices, .noMedian, .skipsNulls, .silentDefaults] }
  |>.withTypes
    [("TEXT", "VARCHAR(MAX)"), ("INT", "INTEGER"), ("BOOLEAN", "BIT"), ("DECIMAL", "NUMERIC"),
      ("DOUBLE", "FLOAT"), ("DATETIME2", "DATETIME2"), ("TIMESTAMP", "DATETIME2"),
      ("TIMESTAMPNTZ", "DATETIME2"), ("TIMESTAMPTZ", "DATETIMEOFFSET"),
      ("SMALLDATETIME", "SMALLDATETIME"), ("UTINYINT", "TINYINT"), ("ROWVERSION", "ROWVERSION"),
      ("UUID", "UNIQUEIDENTIFIER"), ("NCHAR", "NCHAR"), ("NVARCHAR", "NVARCHAR")]

/-- Fabric: a relative of T-SQL with fewer types. -/
def fabric : Features :=
  { tsql with
    label := "Fabric"
    sizelessNames := [("VARCHAR", "VARCHAR(MAX)"), ("NVARCHAR", "VARCHAR(MAX)"),
      ("JSON", "VARCHAR(MAX)")] }
  |>.withTypes
    [("DATETIME", "DATETIME2"), ("DECIMAL", "DECIMAL"), ("INT", "INT"), ("JSON", "VARCHAR"),
      ("NCHAR", "CHAR"), ("NVARCHAR", "VARCHAR"), ("SMALLDATETIME", "DATETIME2"),
      ("TIMESTAMPTZ", "DATETIME2"), ("TINYINT", "SMALLINT"), ("UTINYINT", "SMALLINT")]
  |>.withTraits [.sizedTimes]

/-- Teradata: the number of rows stands before the expressions. -/
def teradata : Features :=
  { standard with
    label := "Teradata"
    moreWords := [("TOP", .TOP), ("MOD", .MOD), ("MINUS", .EXCEPT), ("BYTEINT", .SMALLINT),
      ("SEL", .SELECT), ("INS", .INSERT), ("UPD", .UPDATE), ("DEL", .DELETE), ("EQ", .EQ),
      ("NE", .NEQ), ("GT", .GT), ("GE", .GTE), ("LT", .LT), ("LE", .LTE)]
    moreSymbols := [("**", .DSTAR), ("^=", .NEQ), ("NOT=", .NEQ)]
    tryCast := .word "TRY"
    updates := .fromFirst
    operatorNames := [(.mod, "MOD"), (.function .pow, "**")]
    callNames := [(.function .rand, "RANDOM")]
    constants := [(.currentDate, "CURRENT_DATE"), (.currentTimestamp, "CURRENT_TIMESTAMP")]
    traits := [.plainHints, .typedDivision, .topFirst, .noSemiJoins, .scalarExtremes, .zoneWords] }
  |>.withTypes [("DOUBLE", "DOUBLE PRECISION"), ("TIMESTAMPTZ", "TIMESTAMP")]

/-- Drill: names in backticks, nulls come last, and one type of integers of usual size. -/
def drill : Features :=
  { standard with
    label := "Drill"
    nameQuotes := [('\x60', '\x60')]
    nulls := .last
    tryCast := .plain
    choice := .call "\x60IF\x60" ""
    callNames := [(.function .pow, "POW"), (.ilike, "ILIKE"), (.regexpLike, "REGEXP_MATCHES")]
    constants := [(.currentDate, "CURRENT_DATE"), (.currentTimestamp, "CURRENT_TIMESTAMP")]
    traits := [.triesCasts, .nullsAreEmpty, .typedDivision, .noPivots, .noSemiJoins,
      .keepsSpelling, .naturalLogs, .noNullChoice] }
  |>.withTypes
    [("INT", "INTEGER"), ("SMALLINT", "INTEGER"), ("TINYINT", "INTEGER"), ("BINARY", "VARBINARY"),
      ("TEXT", "VARCHAR"), ("NCHAR", "VARCHAR"), ("DATETIME", "TIMESTAMP"),
      ("TIMESTAMPTZ", "TIMESTAMP"), ("TIMESTAMPLTZ", "TIMESTAMP")]

/-- Dremio: nulls come last, and small integers are of the usual size. -/
def dremio : Features :=
  { standard with
    label := "Dremio"
    lineComments := ["--", "//"]
    nulls := .last
    tryCast := .plain
    traits := [.typedDivision, .nullsAreEmpty, .singleDistinct, .noNullChoice, .noZones] }
  |>.withTypes
    [("SMALLINT", "INT"), ("TINYINT", "INT"), ("BINARY", "VARBINARY"), ("BIT", "BOOLEAN"),
      ("TEXT", "VARCHAR"), ("CHAR", "VARCHAR"), ("NCHAR", "VARCHAR"), ("DATETIME", "TIMESTAMP"),
      ("TIMESTAMPNTZ", "TIMESTAMP")]

/-- Exasol: nulls come last, and aliases of columns are local names. -/
def exasol : Features :=
  { standard with
    label := "Exasol"
    nameQuotes := [('"', '"'), ('[', ']')]
    nulls := .last
    moreWords := [("ENDIF", .END), ("USER", .CURRENT_USER), ("DIV", .VAR), ("LONG VARCHAR", .TEXT)]
    choice := .words "ENDIF"
    callNames := (.mod, "MOD") :: (.intDiv, "DIV") :: (.everyOf, "EVERY")
      :: (.function .variancePop, "VAR_POP") :: bitCalls "BIT_"
    operatorNames := [(.regexpLike, "REGEXP_LIKE")]
    constants := [(.currentDate, "CURRENT_DATE"), (.currentUser, "CURRENT_USER")]
    reserved := Reserved.exasol
    traits := [.localAliases, .qualifiedStars, .nullsAreEmpty, .wholeMatches] }
  |>.withTypes
    [("TEXT", "LONG VARCHAR"), ("LONGTEXT", "VARCHAR"), ("MEDIUMTEXT", "VARCHAR"),
      ("TINYTEXT", "VARCHAR"), ("VARBINARY", "VARCHAR"), ("TINYINT", "SMALLINT"),
      ("MEDIUMINT", "INT"), ("DATETIME", "TIMESTAMP"), ("TIMESTAMPTZ", "TIMESTAMP"),
      ("TIMESTAMPNTZ", "TIMESTAMP"), ("TIMESTAMPLTZ", "TIMESTAMP WITH LOCAL TIME ZONE")]

/-- Tableau: names in brackets. -/
def tableau : Features :=
  { standard with
    label := "Tableau"
    nameQuotes := [('[', ']')]
    textQuotes := ['\'', '"']
    choice := .words "END"
    callNames := [(.function .coalesce, "IFNULL")]
    logBase := .second
    traits := [.distinctCounts] }

/-- The features of dialects by name. -/
def all : List (String × Features) :=
  [("", standard),
    ("athena", athena),
    ("bigquery", bigquery),
    ("clickhouse", clickhouse),
    ("databricks", databricks),
    ("doris", doris),
    ("dremio", dremio),
    ("drill", drill),
    ("druid", { standard with
      label := "Druid"
      callNames := [(.mod, "MOD")]
      constants := [(.currentDate, "CURRENT_DATE"), (.currentTimestamp, "CURRENT_TIMESTAMP")] }
      |>.withTypes
        [("NCHAR", "STRING"), ("NVARCHAR", "STRING"), ("TEXT", "STRING"), ("UUID", "STRING")]),
    ("duckdb", duckdb),
    ("dune", { trino with label := "Dune" }),
    ("exasol", exasol),
    ("fabric", fabric),
    ("hive", hive),
    ("materialize", { postgres with label := "Materialize" }.withTraits
      [.noColumnKeys, .noUniqueColumns, .temporaryViews]),
    ("mysql", mysql),
    ("oracle", oracle),
    ("postgres", postgres),
    ("presto", presto),
    ("redshift", redshift),
    ("risingwave", { postgres with label := "RisingWave" }),
    ("singlestore", singlestore),
    ("snowflake", snowflake),
    ("solr", { standard with
      label := "Solr", nameQuotes := [('\x60', '\x60')], traits := [.barsMeanOr] }),
    ("spark", spark),
    ("sqlite", sqlite),
    ("starrocks", starrocks),
    ("tableau", tableau),
    ("teradata", teradata),
    ("trino", trino),
    ("tsql", tsql)]

/-- The features of a dialect by name; an unknown name stands for the base dialect. -/
def ofName (name : String) : Features :=
  (all.lookup name).getD standard

end Features
end Sql
end SqlDialects
