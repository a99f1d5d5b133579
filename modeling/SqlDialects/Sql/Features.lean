import SqlDialects.Sql.Function
import SqlDialects.Sql.Kind
import SqlDialects.Sql.Token.Word

/-!
# Features of dialects

What sets the dialects of SQL apart, as far as reading and writing go: quotes and escapes, comments,
the names of types and functions, the place of nulls, and what a dialect cannot say.

**Model.**
* A dialect is the base dialect with some changes. What can be said in a word or a table is a field;
  what a dialect does differently or not at all is a trait.

**Results.**
* `Features.standard` is the base dialect.
* `Features.has` says whether a dialect has a trait.
-/

namespace SqlDialects
namespace Sql

/-- Where nulls stand if an order does not say so. -/
inductive NullOrder where
  | small
  | large
  | last
deriving DecidableEq, Repr

/-- What becomes of an order that says where nulls stand. -/
inductive NullClause where
  /-- It is written. -/
  | written
  /-- It is written, but cannot be under a call that sums up rows. -/
  | limited
  /-- Rows are first ordered by whether the expression is null. -/
  | simulated
deriving DecidableEq, Repr

/-- Whether a number of rows is fetched. -/
inductive FetchForm where
  | asWritten
  | never
  /-- A number of rows is fetched as written where others are passed over, and never otherwise. -/
  | afterOffset
  | always
deriving DecidableEq, Repr

/-- How texts are joined. -/
inductive TextJoin where
  | bars
  | call
  /-- By a call whose arguments are converted to texts. -/
  | strictCall
  | plus
deriving DecidableEq, Repr

/-- How a conversion that may fail is written. -/
inductive TryForm where
  /-- As a conversion whose word starts with some letters. -/
  | word (start : String)
  /-- As a plain conversion. -/
  | plain
  /-- As a plain conversion, unless a text is converted. -/
  | ofTexts
  | operator (word : String)
  /-- As a conversion whose word starts with some letters, if that is how it was written. -/
  | announced (start : String)
  /-- As a conversion to a type that may hold nulls. -/
  | nullable
deriving DecidableEq, Repr

/-- How rows that are listed in place of a table are written. -/
inductive RowsForm where
  | list
  /-- As queries that are combined. -/
  | queries
  /-- As queries that are combined, if the columns are named. -/
  | namedQueries
  /-- As an array of records. -/
  | records
deriving DecidableEq, Repr

/-- How the tables that an update takes values from are written. -/
inductive UpdateForm where
  | fromLast
  | fromFirst
  | joined
deriving DecidableEq, Repr

/-- How a test for a truth value is written. -/
inductive TruthTest where
  | written
  /-- The value or its negation stands for itself. -/
  | omitted
  | compared
deriving DecidableEq, Repr

/-- How a choice between two values is written. -/
inductive ChoiceForm where
  | cases
  /-- As a call, perhaps with a default for the second value. -/
  | call (name default : String)
  /-- In words, of which the last one is given. -/
  | words (last : String)
deriving DecidableEq, Repr

/-- Where the base of a logarithm stands. -/
inductive LogBase where
  | first
  | second
  /-- Only some bases can be said, each by a name of its own. -/
  | named
deriving DecidableEq, Repr

/-- What a dialect does differently or not at all. -/
inductive Trait where
  /-- A name may start with a digit. -/
  | digitNames
  /-- A comment with hints is like any other comment. -/
  | plainHints
  /-- Hints are read, but cannot be said. -/
  | noHints
  /-- A caret, or two stars, stand for a power. -/
  | caretPowers
  /-- Underscores may set the digits of a number apart. -/
  | spacedDigits
  /-- A hexadecimal number is an integer. -/
  | hexIntegers
  /-- A sign for parameters takes the absolute value of what follows it. -/
  | signedParameters
  /-- Texts that values are converted to have no sizes. -/
  | unboundedTexts
  /-- No text has a size. -/
  | boundlessTexts
  /-- A value that is not among the rows of a query is unlike all of them. -/
  | unlikeAllRows
  /-- A call that divides integers gives an exact number. -/
  | exactQuotients
  /-- Rows that a call sums up cannot be picked after the call. -/
  | noFilters
  /-- A plain conversion gives null where it fails. -/
  | triesCasts
  /-- A call that joins texts takes nulls to be empty. -/
  | nullsAreEmpty
  /-- A call that joins texts with a text between them leaves nulls out. -/
  | skipsNulls
  /-- Only texts can be joined. -/
  | joinsTextsOnly
  /-- Two bars mean "or". -/
  | barsMeanOr
  /-- The length of a text counts bytes; its characters have a count of their own. -/
  | byteLengths
  /-- The quotient of integers is an integer. -/
  | typedDivision
  /-- Division by zero gives null. -/
  | safeDivision
  /-- A word has to stand between a named query and its name. -/
  | announcedQueries
  /-- Clauses after the last query of a combination belong to that query. -/
  | ownClauses
  /-- Types do not hold nulls unless they are marked. -/
  | definiteTypes
  /-- Names of functions are not put in upper case. -/
  | keepsSpelling
  /-- Functions keep the names they were called by. -/
  | keepsNames
  /-- The greatest of several values is null if one of them is. -/
  | nullsSpread
  /-- A logarithm without a base is a natural one. -/
  | naturalLogs
  /-- The start and the end of a text are written as parts of it. -/
  | cutsByParts
  /-- The part of a text is described in words. -/
  | wordyParts
  /-- Any value can be measured or cut like a text. -/
  | measuresAnything
  /-- Texts and bytes are measured by different functions. -/
  | measuresBytes
  /-- Only exact numbers can be rounded to some digits. -/
  | roundsExactly
  /-- What is taken off a text is said to be at both of its ends. -/
  | saysBothEnds
  /-- A row at some distance is given with all that can be said about it. -/
  | fullShifts
  /-- There is no choice by nulls. -/
  | noNullChoice
  /-- There is no function for the middle value. -/
  | noMedian
  /-- The middle value is one of values in an order. -/
  | orderedMedian
  /-- Words start with capital letters where a regular expression matches. -/
  | capitalizesMatches
  /-- A part of a date is taken out of it in words. -/
  | extractsParts
  /-- The greatest of several values has a name of its own where nulls are left out. -/
  | namesNullFilter
  /-- The greatest of several values is null if one of them is, so nulls are replaced. -/
  | replacesNulls
  /-- The greatest of several values is never null because one of them is. -/
  | leavesNullsOut
  /-- What is taken off one end of a text is not described in words. -/
  | namedTrims
  /-- A conversion to an integer rounds. -/
  | roundsCasts
  /-- The characters before the words of a text are always the same. -/
  | fixedDelimiters
  /-- Whole texts, not parts of them, match a regular expression. -/
  | wholeMatches
  /-- Copies of a text are made by filling up a text. -/
  | copiesByFilling
  /-- Rows that meet a condition are counted by a sum. -/
  | sumsConditions
  /-- Rows that meet a condition are counted by a choice. -/
  | countsChoices
  /-- Tables cannot be pivoted. -/
  | noPivots
  /-- The number of rows stands before the expressions. -/
  | topFirst
  /-- The rows that are passed over stand before the number of rows. -/
  | offsetFirst
  /-- What is passed over is said to be rows. -/
  | offsetInRows
  /-- Rows can be passed over only where they are ordered. -/
  | orderedOffset
  /-- Rows can be passed over only where there is a number of rows. -/
  | limitedOffset
  /-- A number of rows has to be a literal. -/
  | literalLimits
  /-- Only unions can keep equal rows. -/
  | distinctCombinations
  /-- A combination of queries has no order and no number of rows. -/
  | bareCombinations
  /-- A query that is combined cannot stand in parentheses. -/
  | bareOperands
  /-- There are no semi joins. -/
  | noSemiJoins
  /-- A semi join has no side. -/
  | sidelessSemiJoins
  /-- A join without a condition is a comma. -/
  | openCrossJoins
  /-- There are no full joins. -/
  | noFullJoins
  /-- There is no condition on windows. -/
  | noQualify
  /-- Listed rows need no parentheses. -/
  | openRows
  /-- The alias of a table cannot name columns. -/
  | noAliasColumns
  /-- The columns of a named query are named in the query itself. -/
  | innerColumns
  /-- The columns of a query that goes back to itself are named before it. -/
  | recursiveColumns
  /-- The columns of named queries and of queries in place of tables need names. -/
  | namedOutputs
  /-- A query that goes back to itself is not announced. -/
  | silentRecursion
  /-- No query goes back to itself. -/
  | noRecursion
  /-- Rows are grouped by aliases where there are some. -/
  | aliasedGroups
  /-- Aliases of columns are local names. -/
  | localAliases
  /-- A star among other expressions needs a table. -/
  | qualifiedStars
  /-- Conditions are comparisons; truth values are numbers. -/
  | numericTruth
  /-- A test for null, for a truth value or for a place in a list is in parentheses where it is
  negated. -/
  | parenthesizedTests
  /-- Distinct values of several expressions together are distinct rows. -/
  | singleDistinct
  /-- Operators that are written as calls need no parentheses around their arguments. -/
  | bareArguments
  /-- What is taken off the ends of a text stands before the text. -/
  | wordyTrims
  /-- The greatest of several values is not called a maximum. -/
  | scalarExtremes
  /-- A comparison with a pattern always minds case. -/
  | caseSensitivePatterns
  /-- Texts that a call joins are joined by bars. -/
  | barsForConcat
  /-- A single text cannot be joined. -/
  | noSingleConcat
  /-- Texts that a call joins with a text between them are joined by bars. -/
  | barsForSeparators
  /-- The quotient of integers is a call. -/
  | dividesByCall
  /-- A count may need a large number. -/
  | largeCounts
  /-- Distinct values have a count of their own, and a count takes one value. -/
  | distinctCounts
  /-- Types that values are converted to have no sizes. -/
  | sizelessCasts
  /-- A time with a zone is said to have one. -/
  | zoneWords
  /-- A time with a zone cannot be said. -/
  | noZones
  /-- Values are converted to dates and times by calls. -/
  | callsForDates
  /-- Values are converted to times with a zone by a call. -/
  | callsForZones
  /-- Nothing is converted to JSON. -/
  | noJsonCasts
  /-- Times have a size, which is small. -/
  | sizedTimes
  /-- Dates and times have no size. -/
  | sizelessTimes
  /-- A text with a size is of another type than one without. -/
  | sizedTexts
  /-- An inexact number with a size has a name of its own. -/
  | sizedFloats
  /-- A type with the mark for integers without a sign says so. -/
  | unsignedWords
  /-- Types that may hold nulls are marked. -/
  | marksNullable
  /-- A view does not name its columns. -/
  | bareViews
  /-- A table that rows are removed from has no alias. -/
  | bareDeletes
  /-- Aliases of tables are not announced where rows are changed. -/
  | silentTargetAliases
  /-- Rows are added without a word for default values. -/
  | silentDefaults
  /-- A listed row has no word for the default value of a column. -/
  | noDefaultValues
  /-- A schema is called a database. -/
  | schemasAreDatabases
  /-- Named windows are written where they are used. -/
  | inlineWindows
  /-- No range of values is asked for where rows are removed. -/
  | noRangesInDeletes
  /-- A query has no parentheses around it. -/
  | bareQueries
  /-- Control characters without a letter of their own are written by their numbers. -/
  | numberedControls
  /-- A primary key of one column belongs to the column. -/
  | columnKeys
  /-- Columns are not marked as a primary key. -/
  | noColumnKeys
  /-- Primary keys are not written among the columns. -/
  | noTableKeys
  /-- Columns are not marked as unique. -/
  | noUniqueColumns
  /-- Columns are not marked as holding nulls. -/
  | noNullMarks
  /-- A table that is filled by a query and lasts for a session is a view. -/
  | temporaryViews
  /-- A table that lasts for a session says how it is stored. -/
  | storedTemporaries
  /-- Definitions are batches: tables are filled by selecting into them. -/
  | batches
  /-- What lasts for a session is global. -/
  | globalTemporaries
  /-- Definitions of tables are in another dialect. -/
  | foreignDefinitions
deriving DecidableEq, Repr

/-- The features of a dialect. -/
structure Features where
  /-- The name of the dialect's family. -/
  label : String
  /-- Pairs of quotes around names; the first pair is the one that is written. -/
  nameQuotes : List (Char × Char)
  /-- Quotes around texts. -/
  textQuotes : List Char
  /-- Characters that escape a quote in a text; the first one is the one that is written. -/
  escapes : List Char
  /-- What starts a comment that goes to the end of the line. -/
  lineComments : List String
  /-- Whether a comment between marks may hold another one. -/
  nestedComments : Bool
  /-- What escapes a closing quote in a name; without it, the quote is doubled. -/
  nameEscape : Option Char
  /-- Marks around hexadecimal numbers; the first pair is the one that is written. -/
  hexMarks : List (String × String)
  /-- Words with a meaning of their own in this dialect. -/
  moreWords : List (String × TokenKind)
  /-- Symbols with a meaning of their own in this dialect. -/
  moreSymbols : List (String × TokenKind)
  /-- Types that letters after a number stand for. -/
  numberTypes : List (String × TokenKind)
  /-- Where nulls stand if an order does not say so. -/
  nulls : NullOrder
  /-- What becomes of an order that says where nulls stand. -/
  nullClause : NullClause
  /-- Whether a number of rows is fetched. -/
  fetch : FetchForm
  /-- Whether a union leaves out equal rows if it does not say so; some dialects have to. -/
  plainUnion : Option Bool
  /-- Whether other combinations leave out equal rows if they do not say so. -/
  plainOthers : Option Bool
  /-- The word between a table and its alias. -/
  tableAlias : String
  /-- The word between a value and the type it is converted to, if that is an operator. -/
  castOperator : Option String
  /-- How a conversion that may fail is written. -/
  tryCast : TryForm
  /-- How texts are joined. -/
  textJoin : TextJoin
  /-- How rows that are listed in place of a table are written. -/
  rows : RowsForm
  /-- How the tables that an update takes values from are written. -/
  updates : UpdateForm
  /-- How a test for a truth value is written. -/
  truthTest : TruthTest
  /-- How a choice between two values is written. -/
  choice : ChoiceForm
  /-- Where the base of a logarithm stands. -/
  logBase : LogBase
  /-- The words for rows that replace others. -/
  overwrite : String
  /-- The names of types that are not their own names. -/
  typeNames : List (String × String)
  /-- Names for types without a size. -/
  sizelessNames : List (String × String)
  /-- Names of types that are written without a size. -/
  sizelessTypes : List String
  /-- Names that replace those of types where values are converted. -/
  castNames : List (String × String)
  /-- Operators and functions that are written as calls of another name. -/
  callNames : List (Kind × String)
  /-- Operators that are written as other words. -/
  operatorNames : List (Kind × String)
  /-- Functions without arguments that are written without parentheses. -/
  constants : List (Function × String)
  /-- Words that cannot be names unless they are quoted. -/
  reserved : List String
  /-- Statements whose named queries all stand before them. -/
  outerQueries : List Kind
  /-- The characters before the words of a text. -/
  delimiters : String
  /-- The digits of an exact number without a size, and those after its point. -/
  plainDecimals : Option (Nat × Nat)
  /-- What the dialect does differently or not at all. -/
  traits : List Trait

namespace Features

/-- The base dialect. -/
def standard : Features :=
  { label := "Dialect"
    nameQuotes := [('"', '"')]
    textQuotes := ['\'']
    escapes := ['\'']
    lineComments := ["--"]
    nestedComments := true
    nameEscape := none
    hexMarks := []
    moreWords := []
    moreSymbols := []
    numberTypes := []
    nulls := .small
    nullClause := .written
    fetch := .asWritten
    plainUnion := some true
    plainOthers := some true
    tableAlias := " AS "
    castOperator := none
    tryCast := .word "TRY_"
    textJoin := .bars
    rows := .list
    updates := .fromLast
    truthTest := .written
    choice := .cases
    logBase := .first
    overwrite := " OVERWRITE TABLE"
    typeNames :=
      [("NCHAR", "CHAR"), ("NVARCHAR", "VARCHAR"), ("MEDIUMTEXT", "TEXT"), ("LONGTEXT", "TEXT"),
        ("TINYTEXT", "TEXT"), ("BLOB", "VARBINARY"), ("ROWVERSION", "VARBINARY"),
        ("DATETIME2", "TIMESTAMP"), ("SMALLDATETIME", "TIMESTAMP")]
    sizelessNames := []
    sizelessTypes := []
    castNames := []
    callNames := []
    operatorNames := []
    constants := [(.currentDate, "CURRENT_DATE")]
    reserved := []
    outerQueries := []
    delimiters := " \t\n\r\x0c\x0b!\"#$%&'()*+,\\-./:;<=>?@\\[\\]^_\x60\x7b|\x7d~"
    plainDecimals := none
    traits := [] }

/-- Features with names of types added; an added name comes before one that was there. -/
def withTypes (f : Features) (names : List (String × String)) : Features :=
  { f with typeNames := names ++ f.typeNames }

/-- Features with traits added. -/
def withTraits (f : Features) (traits : List Trait) : Features :=
  { f with traits := traits ++ f.traits }

/-- Features without some traits. -/
def withoutTraits (f : Features) (traits : List Trait) : Features :=
  { f with traits := f.traits.filter fun t => !traits.contains t }

/-- Features with names of calls added. -/
def withCalls (f : Features) (names : List (Kind × String)) : Features :=
  { f with callNames := names ++ f.callNames }

/-- Whether a dialect has a trait. -/
def has (f : Features) (t : Trait) : Bool :=
  f.traits.contains t

/-- Whether backslashes stand for themselves only when doubled. -/
def hasBackslash (f : Features) : Bool :=
  f.escapes.contains '\\'

/-- The words of the dialect with blanks in them. -/
def morePhrases (f : Features) : List (String × TokenKind) :=
  f.moreWords.filter fun w => w.1.contains ' '

/-- The quotes that are written around a name. -/
def writtenQuotes (f : Features) : Char × Char :=
  f.nameQuotes.headD ('"', '"')

/-- Whether a combination of queries leaves out equal rows if it does not say so. -/
def plainCombination (f : Features) (k : Kind) : Option Bool :=
  if k == .unionOf then f.plainUnion else f.plainOthers

end Features
end Sql
end SqlDialects
