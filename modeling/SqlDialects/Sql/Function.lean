/-!
# Functions

The functions whose arguments have names of their own in a syntax tree. A call of any other function
just keeps its arguments in a list.

**Results.**
* `Function.signature` says how a function is spelled and where its arguments go.
* `Function.ofSpelling?` finds a function by one of its spellings.
-/

namespace SqlDialects
namespace Sql

/-- A function whose arguments have names. -/
inductive Function where
  | abs | anyValue | avg | cbrt | ceil | coalesce | concat | concatWs | count | countIf | cumeDist
  | currentDate | currentTime | currentTimestamp | currentUser | day | denseRank | exp | extract
  | firstValue | floor | greatest | initcap | lag | lastValue | lead | least | left | length
  | ln | log | lower | max | median | min | month | ntile | nullif | nvl2 | percentRank | pow
  | rand | rank | repeated | replace | reverse | right | round | rowNumber | sign | sqrt | stddev
  | stddevPop | stddevSamp | substring | sum | trim | upper | variance | variancePop | year
deriving DecidableEq, Repr

/-- How a function is spelled and where its arguments go. -/
structure Signature where
  /-- The name of the node that a call makes. -/
  name : String
  /-- The family that the node belongs to. -/
  family : String
  /-- The spellings; the first one is written. -/
  spellings : List String
  /-- The fields for the arguments, in order, and whether a call has to give them. -/
  fields : List (String × Bool)
  /-- Whether the last field takes all arguments that are left. -/
  variadic : Bool

namespace Function

/-- Every function. -/
def all : List Function :=
  [.abs, .anyValue, .avg, .cbrt, .ceil, .coalesce, .concat, .concatWs, .count, .countIf, .cumeDist,
    .currentDate, .currentTime, .currentTimestamp, .currentUser, .day, .denseRank, .exp, .extract,
    .firstValue, .floor, .greatest, .initcap, .lag, .lastValue, .lead, .least, .left, .length, .ln,
    .log, .lower, .max, .median, .min, .month, .ntile, .nullif, .nvl2, .percentRank, .pow, .rand,
    .rank, .repeated, .replace, .reverse, .right, .round, .rowNumber, .sign, .sqrt, .stddev,
    .stddevPop, .stddevSamp, .substring, .sum, .trim, .upper, .variance, .variancePop, .year]

/-- An argument that a call has to give, as all the arguments of a function. -/
def only : List (String × Bool) :=
  [("this", true)]

/-- An argument that a call may give, as all the arguments of a function. -/
def perhaps : List (String × Bool) :=
  [("this", false)]

/-- Two arguments. -/
def pair : List (String × Bool) :=
  [("this", true), ("expression", true)]

/-- An argument and any number of further ones. -/
def several : List (String × Bool) :=
  [("this", true), ("expressions", false)]

/-- Any number of arguments. -/
def list : List (String × Bool) :=
  [("expressions", false)]

/-- A row and how far it is away from the current one. -/
def shifted : List (String × Bool) :=
  [("this", true), ("offset", false), ("default", false)]

/-- How a function is spelled and where its arguments go. -/
def signature : Function → Signature
  | abs => ⟨"Abs", "math", ["ABS"], only, false⟩
  | anyValue => ⟨"AnyValue", "aggregate", ["ANY_VALUE"], only, false⟩
  | avg => ⟨"Avg", "aggregate", ["AVG"], only, false⟩
  | cbrt => ⟨"Cbrt", "math", ["CBRT"], only, false⟩
  | ceil => ⟨"Ceil", "math", ["CEIL", "CEILING"],
      [("this", true), ("decimals", false), ("to", false)], false⟩
  | coalesce => ⟨"Coalesce", "functions", ["COALESCE", "IFNULL", "NVL"], several, true⟩
  | concat => ⟨"Concat", "string", ["CONCAT"], [("expressions", true)], true⟩
  | concatWs => ⟨"ConcatWs", "string", ["CONCAT_WS"], [("expressions", true)], true⟩
  | count => ⟨"Count", "aggregate", ["COUNT"], [("this", false), ("expressions", false)], true⟩
  | countIf => ⟨"CountIf", "aggregate", ["COUNT_IF", "COUNTIF"], only, false⟩
  | cumeDist => ⟨"CumeDist", "aggregate", ["CUME_DIST"], list, true⟩
  | currentDate => ⟨"CurrentDate", "temporal", ["CURRENT_DATE"], perhaps, false⟩
  | currentTime => ⟨"CurrentTime", "temporal", ["CURRENT_TIME"], perhaps, false⟩
  | currentTimestamp =>
    ⟨"CurrentTimestamp", "temporal", ["CURRENT_TIMESTAMP"],
      [("this", false), ("sysdate", false)], false⟩
  | currentUser => ⟨"CurrentUser", "functions", ["CURRENT_USER"], perhaps, false⟩
  | day => ⟨"Day", "temporal", ["DAY"], only, false⟩
  | denseRank => ⟨"DenseRank", "aggregate", ["DENSE_RANK"], list, true⟩
  | exp => ⟨"Exp", "math", ["EXP"], only, false⟩
  | extract => ⟨"Extract", "temporal", ["EXTRACT"], pair, false⟩
  | firstValue => ⟨"FirstValue", "aggregate", ["FIRST_VALUE"], only, false⟩
  | floor => ⟨"Floor", "math", ["FLOOR"],
      [("this", true), ("decimals", false), ("to", false)], false⟩
  | greatest => ⟨"Greatest", "functions", ["GREATEST"], several, true⟩
  | initcap => ⟨"Initcap", "string", ["INITCAP"], [("this", true), ("expression", false)], false⟩
  | lag => ⟨"Lag", "aggregate", ["LAG"], shifted, false⟩
  | lastValue => ⟨"LastValue", "aggregate", ["LAST_VALUE"], only, false⟩
  | lead => ⟨"Lead", "aggregate", ["LEAD"], shifted, false⟩
  | least => ⟨"Least", "functions", ["LEAST"], several, true⟩
  | left => ⟨"Left", "string", ["LEFT"], pair, false⟩
  | length => ⟨"Length", "string", ["LENGTH", "LEN", "CHAR_LENGTH", "CHARACTER_LENGTH"],
      [("this", true), ("binary", false), ("encoding", false)], false⟩
  | ln => ⟨"Ln", "math", ["LN"], only, false⟩
  | log => ⟨"Log", "math", ["LOG"], [("this", true), ("expression", false)], false⟩
  | lower => ⟨"Lower", "string", ["LOWER", "LCASE"], only, false⟩
  | max => ⟨"Max", "aggregate", ["MAX"], several, true⟩
  | median => ⟨"Median", "aggregate", ["MEDIAN"], only, false⟩
  | min => ⟨"Min", "aggregate", ["MIN"], several, true⟩
  | month => ⟨"Month", "temporal", ["MONTH"], only, false⟩
  | ntile => ⟨"Ntile", "aggregate", ["NTILE"], perhaps, false⟩
  | nullif => ⟨"Nullif", "functions", ["NULLIF"], pair, false⟩
  | nvl2 => ⟨"Nvl2", "functions", ["NVL2"],
      [("this", true), ("true", true), ("false", false)], false⟩
  | percentRank => ⟨"PercentRank", "aggregate", ["PERCENT_RANK"], list, true⟩
  | pow => ⟨"Pow", "math", ["POWER", "POW"], pair, false⟩
  | rand => ⟨"Rand", "functions", ["RAND", "RANDOM"], perhaps, false⟩
  | rank => ⟨"Rank", "aggregate", ["RANK"], list, true⟩
  | repeated => ⟨"Repeat", "string", ["REPEAT"], [("this", true), ("times", true)], false⟩
  | replace => ⟨"Replace", "string", ["REPLACE"],
      [("this", true), ("expression", true), ("replacement", false)], false⟩
  | reverse => ⟨"Reverse", "string", ["REVERSE"], only, false⟩
  | right => ⟨"Right", "string", ["RIGHT"], pair, false⟩
  | round => ⟨"Round", "math", ["ROUND"],
      [("this", true), ("decimals", false), ("truncate", false)], false⟩
  | rowNumber => ⟨"RowNumber", "aggregate", ["ROW_NUMBER"], perhaps, false⟩
  | sign => ⟨"Sign", "math", ["SIGN", "SIGNUM"], only, false⟩
  | sqrt => ⟨"Sqrt", "math", ["SQRT"], only, false⟩
  | stddev => ⟨"Stddev", "aggregate", ["STDDEV", "STDEV"], only, false⟩
  | stddevPop => ⟨"StddevPop", "aggregate", ["STDDEV_POP"], only, false⟩
  | stddevSamp => ⟨"StddevSamp", "aggregate", ["STDDEV_SAMP"], only, false⟩
  | substring => ⟨"Substring", "string", ["SUBSTRING", "SUBSTR"],
      [("this", true), ("start", false), ("length", false)], false⟩
  | sum => ⟨"Sum", "aggregate", ["SUM"], only, false⟩
  | trim => ⟨"Trim", "string", ["TRIM"],
      [("this", true), ("expression", false), ("position", false), ("collation", false)], false⟩
  | upper => ⟨"Upper", "string", ["UPPER", "UCASE"], only, false⟩
  | variance => ⟨"Variance", "aggregate", ["VARIANCE", "VARIANCE_SAMP", "VAR_SAMP"], only, false⟩
  | variancePop => ⟨"VariancePop", "aggregate", ["VARIANCE_POP", "VAR_POP"], only, false⟩
  | year => ⟨"Year", "temporal", ["YEAR"], only, false⟩

/-- The name of the node that a call makes. -/
def name (f : Function) : String :=
  f.signature.name

/-- How a function is written. -/
def spelling (f : Function) : String :=
  f.signature.spellings.headD ""

/-- The function of a spelling in upper case. -/
def ofSpelling? (s : String) : Option Function :=
  all.find? fun f => f.signature.spellings.contains s

/-- Whether a function sums up rows. -/
def isAggregate (f : Function) : Bool :=
  f.signature.family == "aggregate"

/-- The fields that a call has to fill; the last one is missed first. -/
def required (f : Function) : List String :=
  ((f.signature.fields.filter fun p => p.2).map fun p => p.1).reverse

/-- How many arguments a call may have at most, if there is a limit. -/
def arity? (f : Function) : Option Nat :=
  if f.signature.variadic then none else some f.signature.fields.length

end Function
end Sql
end SqlDialects
