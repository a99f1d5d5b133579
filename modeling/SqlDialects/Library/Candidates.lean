import SqlDialects.Library.Basic

/-!
# Choosing a library's dialect

For every dialect the names under which a library may know it, most specific first; the empty name
is the library's base dialect.

**Algorithm.** `Library.choose` takes the first candidate that is the base dialect or that the
library has, and the base dialect if there is none.

**Results.**
* A choice other than the first candidate is logged, unless it is a base dialect that stands among
  the candidates.
-/

namespace SqlDialects

/-- The names under which a library may know a dialect. -/
def Dialect.candidates : Dialect → List String
  | .generic => [""]
  | .athena => ["athena", "trino"]
  | .bigquery => ["bigquery"]
  | .clickhouse => ["clickhouse"]
  | .cockroachdb => ["postgres"]
  | .databricks => ["databricks"]
  | .doris => ["doris", "mysql"]
  | .dremio => ["dremio", ""]
  | .drill => ["drill"]
  | .druid => ["druid", ""]
  | .duckdb => ["duckdb"]
  | .dune => ["dune", "trino"]
  | .exasol => ["exasol", ""]
  | .fabric => ["fabric", "tsql"]
  | .hive => ["hive"]
  | .materialize => ["materialize", "postgres"]
  | .mysql => ["mysql"]
  | .oracle => ["oracle"]
  | .postgres => ["postgres"]
  | .presto => ["presto"]
  | .redshift => ["redshift"]
  | .risingwave => ["risingwave", "postgres"]
  | .singlestore => ["singlestore", "mysql"]
  | .snowflake => ["snowflake"]
  | .solr => ["solr", ""]
  | .spark => ["spark"]
  | .sqlite => ["sqlite"]
  | .starrocks => ["starrocks", "mysql"]
  | .tableau => ["tableau"]
  | .teradata => ["teradata"]
  | .tidb => ["mysql"]
  | .trino => ["trino"]
  | .tsql => ["tsql"]

namespace Library

variable {τ ε : Type}

/-- The logger of the engine. -/
def logger : String :=
  "polyglot_bridge.impl.sqlglot_impl"

/-- The record of a choice that is not the first candidate. -/
def substitution (first chosen : String) (d : Dialect) : Log.Record :=
  .plain logger Log.debug
    ("SQLGlot has no '" ++ first ++ "' dialect; using '" ++ chosen ++ "' for " ++ d.name)

/-- The record of a choice of the base dialect for want of a candidate. -/
def exhaustion (d : Dialect) : Log.Record :=
  .plain logger Log.debug
    ("No SQLGlot dialect among " ++ Text.quotedTuple d.candidates
      ++ "; using the base dialect for " ++ d.name)

/-- The choice among the remaining candidates for a dialect whose first candidate is `first`. -/
def chooseFrom (lib : Library τ ε) (d : Dialect) (first : String) : List String → Task τ String
  | [] => do
    Task.log (exhaustion d)
    return ""
  | name :: names => do
    if name.isEmpty then return ""
    else if ← lib.hasDialect name then
      if name != first then Task.log (substitution first name d)
      return name
    else chooseFrom lib d first names

/-- The library's dialect for a dialect. -/
def choose (lib : Library τ ε) (d : Dialect) : Task τ String :=
  chooseFrom lib d (d.candidates.headD "") d.candidates

end Library
end SqlDialects
