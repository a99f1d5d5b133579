/-!
# SQL dialects

The closed set of dialects between which statements are carried, in the order in which they are
reported, each with its canonical name.
-/

namespace SqlDialects

/-- A supported SQL dialect. -/
inductive Dialect where
  | generic
  | athena
  | bigquery
  | clickhouse
  | cockroachdb
  | databricks
  | doris
  | dremio
  | drill
  | druid
  | duckdb
  | dune
  | exasol
  | fabric
  | hive
  | materialize
  | mysql
  | oracle
  | postgres
  | presto
  | redshift
  | risingwave
  | singlestore
  | snowflake
  | solr
  | spark
  | sqlite
  | starrocks
  | tableau
  | teradata
  | tidb
  | trino
  | tsql
deriving DecidableEq, Repr, Inhabited

namespace Dialect

/-- Every dialect, in reporting order. -/
def all : List Dialect :=
  [.generic, .athena, .bigquery, .clickhouse, .cockroachdb, .databricks, .doris, .dremio,
    .drill, .druid, .duckdb, .dune, .exasol, .fabric, .hive, .materialize, .mysql, .oracle,
    .postgres, .presto, .redshift, .risingwave, .singlestore, .snowflake, .solr, .spark,
    .sqlite, .starrocks, .tableau, .teradata, .tidb, .trino, .tsql]

/-- The canonical name. -/
def name : Dialect → String
  | .generic => "generic"
  | .athena => "athena"
  | .bigquery => "bigquery"
  | .clickhouse => "clickhouse"
  | .cockroachdb => "cockroachdb"
  | .databricks => "databricks"
  | .doris => "doris"
  | .dremio => "dremio"
  | .drill => "drill"
  | .druid => "druid"
  | .duckdb => "duckdb"
  | .dune => "dune"
  | .exasol => "exasol"
  | .fabric => "fabric"
  | .hive => "hive"
  | .materialize => "materialize"
  | .mysql => "mysql"
  | .oracle => "oracle"
  | .postgres => "postgres"
  | .presto => "presto"
  | .redshift => "redshift"
  | .risingwave => "risingwave"
  | .singlestore => "singlestore"
  | .snowflake => "snowflake"
  | .solr => "solr"
  | .spark => "spark"
  | .sqlite => "sqlite"
  | .starrocks => "starrocks"
  | .tableau => "tableau"
  | .teradata => "teradata"
  | .tidb => "tidb"
  | .trino => "trino"
  | .tsql => "tsql"

/-- Further names of a dialect, beside the canonical one. -/
def aliases : Dialect → List String
  | .postgres => ["postgresql"]
  | _ => []

/-- The dialect of a canonical name. -/
def ofName? (s : String) : Option Dialect :=
  all.find? fun d => d.name == s

end Dialect
end SqlDialects
