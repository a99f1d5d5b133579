/-!
# Names of types

The names of types that records may carry.
-/

namespace SqlDialects
namespace Sql
namespace Exchange

/-- The names of types. -/
def typeNames : List String :=
  ["ARRAY", "AGGREGATEFUNCTION", "SIMPLEAGGREGATEFUNCTION", "BIGDECIMAL", "BIGINT", "BIGNUM",
    "BIGSERIAL", "BINARY", "BIT", "BLOB", "BOOLEAN", "BPCHAR", "CHAR", "DATE", "DATE32",
    "DATEMULTIRANGE", "DATERANGE", "DATETIME", "DATETIME2", "DATETIME64", "DECIMAL", "DECIMAL32",
    "DECIMAL64", "DECIMAL128", "DECIMAL256", "DECFLOAT", "DOUBLE", "DYNAMIC", "ENUM", "ENUM8",
    "ENUM16", "FILE", "FIXEDSTRING", "FLOAT", "GEOGRAPHY", "GEOGRAPHYPOINT", "GEOMETRY", "POINT",
    "RING", "LINESTRING", "MULTILINESTRING", "POLYGON", "MULTIPOLYGON", "HLLSKETCH", "HSTORE",
    "IMAGE", "INET", "INT", "INT128", "INT256", "INT4MULTIRANGE", "INT4RANGE", "INT8MULTIRANGE",
    "INT8RANGE", "INTERVAL", "IPADDRESS", "IPPREFIX", "IPV4", "IPV6", "JSON", "JSONB", "LIST",
    "LONGBLOB", "LONGTEXT", "LOWCARDINALITY", "MAP", "MEDIUMBLOB", "MEDIUMINT", "MEDIUMTEXT",
    "MONEY", "NAME", "NCHAR", "NESTED", "NOTHING", "NULL", "NUMMULTIRANGE", "NUMRANGE", "NVARCHAR",
    "OBJECT", "RANGE", "ROWVERSION", "SERIAL", "SET", "SMALLDATETIME", "SMALLINT", "SMALLMONEY",
    "SMALLSERIAL", "STRUCT", "SUPER", "TDIGEST", "TEXT", "TINYBLOB", "TINYTEXT", "TIME", "TIMETZ",
    "TIME_NS", "TIMESTAMP", "TIMESTAMPNTZ", "TIMESTAMPLTZ", "TIMESTAMPTZ", "TIMESTAMP_S",
    "TIMESTAMP_MS", "TIMESTAMP_NS", "TINYINT", "TSMULTIRANGE", "TSRANGE", "TSTZMULTIRANGE",
    "TSTZRANGE", "UBIGINT", "UINT", "UINT128", "UINT256", "UMEDIUMINT", "UDECIMAL", "UDOUBLE",
    "UNION", "UNKNOWN", "USER-DEFINED", "USMALLINT", "UTINYINT", "UUID", "VARBINARY", "VARCHAR",
    "VARIANT", "VECTOR", "XML", "YEAR"]

end Exchange
end Sql
end SqlDialects
