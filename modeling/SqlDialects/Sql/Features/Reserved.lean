/-!
# Reserved words

The words that dialects reserve, so that a name which is such a word is written in quotes. The words
are in lower case; case does not matter.
-/

namespace SqlDialects
namespace Sql
namespace Reserved

/-- The words of some lines, which are set apart by single blanks. -/
def words (lines : List String) : List String :=
  lines.flatMap fun l => l.splitOn " "

/-- Words that Presto and its relatives reserve. -/
def presto : List String :=
  words [
    "alter and as between by case cast constraint create cross current_time current_timestamp",
    "deallocate delete describe distinct drop else end escape except execute exists extract false",
    "for from full group having in inner insert intersect into is join left like natural not null",
    "on or order outer prepare right select table then true union using values when where with"]

/-- Words that BigQuery reserves. -/
def bigquery : List String :=
  words [
    "all and any array as asc assert_rows_modified at between by case cast collate contains",
    "create cross cube current default define desc distinct else end enum escape except exclude",
    "exists extract false fetch following for from full group grouping groups hash having if",
    "ignore in inner intersect interval into is join lateral left like limit lookup merge natural",
    "new no not null nulls of on or order outer over partition preceding proto qualify range",
    "recursive respect right rollup rows select set some struct tablesample then to treat true",
    "unbounded union unnest using when where window with within"]

/-- Words that DuckDB reserves. -/
def duckdb : List String :=
  words [
    "all analyse analyze and any array as asc_p asymmetric both case cast check_p collate column",
    "constraint create_p current_catalog current_date current_role current_time current_timestamp",
    "current_user default deferrable desc_p distinct do else end_p except false_p fetch for",
    "foreign from grant group_p having in_p initially intersect into lateral_p leading limit",
    "localtime localtimestamp not null_p offset on only or order placing primary references",
    "returning select session_user some symmetric table then to trailing true_p union unique user",
    "using variadic when where window with"]

/-- Words that Redshift reserves. -/
def redshift : List String :=
  words [
    "aes128 aes256 all allowoverwrite analyse analyze and any array as asc authorization az64",
    "backup between binary blanksasnull both bytedict bzip2 case cast check collate column",
    "constraint create credentials cross current_date current_time current_timestamp current_user",
    "current_user_id default deferrable deflate defrag delta delta32k desc disable distinct do",
    "else emptyasnull enable encode encryption end except explicit false for foreign freeze from",
    "full globaldict256 globaldict64k grant group gzip having identity ignore ilike in initially",
    "inner intersect interval into is isnull join leading left like limit localtime",
    "localtimestamp lun luns lzo lzop minus mostly16 mostly32 mostly8 natural new not notnull",
    "null nulls off offline offset oid old on only open or order outer overlaps parallel",
    "partition percent permissions pivot placing primary raw readratio recover references",
    "rejectlog resort respect restore right select session_user similar snapshot some sysdate",
    "system table tag tdes text255 text32k then timestamp to top trailing true truncatecolumns",
    "type union unique unnest unpivot user using verbose wallet when where with without"]

/-- Words that MySQL reserves. -/
def mysql : List String :=
  words [
    "accessible add all alter analyze and as asc asensitive before between bigint binary blob",
    "both by call cascade case change char character check collate column condition constraint",
    "continue convert create cross cube cume_dist current_date current_time current_timestamp",
    "current_user cursor database databases day_hour day_microsecond day_minute day_second dec",
    "decimal declare default delayed delete dense_rank desc describe deterministic distinct",
    "distinctrow div double drop dual each else elseif empty enclosed escaped except exists exit",
    "explain false fetch first_value float float4 float8 for force foreign from fulltext function",
    "generated get grant group grouping groups having high_priority hour_microsecond hour_minute",
    "hour_second if ignore in index infile inner inout insensitive insert int int1 int2 int3 int4",
    "int8 integer intersect interval into io_after_gtids io_before_gtids is iterate join",
    "json_table key keys kill lag last_value lateral lead leading leave left like limit linear",
    "lines load localtime localtimestamp lock long longblob longtext loop low_priority",
    "master_bind master_ssl_verify_server_cert match maxvalue mediumblob mediumint mediumtext",
    "middleint minute_microsecond minute_second mod modifies natural no_write_to_binlog not",
    "nth_value ntile null numeric of on optimize optimizer_costs option optionally or order out",
    "outer outfile over partition percent_rank precision primary procedure purge range rank read",
    "read_write reads real recursive references regexp release rename repeat replace require",
    "resignal restrict return revoke right rlike row row_number rows schema schemas",
    "second_microsecond select sensitive separator set show signal smallint spatial specific sql",
    "sql_big_result sql_calc_found_rows sql_small_result sqlexception sqlstate sqlwarning ssl",
    "starting stored straight_join system table terminated then tinyblob tinyint tinytext to",
    "trailing trigger true undo union unique unlock unsigned update usage use using utc_date",
    "utc_time utc_timestamp values varbinary varchar varcharacter varying virtual when where",
    "while window with write xor year_month zerofill"]

/-- Words that Doris reserves. -/
def doris : List String :=
  words [
    "account_lock account_unlock add adddate admin after agg_state aggregate alias all alter",
    "analyze analyzed analyzer and anti append array array_range as asc at authors auto",
    "auto_increment backend backends backup begin belong between bigint bin binary binlog bitand",
    "bitmap bitmap_union bitor bitxor blob boolean both brief broker buckets build builtin bulk",
    "by cached call cancel case cast catalog catalogs chain char character charset check clean",
    "cluster clusters collate collation collect column columns comment commit committed compact",
    "complete config connection connection_id consistent constraint constraints convert copy",
    "count create creation cron cross cube current current_catalog current_date current_time",
    "current_timestamp current_user data database databases date date_add date_ceil date_diff",
    "date_floor date_sub dateadd datediff datetime datetimev1 datetimev2 datev1 datev2 day",
    "days_add days_sub decimal decimalv2 decimalv3 decommission default deferred delete demand",
    "desc describe diagnose disk distinct distinctpc distinctpcsa distributed distribution div do",
    "doris_internal_table_id double drop dropp dual duplicate dynamic else enable encryptkey",
    "encryptkeys end ends engine engines enter errors events every except exclude execute exists",
    "expired explain export extended external extract failed_login_attempts false fast feature",
    "fields file filter first float follower following for force foreign format free from",
    "frontend frontends full function functions generic global grant grants graph group grouping",
    "groups hash having hdfs help histogram hll hll_union hostname hour hub identified if ignore",
    "immediate in incremental index indexes infile inner insert install int integer intermediate",
    "intersect interval into inverted ipv4 ipv6 is is_not_null_pred is_null_pred isnull isolation",
    "job jobs join json jsonb key keys kill label largeint last lateral layout ldap",
    "ldap_admin_password leading left less level like limit lines link list load local localtime",
    "localtimestamp location lock logical low_priority manual map match match_all match_any",
    "match_phrase match_phrase_edge match_phrase_prefix match_regexp materialized max maxvalue",
    "memo merge migrate migrations min minus minute modify month mtmv name names natural negative",
    "never next ngram_bf no non_nullable not null nulls observer of offset on only open optimized",
    "or order outer outfile over overwrite parameter parsed partition partitions password",
    "password_expire password_history password_lock_time password_reuse path pause percent period",
    "permissive physical plan play plugin plugins policy preceding prepare primary proc procedure",
    "process processlist profile properties property quantile_state quantile_union query quota",
    "random range read real rebalance recover recycle references refresh regexp release rename",
    "repair repeatable replace replace_if_not_null replica repositories repository resource",
    "resources restore restrictive resume returns revoke rewritten right rlike role roles",
    "rollback rollup routine row rows s3 sample schedule scheduler schema schemas second select",
    "semi sequence serializable session set sets shape show signed skew smallint snapshot soname",
    "split sql_block_rule start starts stats status stop storage stream streaming string struct",
    "subdate sum superuser switch sync system table tables tablesample tablet tablets task tasks",
    "temporary terminated text than then time timestamp timestampadd timestampdiff tinyint to",
    "trailing transaction trash tree triggers trim true truncate try_cast type type_cast types",
    "unbounded uncommitted uninstall union unique unlock unsigned update use user using value",
    "values varchar variables variant vault verbose version view warnings week when where",
    "whitelist with work workload write xor year"]

/-- Words that StarRocks reserves. -/
def starrocks : List String :=
  words [
    "add all alter analyze and array as asc between bigint bitmap both by case char character",
    "check collate column compaction convert create cross cube current_date current_role",
    "current_time current_timestamp current_user database databases decimal decimal128 decimal32",
    "decimal64 decimalv2 default deferred delete dense_rank desc describe distinct double drop",
    "dual else except exists explain false first_value float for force from full function grant",
    "group grouping grouping_id groups having hll host if ignore immediate in index infile inner",
    "insert int integer intersect into is join json key keys kill lag largeint last_value lateral",
    "lead left like limit load localtime localtimestamp maxvalue minus mod not ntile null on or",
    "order outer outfile over partition percentile primary procedure qualify range rank read",
    "regexp release rename replace revoke right rlike row row_number rows schema schemas select",
    "set set_var show smallint system table terminated text then tinyint to true union unique",
    "unsigned update use using values varchar when where with"]

/-- Words that Exasol reserves. -/
def exasol : List String :=
  words [
    "absolute action add after all allocate alter and any append are array as asc asensitive",
    "assertion at attribute authid authorization before begin between bigint binary bit blob",
    "blocked bool boolean both by byte call called cardinality cascade cascaded case casespecific",
    "cast catalog chain char character character_set_catalog character_set_name",
    "character_set_schema characteristics check checked clob close coalesce collate collation",
    "collation_catalog collation_name collation_schema column commit condition connect_by_iscycle",
    "connect_by_isleaf connect_by_root connection constant constraint constraint_state_default",
    "constraints constructor contains continue control convert corresponding create cs csv cube",
    "current current_cluster current_cluster_uid current_date current_path current_role",
    "current_schema current_session current_statement current_time current_timestamp current_user",
    "cursor cycle data datalink datetime_interval_code datetime_interval_precision day dbtimezone",
    "deallocate dec decimal declare default default_like_escape_character deferrable deferred",
    "defined definer delete deref derived desc describe descriptor deterministic disable disabled",
    "disconnect dispatch distinct dlurlcomplete dlurlpath dlurlpathonly dlurlscheme dlurlserver",
    "dlvalue do domain double drop dynamic dynamic_function dynamic_function_code each else",
    "elseif elsif emits enable enabled end end-exec endif enforce equals errors escape except",
    "exception exec execute exists exit export external extract false fbv fetch file final first",
    "float following for forall force format found free from fs full function general generated",
    "geometry get global go goto grant granted group group_concat grouping groups hashtype",
    "hashtype_format having high hold hour identity if ifnull immediate impersonate",
    "implementation import in index indicator inner inout input insensitive insert instance",
    "instantiable int integer integrity intersect interval into inverse invoker is iterate join",
    "key_member key_type large last lateral ldap leading leave left level like limit listagg",
    "localtime localtimestamp locator log longvarchar loop low map match matched merge method",
    "minus minute mod modifies modify module month names national natural nchar nclob new next",
    "nls_date_format nls_date_language nls_first_day_of_week nls_numeric_characters",
    "nls_timestamp_format no nocycle nologging none not null nullif number numeric nvarchar",
    "nvarchar2 object of off old on only open option options or order ordering ordinality others",
    "out outer output over overlaps overlay overriding pad parallel_enable parameter",
    "parameter_specific_catalog parameter_specific_name parameter_specific_schema parquet partial",
    "path permission placing plus preceding preferring prepare preserve prior privileges",
    "procedure profile qualify random range read reads real recovery recursive ref references",
    "referencing refresh regexp_like relative release rename repeat replace restore restrict",
    "result return returned_length returned_octet_length returns revoke right rollback rollup",
    "routine row rows rowtype savepoint schema scope scope_user script scroll search second",
    "section security select selective self sensitive separator sequence session session_user",
    "sessiontimezone set sets shortint similar smallint some source space specific specifictype",
    "sql sql_bigint sql_bit sql_char sql_date sql_decimal sql_double sql_float sql_integer",
    "sql_longvarchar sql_numeric sql_preprocessor_script sql_real sql_smallint sql_timestamp",
    "sql_tinyint sql_type_date sql_type_timestamp sql_varchar sqlexception sqlstate sqlwarning",
    "start state statement static structure style substring subtype sysdate system system_user",
    "systimestamp table temporary text then time timestamp timezone_hour timezone_minute tinyint",
    "to trailing transaction transform transforms translation treat trigger trim true truncate",
    "under union unique unknown unlink unnest until update usage user using value values varchar",
    "varchar2 varray verify view when whenever where while window with within without work year",
    "yes zone"]

/-- Words that SingleStore reserves. -/
def singlestore : List String :=
  words [
    "_background_threads_for_cleanup _batch_size_limit _binary _bt _check_can_connect",
    "_check_consistency _checksum _commit_log_tail _continue_replay _core _disconnect",
    "_drop_profile _failover _fsync _gc _gcx _global_version_timestamp _init_profile",
    "_internal_dynamic_typecast _load _ls _management_thread _memsql_table_id_lookup",
    "_pause_replay _read _repair_table _repl _reprovisioning _resurrect _rpc _send_threads _sleep",
    "_snapshot _snapshots _sync _sync2 _sync_partitions _sync_snapshot _term_bump",
    "_transactions_experimental _twopcid _unittest _unload _utf8 _wake _wm_heartbeat abs absolute",
    "access account acos action add adddate addtime admin aes_decrypt aes_encrypt after against",
    "aggregate aggregates aggregator aggregator_id aggregator_plan_hash aggregators algorithm all",
    "also alter always analyse analyze and arghistory arrange arrangement array as asc ascii",
    "asensitive asin asm assertion assignment ast asymmetric async at atan atan2 attach attribute",
    "authorization auto auto_increment auto_reprovision autostats autostats_cardinality_mode",
    "autostats_enabled autostats_histogram_mode autostats_sampling availability avg",
    "avg_row_length avro azure background backup backup_history backup_id backward batch",
    "batch_interval batches before begin between bigint bin binary bit bit_and bit_count bit_or",
    "bit_xor blob bool boolean bootstrap both btree bucket_count by byte byte_length cache call",
    "call_for_pipeline called capture cascade cascaded case cast catalog ceil ceiling chain",
    "change char char_length character character_length characteristics charset check checkpoint",
    "checksum class clear client client_found_rows close cluster clustered cnf coalesce",
    "coercibility collate collation collect column columnar columns columnstore",
    "columnstore_segment_rows comment comments commit committed compact compile compressed",
    "compression concat concat_ws concurrent concurrently condition config configuration",
    "connection connection_id connections constraint constraints content continue conv conversion",
    "convert convert_tz copy cos cost cot count create credentials cross csv cube cume_dist",
    "curdate current current_catalog current_date current_role current_schema",
    "current_security_groups current_security_roles current_time current_timestamp current_user",
    "cursor curtime cycle data database databases date date_add date_format date_sub date_trunc",
    "datediff datetime day day_hour day_microsecond day_minute day_second dayname dayofmonth",
    "dayofweek dayofyear deallocate dec decimal declare decode default defaults deferrable",
    "deferred defined definer degrees delay_key_write delayed delete delimiter delimiters",
    "dense_rank desc describe detach deterministic dictionary differential directory disable",
    "discard disk distinct distinctrow distributed distributed_joins div do document domain",
    "dot_product double drop dual dump duplicate durability dynamic each earliest echo election",
    "else elseif elt enable enclosed encoding encrypted end engine engines enum errors escape",
    "escaped estimate euclidean_distance event events except exclude excluding exclusive execute",
    "exists exit exp explain extended extension external external_host external_port extra_join",
    "extract extractor extractors failed_login_attempts failure false family fault fetch field",
    "fields file files fill first first_value fix_alter fixed float float4 float8 floor flush",
    "following for force force_compiled_mode force_interpreter_mode foreground foreign format",
    "forward found_rows freeze from from_base64 from_days from_unixtime fs full fulltext function",
    "functions gc gcs generate geography geography_area geography_contains geography_distance",
    "geography_intersects geography_latitude geography_length geography_longitude geography_point",
    "geography_within_distance geographypoint geometry geometry_area geometry_contains",
    "geometry_distance geometry_filter geometry_intersects geometry_length geometry_point",
    "geometry_within_distance geometry_x geometry_y geometrypoint get_format get_lock glob global",
    "grant granted grants greatest group group_concat grouping groups gzip handle handler",
    "hard_cpu_limit_percentage has_temp_tables hash having hdfs header heartbeat_no_logging hex",
    "high_priority highlight hold holding host hosts hour hour_microsecond hour_minute",
    "hour_second identified identity if ifnull ignore ilike immediate immutable implicit import",
    "in including increment incremental index indexes inet6_aton inet6_ntoa inet_aton inet_ntoa",
    "infile inherit inherits init initcap initialize initially inject inline inner inout input",
    "insensitive insert insert_method instance instead instr int int1 int2 int3 int4 int8 integer",
    "interpreter_mode intersect interval into invoker is isnull isolation iterate join json",
    "json_agg json_array_contains_double json_array_contains_json json_array_contains_string",
    "json_array_push_double json_array_push_json json_array_push_string json_delete_key",
    "json_extract_bigint json_extract_double json_extract_json json_extract_string json_get_type",
    "json_length json_set_double json_set_json json_set_string k kafka kerberos key keys kill",
    "killall label lag language large last last_day last_insert_id last_value lateral latest",
    "lc_collate lc_ctype lcase lead leading leaf leakproof least leave leaves left length level",
    "lexeme license like limit lines listen llvm ln load loaddata_where local localtime",
    "localtimestamp locate location lock log log10 log2 long longblob longtext loop low_priority",
    "lower lpad ltrim lz4 management mapping master match materialized max max_concurrency",
    "max_errors max_partitions_per_batch max_queue_depth max_retries_per_batch_partition max_rows",
    "maxvalue mbc md5 median mediumblob mediumint mediumtext member memory memory_percentage",
    "memsql memsql_deserialize memsql_imitating_kafka memsql_serialize merge metadata microsecond",
    "middleint min min_rows minus minute minute_microsecond minute_second minvalue mod mode model",
    "modifies modify month monthname months_between move mpl named names namespace national",
    "natural nchar next no no_query_rewrite no_write_to_binlog node none noparam norely not",
    "nothing notify now nowait nth_value ntile null nullcols nullif nulls numeric nvarchar object",
    "octet_length of off offline offset offsets oids on online only open operator optimization",
    "optimize optimizer optimizer_state option optional optionally options or order",
    "ordered_serialize orphan out out_of_order outer outfile over overlaps overlay owned owner",
    "pack_keys paired parquet parser partial partition partition_id partitioning partitions",
    "passing password password_lock_time pause percent_rank percentile_cont percentile_disc",
    "periodic persisted pi pipeline pipelines pivot placing plan plancache plans plugins pool",
    "pools port position pow power preceding precision prepare prepared preserve primary prior",
    "privileges procedural procedure procedures process processlist profile profiles program",
    "promote proxy purge quarter queries query query_timeout queue quote radians rand range rank",
    "read reads real reassign rebalance recheck record recursive redundancy redundant ref",
    "reference references refresh regexp reindex relative release reload rely remote remove",
    "rename repair repeat repeatable replace replica replicate replicating replication require",
    "reset resource resource_pool restart restore restrict result retry return returning returns",
    "reverse revoke rg_pool right right_anti_join right_semi_join right_straight_join rlike role",
    "roles rollback rollup round routine row row_count row_format row_number rows rowstore rpad",
    "rtrim rule running s3 safe save savepoint scalar schema schema_binding schemas scroll search",
    "sec_to_time second second_microsecond security security_lists_intersect select semi_join",
    "sensitive separator sequence sequences serial serializable series server service_user",
    "session session_user set setof sha sha1 sha2 shard sharded sharded_id share show shutdown",
    "sigmoid sign signal signed similar simple sin site skip skipped_batches sleep smallint",
    "snapshot soft_cpu_limit_percentage some soname sparse spatial spatial_check_index specific",
    "split sql sql_big_result sql_buffer_result sql_cache sql_calc_found_rows sql_mode",
    "sql_no_cache sql_no_logging sql_small_result sqlexception sqlstate sqlwarning sqrt ssl",
    "stable standalone start starting state statement statistics stats status std stddev",
    "stddev_pop stddev_samp stdin stdout stop storage str_to_date straight_join strict string",
    "strip subdate substr substring substring_index success sum super symmetric sync",
    "sync_snapshot synchronize sysid system table table_checksum tables tablespace tags tan",
    "target_size task temp template temporary temptable terminate terminated test text then time",
    "time_bucket time_format time_to_sec timediff timeout timestamp timestampadd timestampdiff",
    "timezone tinyblob tinyint tinytext to to_base64 to_char to_date to_days to_json to_number",
    "to_seconds to_timestamp tracelogs traditional trailing transaction transform treat trigger",
    "triggers trim true trunc truncate trusted two_phase type types ucase unbounded uncommitted",
    "undefined undo unencrypted unenforced unhex unhold unicode union unique unix_timestamp",
    "unknown unlisten unlock unlogged unpivot unsigned until update upgrade upper usage use user",
    "users using utc_date utc_time utc_timestamp vacuum valid validate validator value values",
    "var_pop var_samp varbinary varchar varcharacter variables variadic variance varying",
    "vector_sub verbose version view void volatile voting wait warnings week weekday weekofyear",
    "when where while whitespace window with within without work workload wrapper write xact_id",
    "xor year year_month yes zerofill zone"]

end Reserved
end Sql
end SqlDialects
