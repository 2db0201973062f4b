import SqlBackend.Dialect.Basic

/-!
# The dialects of the engines

MySQL is the default backend, Oracle the one for large installations, SQLite the embedded one.
-/

namespace SqlBackend

namespace Dialect

/-- MySQL and MariaDB. -/
def mysql : Dialect where
  kind := "MysqlDialect"
  engine := some .mysql
  name := "mysql"
  displayName := "MySQL"
  schemes := ["mysql", "mariadb"]
  aliases := ["default"]
  capabilities := .ofPairs
    [(.bitwiseOperations, true), (.booleanDatatype, true), (.caseSensitiveComparison, false),
     (.castAsBigint, false), (.clobComparison, true), (.disableConstraintCheck, true),
     (.nonBmpCharacters, false), (.rowLevelLocking, true), (.uniqueNameIndex, true),
     (.dumpsterTables, true), (.limitClause, true), (.onDuplicateKey, true),
     (.multitableUpdate, true), (.replaceInto, true), (.readCommittedIsolation, true)]
  errorCodes := .ofPairs
    [(.deadlockDetected, .number 1213), (.duplicateRow, .number 1062),
     (.foreignKeyNoParent, .number 1452), (.foreignKeyChildExists, .number 1451),
     (.noSuchDatabase, .number 1049), (.noSuchTable, .number 1146), (.tableFull, .number 1114)]
  driver := "pymysql"
  defaultPort := some 3306
  supportsStatsCallback := true
  propertyPrefix := "mysql_connector_"
  defaultProperties := .ofPairs
    [("charset", "utf8mb4"), ("use_unicode", "true"), ("autocommit", "false"),
     ("connect_timeout", "10")]
  databaseExistsSql :=
    "SELECT COUNT(*) FROM INFORMATION_SCHEMA.SCHEMATA WHERE SCHEMA_NAME = %s"
  -- the engine writes its log to disk before it commits a change of the schema
  flushStatements :=
    ["CREATE TABLE IF NOT EXISTS flush_enforcer (dummy_column INTEGER) ENGINE = InnoDB",
     "DROP TABLE IF EXISTS flush_enforcer"]

/-- Oracle Database. A schema is a user there, so the question whether a database exists goes to the
table of users. -/
def oracle : Dialect where
  kind := "OracleDialect"
  engine := some .oracle
  name := "oracle"
  displayName := "Oracle Database 19c"
  schemes := ["oracle"]
  aliases := ["enterprise"]
  capabilities := .ofPairs
    [(.partitioning, true), (.multitenancy, true), (.clustering, false),
     (.advancedSecurity, false), (.jsonStore, false), (.mergeStatement, true),
     (.bitwiseOperations, true), (.booleanDatatype, false), (.caseSensitiveComparison, true),
     (.castAsBigint, true), (.clobComparison, true), (.disableConstraintCheck, true),
     (.nonBmpCharacters, true), (.rowLevelLocking, true), (.uniqueNameIndex, true),
     (.dumpsterTables, true)]
  errorCodes := .ofPairs
    [(.deadlockDetected, .number 60), (.duplicateRow, .number 1),
     (.foreignKeyNoParent, .number 2291), (.foreignKeyChildExists, .number 2292),
     (.noSuchDatabase, .number 39165), (.noSuchTable, .number 942), (.tableFull, .number 1653)]
  driver := "oracledb"
  defaultPort := some 1521
  supportsStatsCallback := true
  propertyPrefix := "oracle_connector_"
  defaultProperties := .ofPairs [("stmtcachesize", "25"), ("tcp_connect_timeout", "10")]
  databaseExistsSql := "SELECT COUNT(*) FROM DBA_USERS WHERE USERNAME = :1"
  flushStatements := ["ALTER SYSTEM CHECKPOINT"]

/-- SQLite. Its one code for foreign keys stands for a missing parent and for a parent that still
has children, so neither kind is in its table. -/
def sqlite : Dialect where
  kind := "SqliteDialect"
  engine := some .sqlite
  name := "sqlite"
  displayName := "SQLite"
  schemes := ["sqlite"]
  aliases := ["embedded"]
  capabilities := .ofPairs
    [(.bitwiseOperations, true), (.booleanDatatype, false), (.caseSensitiveComparison, true),
     (.nonBmpCharacters, true), (.uniqueNameIndex, true), (.dumpsterTables, true),
     (.limitClause, true), (.replaceInto, true)]
  errorCodes := .ofPairs
    [(.deadlockDetected, .number 262), (.duplicateRow, .number uniqueCode),
     (.noSuchDatabase, .number 14), (.tableFull, .number 13)]
  driver := "sqlite3"
  propertyPrefix := "sqlite_connector_"
  defaultProperties := .ofPairs [("timeout", "5"), ("check_same_thread", "false")]
  databaseExistsSql := "SELECT COUNT(*) FROM pragma_database_list WHERE name = ?"
  flushStatements := ["PRAGMA wal_checkpoint(FULL)"]

end Dialect

def Engine.dialect : Engine → Dialect
  | .mysql => .mysql
  | .oracle => .oracle
  | .sqlite => .sqlite

@[simp] theorem Engine.engine_dialect (engine : Engine) : engine.dialect.engine = some engine := by
  cases engine <;> rfl

end SqlBackend
