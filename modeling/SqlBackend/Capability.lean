/-!
# Capabilities

The features that a backend may or may not have, each under a name that says nothing about any one
backend.
-/

namespace SqlBackend

/-- A feature of a backend. -/
inductive Capability where
  | partitioning
  | multitenancy
  | clustering
  | advancedSecurity
  | jsonStore
  | mergeStatement
  | bitwiseOperations
  | booleanDatatype
  | caseSensitiveComparison
  | castAsBigint
  | clobComparison
  | disableConstraintCheck
  | nonBmpCharacters
  | rowLevelLocking
  | uniqueNameIndex
  | dumpsterTables
  | limitClause
  | onDuplicateKey
  | multitableUpdate
  | replaceInto
  | readCommittedIsolation
  deriving DecidableEq, Repr, Inhabited

namespace Capability

def all : List Capability :=
  [.partitioning, .multitenancy, .clustering, .advancedSecurity, .jsonStore, .mergeStatement,
   .bitwiseOperations, .booleanDatatype, .caseSensitiveComparison, .castAsBigint,
   .clobComparison, .disableConstraintCheck, .nonBmpCharacters, .rowLevelLocking,
   .uniqueNameIndex, .dumpsterTables, .limitClause, .onDuplicateKey, .multitableUpdate,
   .replaceInto, .readCommittedIsolation]

/-- The name by which callers ask for it. -/
def name : Capability → String
  | .partitioning => "partitioning"
  | .multitenancy => "multitenancy"
  | .clustering => "clustering"
  | .advancedSecurity => "advanced_security"
  | .jsonStore => "json_store"
  | .mergeStatement => "merge_statement"
  | .bitwiseOperations => "bitwise_operations"
  | .booleanDatatype => "boolean_datatype"
  | .caseSensitiveComparison => "case_sensitive_comparison"
  | .castAsBigint => "cast_as_bigint"
  | .clobComparison => "clob_comparison"
  | .disableConstraintCheck => "disable_constraint_check"
  | .nonBmpCharacters => "non_bmp_characters"
  | .rowLevelLocking => "row_level_locking"
  | .uniqueNameIndex => "unique_name_index"
  | .dumpsterTables => "dumpster_tables"
  | .limitClause => "limit_clause"
  | .onDuplicateKey => "on_duplicate_key"
  | .multitableUpdate => "multitable_update"
  | .replaceInto => "replace_into"
  | .readCommittedIsolation => "read_committed_isolation"

def ofName? (name : String) : Option Capability :=
  all.find? (·.name = name)

end Capability

end SqlBackend
