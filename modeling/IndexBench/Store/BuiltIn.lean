import IndexBench.Failure
import IndexBench.Store.Name

/-!
# Built-in tables

Some tables are there without having been created: those that list the tables
of a database, and those whose rows the store computes when they are read.
They have none of the columns of a created table, and cannot be changed.

Main definitions:

- `BuiltIn` is a built-in table; `BuiltIn.find?` looks one up by name.
- `BuiltIn.isSetting` recognises the tables of settings.
- `BuiltIn.dropFault`, `BuiltIn.insertFault` and `BuiltIn.indexFault` refuse changes.

Main results:

- Theorem `BuiltIn.remember_of_used`: the table of a setting keeps the name of its first use.
-/

namespace IndexBench
namespace Store

/-- A built-in table. -/
inductive BuiltIn where
  /-- Lists tables. -/
  | schema (name : String)
  /-- Is computed when it is read. -/
  | computed (name : String)
  deriving DecidableEq, Repr

namespace BuiltIn

/-- The table that lists all tables, or all temporary ones, by either of its
names. -/
def schemaName? (name : String) : Option String :=
  if sameName name "sqlite_master" || sameName name "sqlite_schema" then some "sqlite_master"
  else if sameName name "sqlite_temp_master" || sameName name "sqlite_temp_schema" then
    some "sqlite_temp_master"
  else none

/-- The computed tables with names of their own. -/
def computedNames : List String :=
  ["dbstat", "fts3tokenize", "json_each", "json_tree"]

/-- The settings whose values can be read as a table. -/
def settings : List String :=
  [ "analysis_limit", "application_id", "auto_vacuum", "automatic_index", "busy_timeout",
    "cache_size", "cache_spill", "cell_size_check", "checkpoint_fullfsync", "collation_list",
    "compile_options", "count_changes", "data_version", "database_list", "default_cache_size",
    "defer_foreign_keys", "empty_result_callbacks", "encoding", "foreign_key_check",
    "foreign_key_list", "foreign_keys", "freelist_count", "full_column_names", "fullfsync",
    "function_list", "hard_heap_limit", "ignore_check_constraints", "index_info", "index_list",
    "index_xinfo", "integrity_check", "journal_mode", "journal_size_limit",
    "legacy_alter_table", "locking_mode", "max_page_count", "module_list", "optimize",
    "page_count", "page_size", "pragma_list", "query_only", "quick_check", "read_uncommitted",
    "recursive_triggers", "reverse_unordered_selects", "schema_version", "secure_delete",
    "short_column_names", "soft_heap_limit", "synchronous", "table_info", "table_list",
    "table_xinfo", "temp_store", "threads", "trusted_schema", "user_version",
    "writable_schema" ]

/-- Whether a name is that of a table of a setting. -/
def isSetting (name : String) : Bool :=
  settings.any fun setting => sameName name ("pragma_" ++ setting)

/-- The name of a computed table.  A table of a setting is called as it was when
it was first used; `used` are the names of those that were. -/
def computedName? (used : List String) (name : String) : Option String :=
  (computedNames.find? (sameName name)).or
    (if isSetting name then some ((used.find? (sameName name)).getD name) else none)

/-- The built-in table of a name. -/
def find? (used : List String) (name : String) : Option BuiltIn :=
  ((schemaName? name).map schema).or ((computedName? used name).map computed)

/-- Why a built-in table cannot be dropped. -/
def dropFault : BuiltIn → StoreFault
  | .schema name => .protectedTable name "dropped"
  | .computed name => .protectedTable name "dropped"

/-- Why rows cannot be inserted into a built-in table. -/
def insertFault : BuiltIn → StoreFault
  | .schema name => .protectedTable name "modified"
  | .computed name => .protectedTable name "modified"

/-- Why a built-in table cannot be indexed. -/
def indexFault : BuiltIn → StoreFault
  | .schema name => .protectedTable name "indexed"
  | .computed _ => .computedTable

/-- The names of used tables of settings, after a use of `name`. -/
def remember (used : List String) (name : String) : List String :=
  if isSetting name && !used.any (sameName name) then name :: used else used

/-- Using a table of a setting once more changes nothing. -/
theorem remember_of_used {used : List String} {name : String}
    (h : used.any (sameName name) = true) : remember used name = used := by
  simp [remember, h]

/-- The name of the one computed table that has to be told what it is computed
from.  Until a table of this name is created, using it is an error. -/
def needingArguments : String := "fts4aux"

/-- Why there is no table of a name, which is reported as `reported`. -/
def absence (name reported : String) : StoreFault :=
  if sameName name needingArguments then .missingArguments needingArguments
  else .noSuchTable reported

end BuiltIn
end Store
end IndexBench
