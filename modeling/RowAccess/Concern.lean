/-!
# Concerns

What statements are checked for or restricted by. Each concern is suppressed and restored on its own.
-/

namespace RowAccess

/-- Something that can be suppressed for a while. -/
inductive Concern where
  /-- Rows belong to a tenant. -/
  | tenant
  /-- Rows belong to departments and users. -/
  | dataPermission
  /-- Statements of an illegal form. -/
  | illegalSql
  /-- Changes of whole tables. -/
  | blockAttack
  /-- Tables whose names are replaced. -/
  | dynamicTableName
deriving DecidableEq, Repr, Inhabited

namespace Concern

/-- Every concern. -/
def all : List Concern := [tenant, dataPermission, illegalSql, blockAttack, dynamicTableName]

theorem mem_all (c : Concern) : c ∈ all := by cases c <;> decide

/-- The name of a concern. -/
def name : Concern → String
  | tenant => "tenant_line"
  | dataPermission => "data_permission"
  | illegalSql => "illegal_sql"
  | blockAttack => "block_attack"
  | dynamicTableName => "dynamic_table_name"

/-- The concern with the given name. -/
def ofName? (s : String) : Option Concern := all.find? fun c => c.name == s

end Concern

end RowAccess
