import RowAccess.Config
import RowAccess.Format
/-!
# Reading configurations

Configurations as records of a data format. Every field has a default.
-/

namespace RowAccess

open Format (field?)

variable {ν : Type}

namespace Config

/-- Reads the settings of a single table. -/
def TableTenancy.read? (f : Format ν) (v : ν) : Option TableTenancy := do
  let r ← f.record? ["tenant_column", "global"] v
  return {
    tenantColumn := ← field? r "tenant_column" (f.maybe? f.text?) (some none)
    global := ← field? r "global" f.truth? (some false) }

/-- Reads the settings of tenancy. -/
def Tenancy.read? (f : Format ν) (v : ν) : Option Tenancy := do
  let defaults : Tenancy := {}
  let r ← f.record? ["enabled", "default_column", "tables", "global_tables", "global_key_marker"] v
  return {
    enabled := ← field? r "enabled" f.truth? (some defaults.enabled)
    defaultColumn := ← field? r "default_column" f.text? (some defaults.defaultColumn)
    tables := ← field? r "tables" (f.mapOf? (TableTenancy.read? f)) (some defaults.tables)
    globalTables := ← field? r "global_tables" (f.listOf? f.text?) (some defaults.globalTables)
    globalKeyMarker := ← field? r "global_key_marker" f.text? (some defaults.globalKeyMarker) }

/-- Reads the settings of data permissions. -/
def DataPermission.read? (f : Format ν) (v : ν) : Option DataPermission := do
  let defaults : DataPermission := {}
  let r ← f.record? ["enabled", "deny_predicate"] v
  return {
    enabled := ← field? r "enabled" f.truth? (some defaults.enabled)
    denyPredicate := ← field? r "deny_predicate" f.text? (some defaults.denyPredicate) }

/-- Reads a rule of data permissions. -/
def DataRule.read? (f : Format ν) (v : ν) : Option DataRule := do
  let defaults : DataRule := {}
  let text := f.maybe? f.text?
  let r ← f.record? ["table", "dept_column", "user_column", "permission", "combine"] v
  return {
    table := ← field? r "table" text (some defaults.table)
    deptColumn := ← field? r "dept_column" text (some defaults.deptColumn)
    userColumn := ← field? r "user_column" text (some defaults.userColumn)
    permission := ← field? r "permission" text (some defaults.permission)
    combine := ← field? r "combine" (f.choiceOf? Combine.ofName?) (some defaults.combine) }

/-- Reads the rule of an operation. -/
def OperationRule.read? (f : Format ν) (v : ν) : Option OperationRule := do
  let r ← f.record? ["tenant", "data_permission"] v
  return {
    tenant := ← field? r "tenant" f.truth? (some false)
    data := ← field? r "data_permission" (f.maybe? (DataRule.read? f)) (some none) }

/-- Reads a configuration. -/
def read? (f : Format ν) (v : ν) : Option Config := do
  let defaults : Config := {}
  let r ← f.record? ["dialect", "tenancy", "tenancy_file", "data_permission", "operations"] v
  return {
    dialect := ← field? r "dialect" (f.choiceOf? Sql.Dialect.ofName?) (some defaults.dialect)
    tenancy := ← field? r "tenancy" (Tenancy.read? f) (some defaults.tenancy)
    tenancyFile := ← field? r "tenancy_file" (f.maybe? f.text?) (some defaults.tenancyFile)
    dataPermission :=
      ← field? r "data_permission" (DataPermission.read? f) (some defaults.dataPermission)
    operations := ← field? r "operations" (f.mapOf? (OperationRule.read? f)) (some []) }

end Config

end RowAccess
