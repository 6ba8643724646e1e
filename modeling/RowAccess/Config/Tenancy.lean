import RowAccess.Text.Blank
/-!
# Tenancy

Which column of a table names the tenant that a row belongs to, and which tables all tenants share.
-/

namespace RowAccess.Config

/-- What is set for a single table. -/
structure TableTenancy where
  tenantColumn : Option String := none
  /-- Whether all tenants share the table. -/
  global : Bool := false
deriving DecidableEq, Repr, Inhabited

/-- The settings of tenancy. -/
structure Tenancy where
  enabled : Bool := false
  /-- The column that names the tenant where no other is set. -/
  defaultColumn : String := "tenant_id"
  /-- Settings of single tables; no name occurs twice. -/
  tables : List (String × TableTenancy) := []
  /-- Tables that all tenants share. -/
  globalTables : List String := []
  /-- What marks a cache key that all tenants share. -/
  globalKeyMarker : String := "global:"
deriving DecidableEq, Repr, Inhabited

namespace Tenancy

/-- The settings of a table: by its exact name, or else without regard to case. -/
def tableSettings? (t : Tenancy) (table : String) : Option TableTenancy :=
  match t.tables.lookup table with
  | some s => some s
  | none => (t.tables.find? fun (name, _) => Text.sameIgnoringCase name table).map (·.2)

/-- Whether all tenants share a table. -/
def isGlobal (t : Tenancy) (table : String) : Bool :=
  t.globalTables.any (fun name => Text.sameIgnoringCase name table) ||
    (t.tableSettings? table).any (·.global)

/-- The column that names the tenant of a row, unless all tenants share the table. -/
def tenantColumn? (t : Tenancy) (table : String) : Option String :=
  if t.isGlobal table then none
  else some (((t.tableSettings? table).bind (·.tenantColumn)).getD t.defaultColumn)

/-- Why settings of tenancy are not valid. -/
inductive Fault where
  | blankDefaultColumn
  | blankColumn (table : String)
  | blankMarker
deriving DecidableEq, Repr, Inhabited

/-- The message for invalid settings. -/
def Fault.message : Fault → String
  | blankDefaultColumn => "tenancy.default_column must not be empty"
  | blankColumn table => "tenancy.tables." ++ table ++ ".tenant_column must not be empty"
  | blankMarker => "tenancy.global_key_marker must not be empty"

/-- What is wrong with the settings, if anything. -/
def fault? (t : Tenancy) : Option Fault :=
  if Text.isBlank t.defaultColumn then some .blankDefaultColumn
  else match t.tables.find? fun (_, s) => s.tenantColumn.any Text.isBlank with
    | some (table, _) => some (.blankColumn table)
    | none => if Text.isBlank t.globalKeyMarker then some .blankMarker else none

end Tenancy

end RowAccess.Config
