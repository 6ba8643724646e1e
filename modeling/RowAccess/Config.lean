import RowAccess.Config.Rule
import RowAccess.Config.Tenancy
import RowAccess.Sql.Dialect
/-!
# Configuration

The dialect of the statements, the settings of tenancy and of data permissions, and the rules of the
operations.
-/

namespace RowAccess

namespace Config

/-- The settings of data permissions. -/
structure DataPermission where
  enabled : Bool := true
  /-- The condition for callers to whom no role opens any row. -/
  denyPredicate : String := "1 = 0"
deriving DecidableEq, Repr, Inhabited

end Config

/-- A configuration. -/
structure Config where
  dialect : Sql.Dialect := .postgres
  tenancy : Config.Tenancy := {}
  /-- A file that holds the settings of tenancy in place of those above. -/
  tenancyFile : Option String := none
  dataPermission : Config.DataPermission := {}
  /-- Rules by the ids of operations, in the order of the ids; no id occurs twice. -/
  operations : List (String × Config.OperationRule) := []
deriving DecidableEq, Repr, Inhabited

namespace Config

/-- Why a configuration is not valid. -/
inductive Fault where
  | tenancy (fault : Tenancy.Fault)
  | blankDenyPredicate
  | rule (id : String) (fault : RuleFault)
deriving DecidableEq, Repr, Inhabited

/-- The message for an invalid configuration. -/
def Fault.message : Fault → String
  | tenancy fault => fault.message
  | blankDenyPredicate => "data_permission.deny_predicate must not be empty"
  | rule id fault => fault.message id

/-- The message for something that is wrong with a configuration. -/
def invalidMessage (reason : String) : String := "Configuration error: " ++ reason

/-- What is wrong with the rules, taking the first fault in the order of the ids. -/
def ruleFault? (operations : List (String × OperationRule)) : Option Fault :=
  operations.findSome? fun (id, r) => (r.fault? id).map (.rule id)

/-- What is wrong with a configuration, if anything. -/
def fault? (c : Config) : Option Fault :=
  match c.tenancy.fault? with
  | some fault => some (.tenancy fault)
  | none =>
    if Text.isBlank c.dataPermission.denyPredicate then some .blankDenyPredicate
    else ruleFault? c.operations

end Config

end RowAccess
