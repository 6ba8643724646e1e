import RowAccess.Text.Blank
/-!
# Rules of operations

An operation is restricted only if a rule is declared for it. A rule asks for the tenant, for data
permissions, or for both.
-/

namespace RowAccess.Config

/-- How the rows that several roles open are combined. -/
inductive Combine where
  /-- A row is visible if some role opens it. -/
  | or
  /-- A row is visible if every role opens it. -/
  | and
deriving DecidableEq, Repr, Inhabited

/-- The name of a combination. -/
def Combine.name : Combine → String
  | or => "or"
  | and => "and"

/-- The combination with the given name. -/
def Combine.ofName? (s : String) : Option Combine :=
  [or, and].find? fun c => c.name == s

/-- Where the owner of a row is recorded. -/
structure DataRule where
  /-- The table that is restricted; without one, each query is restricted as a whole. -/
  table : Option String := none
  /-- The column of the owning department. -/
  deptColumn : Option String := some "dept_id"
  /-- The column of the owning user. -/
  userColumn : Option String := none
  /-- The permission that a role must grant to count. -/
  permission : Option String := none
  combine : Combine := .or
deriving DecidableEq, Repr, Inhabited

/-- What an operation is restricted by. -/
structure OperationRule where
  tenant : Bool := false
  data : Option DataRule := none
deriving DecidableEq, Repr, Inhabited

/-- Why a rule is not valid. -/
inductive RuleFault where
  /-- The id of the operation is blank. -/
  | blankId
  /-- The rule asks for nothing. -/
  | empty
  /-- Neither column is named. -/
  | noColumn
  /-- The table is blank. -/
  | blankTable
deriving DecidableEq, Repr, Inhabited

/-- The message for an invalid rule of an operation. -/
def RuleFault.message (id : String) : RuleFault → String
  | blankId => "operation rules must have a non-empty operation id"
  | empty => "operation '" ++ id ++ "' declares neither tenant nor data_permission scoping"
  | noColumn => "operation '" ++ id ++ "': data_permission needs dept_column or user_column"
  | blankTable => "operation '" ++ id ++ "': data_permission.table must not be empty"

/-- What is wrong with the rule of an operation, if anything. -/
def OperationRule.fault? (id : String) (r : OperationRule) : Option RuleFault :=
  if Text.isBlank id then some .blankId
  else match r.data with
    | none => if r.tenant then none else some .empty
    | some data =>
      if (Text.nonBlank data.deptColumn).isNone && (Text.nonBlank data.userColumn).isNone then
        some .noColumn
      else if data.table.any Text.isBlank then some .blankTable
      else none

end RowAccess.Config
