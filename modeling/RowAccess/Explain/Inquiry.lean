import RowAccess.Departments
import RowAccess.Enforcer.Statement
import RowAccess.Text.Split
/-!
# Inquiries

An inquiry describes a statement and its caller in texts: roles as `id:scope:permission,permission`,
departments of roles as `role=dept,dept`, and the hierarchy of departments as `child:parent`.
-/

namespace RowAccess

/-- What is asked about: a statement, and the caller it is issued for. -/
structure Inquiry where
  sql : String
  operation : String
  command : Command := .select
  /-- The user; without one the caller is not known. -/
  user : Option String := none
  tenant : Option String := none
  dept : Option String := none
  roles : List String := []
  superAdmin : Bool := false
  /-- The tenant that the context is switched to. -/
  dynamicTenant : Option String := none
  roleDepts : List String := []
  deptParents : List String := []
deriving DecidableEq, Repr, Inhabited

namespace Inquiry

/-- Why an inquiry cannot be answered. -/
inductive Failure where
  | roleWithoutScope (text : String)
  | roleWithoutId (text : String)
  | unknownScope (text word : String)
  | badRoleDepts (text : String)
  | badDeptParent (text : String)
  /-- The statement cannot be restricted. -/
  | refused (error : Error)
deriving DecidableEq, Repr, Inhabited

/-- The message for an inquiry that cannot be answered. -/
def Failure.message : Failure → String
  | roleWithoutScope text => "Invalid role '" ++ text ++ "': expected <role_id>:<scope>"
  | roleWithoutId text => "Invalid role '" ++ text ++ "': empty role id"
  | unknownScope text word => "Invalid role '" ++ text ++ "': " ++ DataScope.unknownMessage word
  | badRoleDepts text =>
    "Invalid --role-depts '" ++ text ++ "': expected <role_id>=<dept>,<dept>"
  | badDeptParent text => "Invalid --dept-parent '" ++ text ++ "': expected <child>:<parent>"
  | refused error => error.message

/-- What stands before and after the first `sep` in a text. -/
def cut? (sep : Char) (s : String) : Option (String × String) :=
  (Text.cutFirst? sep s.toList).map fun (before, after) =>
    (String.ofList before, String.ofList after)

/-- The items of a list with commas; blanks around them are dropped, and so are empty items. -/
def items (s : String) : List String :=
  ((Text.splitOn ',' s).map Text.trim).filter fun item => !item.isEmpty

/-- The role that a text describes. -/
def role (text : String) : Except Failure Role :=
  match cut? ':' text with
  | none => .error (.roleWithoutScope text)
  | some (before, after) =>
    let id := Text.trim before
    if id.isEmpty then .error (.roleWithoutId text)
    else
      let (scope, permissions) := match cut? ':' after with
        | some (scope, rest) => (scope, items rest)
        | none => (after, [])
      match DataScope.ofText (Text.trim scope) with
      | .ok dataScope => .ok ⟨id, dataScope, permissions⟩
      | .error word => .error (.unknownScope text word)

/-- Departments with those that a text assigns to a role. -/
def addRoleDepts (d : Departments) (text : String) : Except Failure Departments :=
  match cut? '=' text with
  | some (role, depts) => .ok (d.assign (Text.trim role) (items depts))
  | none => .error (.badRoleDepts text)

/-- Departments with the edge that a text describes. -/
def addDeptParent (d : Departments) (text : String) : Except Failure Departments :=
  match cut? ':' text with
  | some (child, parent) => .ok (d.add (Text.trim child) (Text.trim parent))
  | none => .error (.badDeptParent text)

/-- The departments that texts describe. -/
def departments (roleDepts deptParents : List String) : Except Failure Departments := do
  deptParents.foldlM addDeptParent (← roleDepts.foldlM addRoleDepts .empty)

/-- The caller of an inquiry. The roles are read only if the user is known. -/
def session (q : Inquiry) : Except Failure Session :=
  match q.user with
  | none => .ok .anonymous
  | some user => do
    return .user ⟨user, q.tenant, q.dept, ← q.roles.mapM role, q.superAdmin⟩

/-- The statement of an inquiry. -/
def statement (q : Inquiry) : BoundStatement := .start q.operation q.command q.sql

end Inquiry

end RowAccess
