import RowAccess.Text.Blank
/-!
# Callers and their roles

A caller is known by the session: its user, tenant and department, and the roles it holds. Each role
says which rows it opens.
-/

namespace RowAccess

/-- Which rows a role opens. -/
inductive DataScope where
  /-- Every row. -/
  | all
  /-- The rows of the departments assigned to the role. -/
  | custom
  /-- The rows of the caller's department. -/
  | dept
  /-- The rows of the caller's department and of all departments below it. -/
  | deptAndChild
  /-- The rows the caller owns. -/
  | selfOnly
deriving DecidableEq, Repr, Inhabited

namespace DataScope

/-- The code of a data scope in records of roles. -/
def code : DataScope → String
  | all => "1"
  | custom => "2"
  | dept => "3"
  | deptAndChild => "4"
  | selfOnly => "5"

/-- The name of a data scope. -/
def name : DataScope → String
  | all => "all"
  | custom => "custom"
  | dept => "dept"
  | deptAndChild => "dept_and_child"
  | selfOnly => "self_only"

/-- Every data scope. -/
def every : List DataScope := [all, custom, dept, deptAndChild, selfOnly]

/-- The data scope with a name. -/
def ofName? (s : String) : Option DataScope := every.find? fun d => d.name == s

/-- The data scope with a code, blanks around it ignored. -/
def ofCode? (s : String) : Option DataScope := every.find? fun d => d.code == Text.trim s

/-- The data scope that a text means, by its code or by its name in any case; on failure the name
that is not known. -/
def ofText (s : String) : Except String DataScope :=
  match ofCode? s with
  | some d => .ok d
  | none =>
    let word := Text.asciiLower (Text.trim s)
    if word = "self" then .ok selfOnly
    else match ofName? word with
      | some d => .ok d
      | none => .error word

/-- The message for a name that is no data scope. -/
def unknownMessage (word : String) : String := "unknown data scope '" ++ word ++ "'"

end DataScope

/-- A role of a caller. -/
structure Role where
  id : String
  dataScope : DataScope
  /-- The permissions the role grants. -/
  permissions : List String
deriving DecidableEq, Repr, Inhabited

/-- A caller who is known. -/
structure Principal where
  userId : String
  tenantId : Option String
  deptId : Option String
  roles : List Role
  /-- Whether data permissions do not restrict the caller. -/
  superAdmin : Bool
deriving DecidableEq, Repr, Inhabited

/-- Who a statement is run for. -/
inductive Session where
  | anonymous
  | user (principal : Principal)
deriving DecidableEq, Repr, Inhabited

namespace Session

/-- The caller, if known. -/
def principal? : Session → Option Principal
  | anonymous => none
  | user p => some p

/-- Whether the caller is known. -/
def isAuthenticated (s : Session) : Bool := s.principal?.isSome

/-- The user, if known. -/
def userId (s : Session) : Option String := s.principal?.map (·.userId)

/-- The tenant the caller logged in to. -/
def tenantId (s : Session) : Option String := s.principal?.bind (·.tenantId)

/-- The caller's department. -/
def deptId (s : Session) : Option String := s.principal?.bind (·.deptId)

/-- The caller's roles. -/
def roles (s : Session) : List Role := (s.principal?.map (·.roles)).getD []

/-- Whether data permissions do not restrict the caller. -/
def isSuperAdmin (s : Session) : Bool := s.principal?.any (·.superAdmin)

end Session

end RowAccess
