import RowAccess.Format
import RowAccess.Principal
/-!
# Reading callers

Callers and their roles as records of a data format. The user is required, and of a role its id and the
rows it opens; all other fields have defaults.
-/

namespace RowAccess

open Format (field?)

variable {ν : Type}

/-- Reads a role. -/
def Role.read? (f : Format ν) (v : ν) : Option Role := do
  let r ← f.record? ["role_id", "data_scope", "permissions"] v
  return {
    id := ← field? r "role_id" f.text? none
    dataScope := ← field? r "data_scope" (f.choiceOf? DataScope.ofName?) none
    permissions := ← field? r "permissions" (f.listOf? f.text?) (some []) }

/-- Reads a caller. -/
def Principal.read? (f : Format ν) (v : ν) : Option Principal := do
  let r ← f.record? ["user_id", "tenant_id", "dept_id", "roles", "super_admin"] v
  return {
    userId := ← field? r "user_id" f.text? none
    tenantId := ← field? r "tenant_id" (f.maybe? f.text?) (some none)
    deptId := ← field? r "dept_id" (f.maybe? f.text?) (some none)
    roles := ← field? r "roles" (f.listOf? (Role.read? f)) (some [])
    superAdmin := ← field? r "super_admin" f.truth? (some false) }

end RowAccess
