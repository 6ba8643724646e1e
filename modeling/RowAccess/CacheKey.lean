import RowAccess.Tenants
import RowAccess.Text.Split
/-!
# Keys of caches

What is cached for a tenant is kept under keys of its own, which begin with the tenant. Keys with the
marker for what all tenants share are left alone, and so are all keys while the tenant is suppressed or
not known.
-/

namespace RowAccess

/-- How keys are mapped to those that they are stored under. -/
structure CacheKeys where
  /-- What all stored keys begin with. -/
  base : String
  /-- What marks the keys that all tenants share. -/
  marker : String
deriving DecidableEq, Repr, Inhabited

namespace CacheKeys

variable {σ : Type}

/-- The tenant that a key is kept for. -/
def tenant? (k : CacheKeys) (t : Tenants σ) (ctx : Context) (key : String) :
    Stored σ (Option String) :=
  if ctx.isSuppressed .tenant || Text.contains k.marker key then return none else t.effective ctx

/-- The key with its tenant in front, unless it stands there already. -/
def withTenant (tenant key : String) : String :=
  let front := tenant ++ ":"
  if (Text.after? front key).isSome then key else front ++ key

/-- The key that `key` is stored under; none for a blank one. -/
def map (k : CacheKeys) (t : Tenants σ) (ctx : Context) (key : String) :
    Stored σ (Option String) := do
  if Text.isBlank key then return none
  match ← k.tenant? t ctx key with
  | some tenant => return some (k.base ++ withTenant tenant key)
  | none => return some (k.base ++ key)

/-- The key that is stored under `stored`; none for a blank one. -/
def unmap (k : CacheKeys) (t : Tenants σ) (ctx : Context) (stored : String) :
    Stored σ (Option String) := do
  let key := (Text.after? k.base stored).getD stored
  if Text.isBlank key then return none
  match ← k.tenant? t ctx key with
  | some tenant => return some ((Text.after? (tenant ++ ":") key).getD key)
  | none => return some key

end CacheKeys

end RowAccess
