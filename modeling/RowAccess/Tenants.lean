import RowAccess.Config.Tenancy
import RowAccess.Context
import RowAccess.Error
import RowAccess.Store
import RowAccess.Text.Blank
/-!
# The tenant of a context

A caller can be switched to another tenant, for a single context or, once known, for all contexts of
the same user. The effective tenant of a context is the first of these that is not blank: the tenant the
context was switched to, the one its user was switched to, and the one its session belongs to.

All of this rests while tenancy is not enabled.
-/

namespace RowAccess

/-- An answer that may need the store. The state of the store outlives a failure. -/
abbrev Stored (σ : Type) := ExceptT Error (StateM σ)

/-- Something that may change a context. Its state, and that of the store, outlive a failure. -/
abbrev InContext (σ : Type) := ExceptT Error (StateM (Context × σ))

/-- What the tenant of a context is found by. -/
structure Tenants (σ : Type) where
  enabled : Bool
  /-- What marks the keys that all tenants share. -/
  marker : String
  store : Store σ

namespace Tenants

variable {σ : Type}

/-- The tenants of a configuration over a store. -/
def ofTenancy (t : Config.Tenancy) (store : Store σ) : Tenants σ :=
  ⟨t.enabled, t.globalKeyMarker, store⟩

/-- The answer to a call of the store. -/
def call {α : Type} (c : StoreCall σ α) : Stored σ α :=
  fun s => let (answer, s) := c s; (answer.mapError .internal, s)

/-- The same within a context. -/
def inContext {α : Type} (a : Stored σ α) : InContext σ α :=
  fun (ctx, s) => let (answer, s) := a s; (answer, ctx, s)

/-- The key of the store that holds the tenant a user was switched to. -/
def key (t : Tenants σ) (user : String) : String := t.marker ++ "dynamic_tenant:" ++ user

/-- The key for the user of a session. -/
def keyOf? (t : Tenants σ) (s : Session) : Option String := s.userId.map t.key

/-- Switches to a tenant: the user, if that is asked for and the user is known, or else the context. -/
def setDynamic (t : Tenants σ) (tenant : String) (forUser : Bool) : InContext σ Unit := do
  if t.enabled then
    let (ctx, _) ← get
    match if forUser then t.keyOf? ctx.session else none with
    | some key => inContext (call (t.store.set key tenant))
    | none => modify fun (ctx, s) => (ctx.withLocalTenant (some tenant), s)

/-- The tenant that the context or its user was switched to. -/
def dynamic (t : Tenants σ) (ctx : Context) : Stored σ (Option String) := do
  if !t.enabled then return none
  match Text.nonBlank ctx.localTenant with
  | some tenant => return some tenant
  | none =>
    match t.keyOf? ctx.session with
    | some key => return Text.nonBlank (← call (t.store.get key))
    | none => return none

/-- Switches the context and its user back to no tenant, in this order. -/
def clearDynamic (t : Tenants σ) : InContext σ Unit := do
  if t.enabled then
    modify fun (ctx, s) => (ctx.withLocalTenant none, s)
    let (ctx, _) ← get
    match t.keyOf? ctx.session with
    | some key => inContext (call (t.store.delete key))
    | none => return ()

/-- The tenant that statements of a context are restricted to. -/
def effective (t : Tenants σ) (ctx : Context) : Stored σ (Option String) := do
  if !t.enabled then return none
  match ← t.dynamic ctx with
  | some tenant => return some tenant
  | none => return Text.nonBlank ctx.session.tenantId

/-- The context for work that is done with a tenant of its own. -/
def enter (t : Tenants σ) (tenant : String) (ctx : Context) : Context :=
  if t.enabled then ctx.withLocalTenant (some tenant) else ctx

/-- The context after such work, which was begun with the local tenant `before`. -/
def leave (t : Tenants σ) (before : Option String) (ctx : Context) : Context :=
  if t.enabled then ctx.withLocalTenant before else ctx

end Tenants

end RowAccess
