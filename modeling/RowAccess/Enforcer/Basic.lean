import RowAccess.Config
import RowAccess.Fragment
import RowAccess.Rewrite
import RowAccess.Rules
import RowAccess.Tenants
/-!
# Enforcing rules

An enforcer is built from a valid configuration, a store and a directory. It says which rule is in force
for an operation in a context, and which predicates that rule asks for in a scope.
-/

namespace RowAccess

/-- What rules are enforced by. -/
structure Enforcer (σ : Type) where
  config : Config
  tenants : Tenants σ
  directory : Directory

namespace Enforcer

variable {σ : Type}

/-- The enforcer of a configuration, which must be valid. -/
def build (c : Config) (store : Store σ) (directory : Directory) : Except Error (Enforcer σ) :=
  match c.fault? with
  | some fault => .error (.invalidConfig (Config.invalidMessage fault.message))
  | none =>
    if (Sql.parseExpr c.dialect c.dataPermission.denyPredicate).isSome then
      .ok ⟨c, .ofTenancy c.tenancy store, directory⟩
    else .error (.invalidPredicate c.dataPermission.denyPredicate)

/-- Of a valid configuration an enforcer is built unless the condition that denies all is no expression. -/
theorem build_valid {c : Config} (valid : c.fault? = none) (store : Store σ) (directory : Directory) :
    build c store directory =
      if (Sql.parseExpr c.dialect c.dataPermission.denyPredicate).isSome then
        .ok ⟨c, .ofTenancy c.tenancy store, directory⟩
      else .error (.invalidPredicate c.dataPermission.denyPredicate) := by
  rw [build, valid]

/-- What an enforcer is built of. -/
theorem build_eq_ok {c : Config} {store : Store σ} {directory : Directory} {e : Enforcer σ} :
    build c store directory = .ok e ↔
      c.fault? = none ∧ (Sql.parseExpr c.dialect c.dataPermission.denyPredicate).isSome = true ∧
        ⟨c, .ofTenancy c.tenancy store, directory⟩ = e := by
  cases valid : c.fault? with
  | some fault => simp [build, valid]
  | none =>
    rw [build_valid valid]
    split <;> simp_all

/-! ## Rules -/

/-- The rule that is declared for an operation. -/
def declared (e : Enforcer σ) (operation : String) : StateM Lookups (Option Rule) :=
  Lookups.find e.config.operations operation

/-- Whether a concern is enforced at all. -/
def isEnabled (e : Enforcer σ) : Concern → Bool
  | .tenant => e.tenants.enabled
  | .dataPermission => e.config.dataPermission.enabled
  | _ => true

/-- What is in force of a rule in a context: the concerns that are enabled and not suppressed. -/
def inForce (e : Enforcer σ) (ctx : Context) (r : Rule) : Option Rule :=
  r.filter fun c => e.isEnabled c && !ctx.isSuppressed c

/-- The rule that is in force for an operation in a context. -/
def resolve (e : Enforcer σ) (ctx : Context) (operation : String) :
    StateM Lookups (Option Rule) := do
  return (← e.declared operation).bind (e.inForce ctx)

/-! ## Predicates -/

/-- A predicate with a condition that is given as text. -/
def predicate (e : Enforcer σ) (concern : Concern) (table : Option String) (text : String) :
    Except Error Predicate :=
  match Sql.parseExpr e.config.dialect text with
  | some condition => .ok ⟨concern, table, condition⟩
  | none => .error (.invalidPredicate text)

/-- The column that names the tenant of a row in a table; none for catalogs and for tables that all
tenants share. -/
def tenantColumn? (e : Enforcer σ) (t : Table) : Option String :=
  if t.isCatalog then none else e.config.tenancy.tenantColumn? t.baseName

/-- The tenant of a context, which must be known. -/
def requireTenant (e : Enforcer σ) (ctx : Context) : Stored σ String := do
  match ← e.tenants.effective ctx with
  | some tenant => return tenant
  | none => throw .missingTenant

/-- The predicates that restrict tables of a scope to the tenant of a context. The tenant is looked up
for the first table that needs it, and `known` from then on. -/
def tenantPredicates (e : Enforcer σ) (ctx : Context) (scope : Scope) (known : Option String) :
    List Table → Stored σ (List Predicate)
  | [] => return []
  | t :: ts =>
    match e.tenantColumn? t with
    | none => tenantPredicates e ctx scope known ts
    | some column => do
      let tenant ← match known with
        | some tenant => pure tenant
        | none => e.requireTenant ctx
      let text := equalText (qualify (scope.qualifierFor t) column) tenant
      let p ← e.predicate .tenant (some t.baseName) text
      return p :: (← tenantPredicates e ctx scope (some tenant) ts)

/-- The condition of a rule for the caller of a context as a predicate, unless every row is visible. -/
def dataPredicate? (e : Enforcer σ) (ctx : Context) (r : Config.DataRule)
    (qualifier table : Option String) : Except Error (Option Predicate) :=
  match r.text? e.directory e.config.dataPermission.denyPredicate ctx.session qualifier with
  | .error reason => .error (.internal reason)
  | .ok none => .ok none
  | .ok (some text) => (e.predicate .dataPermission table text).map some

/-- The predicates of a rule for the rows of a scope. A rule with a table restricts that table, and one
without restricts each query that reads any table. -/
def dataPredicates (e : Enforcer σ) (ctx : Context) (r : Config.DataRule) (scope : Scope) :
    Except Error (List Predicate) :=
  match r.table with
  | some name => do
    let found ← (scope.tables.filter fun t => t.isNamed name).mapM fun t =>
      e.dataPredicate? ctx r (scope.qualifierFor t) (some t.baseName)
    return found.filterMap id
  | none => do
    if scope.placement = .filter && 0 < scope.visible then
      return (← e.dataPredicate? ctx r none none).toList
    else return []

/-- The predicates that a rule asks for in a scope. -/
def predicates (e : Enforcer σ) (ctx : Context) (r : Rule) : Source σ := fun scope => do
  let forTenant ← if r.tenant then e.tenantPredicates ctx scope none scope.tables else pure []
  let forData ← match r.data with
    | some data => (e.dataPredicates ctx data scope : Except Error _)
    | none => pure []
  return forTenant ++ forData

end Enforcer

end RowAccess
