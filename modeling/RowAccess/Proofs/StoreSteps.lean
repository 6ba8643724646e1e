import RowAccess.CacheKey
import RowAccess.Proofs.Supply
import RowAccess.Proofs.Transcript
/-!
# What the steps of an answer keep

Of a store, an enforcer asks for the tenant of a context and nothing else. So a relation of answers over two
stores that holds where no store is needed, and is kept from step to step, holds of predicates and of rewritten
statements as soon as it holds of the tenant (`StoreSteps.predicates`, `StoreSteps.rewriteWith`). What holds of
answers over a single store is the case of a relation that looks at one of them only.
-/

namespace RowAccess

variable {σ τ α β : Type}

/-- The relation holds of answers that need no store, and of sequences of related answers. -/
structure StoreSteps (P : ∀ {α : Type}, Stored σ α → Stored τ α → Prop) : Prop where
  pure {α : Type} (x : α) : P (Pure.pure x) (Pure.pure x)
  throw {α : Type} (fault : Error) : P (throw fault : Stored σ α) (throw fault)
  bind {α β : Type} {a : Stored σ α} {a' : Stored τ α} {f : α → Stored σ β} {f' : α → Stored τ β} :
    P a a' → (∀ x, P (f x) (f' x)) → P (a >>= f) (a' >>= f')

/-- The same enforcer over another store. -/
def Enforcer.withStore (e : Enforcer σ) (store : Store τ) : Enforcer τ where
  config := e.config
  tenants := ⟨e.tenants.enabled, e.tenants.marker, store⟩
  directory := e.directory

namespace StoreSteps

variable {P : ∀ {α : Type}, Stored σ α → Stored τ α → Prop} (steps : StoreSteps P)

include steps

theorem lift (a : Except Error α) : P (liftM a : Stored σ α) (liftM a : Stored τ α) := by
  cases a with
  | ok x => exact steps.pure x
  | error fault => exact steps.throw fault

/-! ## Predicates -/

section

variable {e : Enforcer σ} (store : Store τ) {ctx : Context}
  (effective : P (e.tenants.effective ctx) ((e.withStore store).tenants.effective ctx))

include effective

theorem requireTenant : P (e.requireTenant ctx) ((e.withStore store).requireTenant ctx) := by
  rw [Enforcer.requireTenant, Enforcer.requireTenant]
  refine steps.bind effective ?_
  intro tenant
  cases tenant with
  | some tenant => exact steps.pure tenant
  | none => exact steps.throw _

theorem tenantPredicates (scope : Scope) (known : Option String) (tables : List Table) :
    P (e.tenantPredicates ctx scope known tables) ((e.withStore store).tenantPredicates ctx scope known tables) := by
  induction tables generalizing known with
  | nil => exact steps.pure []
  | cons t ts ih =>
    have column : (e.withStore store).tenantColumn? t = e.tenantColumn? t := rfl
    rw [Enforcer.tenantPredicates_first, Enforcer.tenantPredicates_first, column]
    cases e.tenantColumn? t with
    | none => exact ih known
    | some column =>
      -- The tenant is known by then or asked for, and is known for the tables that follow.
      cases known with
      | some tenant =>
        refine steps.bind (steps.pure tenant) fun tenant => ?_
        exact steps.bind (steps.lift _) fun _ => steps.bind (ih (some tenant)) fun _ => steps.pure _
      | none =>
        refine steps.bind (steps.requireTenant store effective) fun tenant => ?_
        exact steps.bind (steps.lift _) fun _ => steps.bind (ih (some tenant)) fun _ => steps.pure _

theorem predicates (r : Rule) (scope : Scope) :
    P (e.predicates ctx r scope) ((e.withStore store).predicates ctx r scope) := by
  rw [Enforcer.predicates_eq, Enforcer.predicates_eq]
  have tenant : P (if r.tenant then e.tenantPredicates ctx scope none scope.tables else Pure.pure [])
      (if r.tenant then (e.withStore store).tenantPredicates ctx scope none scope.tables else Pure.pure []) := by
    split
    · exact steps.tenantPredicates store effective scope none scope.tables
    · exact steps.pure []
  exact steps.bind tenant fun _ => steps.bind (steps.lift _) fun _ => steps.pure _

end

/-! ## Cache keys -/

section

variable (k : CacheKeys) {t : Tenants σ} (t' : Tenants τ) {ctx : Context}
  (effective : P (t.effective ctx) (t'.effective ctx))

include effective

theorem tenant? (cached : String) : P (k.tenant? t ctx cached) (k.tenant? t' ctx cached) := by
  rw [CacheKeys.tenant?, CacheKeys.tenant?]
  split
  · exact steps.pure none
  · exact effective

theorem map (cached : String) : P (k.map t ctx cached) (k.map t' ctx cached) := by
  rw [CacheKeys.map, CacheKeys.map]
  split
  · exact steps.pure none
  · refine steps.bind (steps.tenant? k t' effective cached) ?_
    intro tenant
    cases tenant <;> exact steps.pure _

theorem unmap (stored : String) : P (k.unmap t ctx stored) (k.unmap t' ctx stored) := by
  rw [CacheKeys.unmap, CacheKeys.unmap]
  split
  · exact steps.pure none
  · refine steps.bind (steps.tenant? k t' effective _) ?_
    intro tenant
    cases tenant <;> exact steps.pure _

end

/-! ## Rewriting -/

variable (source : Source σ) (source' : Source τ) (sources : ∀ scope, P (source scope) (source' scope))

include sources

/-- Related sources make the steps of rewriting related, from whatever was added before. -/
theorem related :
    Rewrite.Related source source' fun {α} (m : Rewriting σ α) m' => ∀ a, P (m.run a) (m'.run a) where
  pure x := fun a => steps.pure (x, a)
  fail fault := fun _ => steps.throw fault
  bind first next := fun a => steps.bind (first a) fun step => next step.1 step.2
  add scope condition := fun a =>
    steps.bind (steps.bind (sources scope) fun ps => steps.pure (ps, a)) fun step =>
      steps.pure (restrict condition step.1 step.2)

theorem rewriteWith (codec : Sql.Codec) (sql : String) :
    P (rewriteWith codec source sql) (rewriteWith codec source' sql) := by
  rw [RowAccess.rewriteWith, RowAccess.rewriteWith]
  cases codec.parse sql with
  | none => exact steps.throw _
  | some list =>
    have walk := Rewrite.statements_related codec (steps.related source source' sources) (1 < list.length) list
    exact steps.bind (walk .nothing) fun _ => steps.pure _

end StoreSteps

end RowAccess
