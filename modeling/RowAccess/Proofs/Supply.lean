import RowAccess.Proofs.Fidelity
/-!
# What an enforcer answers for a scope

For a scope, an enforcer answers the predicates of its tables for the tenant of the context, and after
them those for the data of the caller. The tenant is looked up only if some table of the scope is
restricted, and where it cannot be found the scope has no answer.
-/

namespace RowAccess.Enforcer

open Sql

variable {σ : Type} (e : Enforcer σ) (ctx : Context)

/-! ## Restricted tables -/

/-- Whether some of the tables belong to tenants. -/
def restrictsAny (tables : List Table) : Bool := tables.any fun t => (e.tenantColumn? t).isSome

theorem tenantConditions_eq_nil {scope : Scope} {tenant : String} {tables : List Table} :
    e.tenantConditions scope tenant tables = [] ↔ e.restrictsAny tables = false := by
  simp [tenantConditions, restrictsAny, List.filterMap_eq_nil_iff]

/-! ## Predicates for the tenant -/

theorem run_bind_error {α β : Type} {m : Stored σ α} {f : α → Stored σ β} {fault : Error} {s s' : σ}
    (h : m.run.run s = (.error fault, s')) : (m >>= f).run.run s = (.error fault, s') := by
  rw [ExceptT.run_bind, StateT.run_bind, h]
  rfl

/-- Tables that all tenants share need no tenant. -/
theorem tenantPredicates_shared {scope : Scope} (known : Option String) (s : σ) :
    ∀ {tables : List Table}, e.restrictsAny tables = false →
      (e.tenantPredicates ctx scope known tables).run.run s = (.ok [], s)
  | [], _ => rfl
  | t :: tables, shared => by
    obtain ⟨first, others⟩ := Bool.or_eq_false_iff.mp shared
    rw [tenantPredicates_first, Option.isSome_eq_false_iff.mp first |> Option.isNone_iff_eq_none.mp]
    exact tenantPredicates_shared known s others

/-- Where the tenant cannot be found, no restricted table has a predicate. -/
theorem tenantPredicates_fails {scope : Scope} {fault : Error} {s s' : σ}
    (missing : (e.requireTenant ctx).run.run s = (.error fault, s')) :
    ∀ {tables : List Table}, e.restrictsAny tables = true →
      (e.tenantPredicates ctx scope none tables).run.run s = (.error fault, s')
  | t :: tables, needed => by
    rw [tenantPredicates_first]
    cases column : e.tenantColumn? t with
    | none =>
      refine tenantPredicates_fails missing ?_
      rw [restrictsAny, List.any_cons, column] at needed
      exact needed
    | some column => exact run_bind_error missing

/-- The predicates of the tables, where the tenant is known as soon as some table needs it. -/
theorem tenantPredicates_ok {scope : Scope} {tenant : String} {tables : List Table} {ps : List Predicate}
    {s s' : σ} (only : ∀ t s', (e.requireTenant ctx).run.run s = (.ok t, s') → t = tenant)
    (h : (e.tenantPredicates ctx scope none tables).run.run s = (.ok ps, s')) :
    (e.tenantConditions scope tenant tables).mapM e.readTenant = .ok ps := by
  cases needed : e.restrictsAny tables with
  | false =>
    rw [e.tenantPredicates_shared ctx none s needed] at h
    rw [e.tenantConditions_eq_nil.mpr needed]
    cases h
    rfl
  | true =>
    rcases found : (e.requireTenant ctx).run.run s with ⟨fault | t, s₁⟩
    · rw [e.tenantPredicates_fails ctx found needed] at h
      cases h
    · obtain rfl := only t s₁ found
      rw [e.tenantPredicates_run ctx scope found tables] at h
      · exact (Prod.mk.inj h).1
      · rw [ne_eq, e.tenantConditions_eq_nil, needed]
        exact Bool.noConfusion

theorem mapM_cons_ok {α β : Type} {f : α → Except Error β} {a : α} {as : List α} {bs : List β}
    (h : (a :: as).mapM f = .ok bs) : ∃ b bs', f a = .ok b ∧ as.mapM f = .ok bs' ∧ bs = b :: bs' := by
  rw [List.mapM_cons] at h
  cases first : f a with
  | error fault =>
    rw [first] at h
    cases h
  | ok b =>
    cases others : as.mapM f with
    | error fault =>
      rw [first, others] at h
      cases h
    | ok bs' =>
      rw [first, others] at h
      cases h
      exact ⟨b, bs', rfl, rfl, rfl⟩

/-- A predicate for the tenant is what is read from the text of its condition. -/
theorem readTenant_ok {c : Table × Condition} {p : Predicate} (h : e.readTenant c = .ok p) :
    p.concern = .tenant ∧ p.table = some c.1.baseName ∧
      parseExpr e.config.dialect (c.2.text e.config.dataPermission.denyPredicate) = some p.condition := by
  rw [readTenant, predicate] at h
  split at h
  · next condition read =>
    cases h
    exact ⟨rfl, rfl, read⟩
  · cases h

/-- Looking up a tenant that does not change what the store holds leaves it as it is for all tables. -/
theorem tenantPredicates_quiet {scope : Scope} {tenant : String} {s : σ}
    (found : (e.requireTenant ctx).run.run s = (.ok tenant, s)) (tables : List Table) :
    (e.tenantPredicates ctx scope none tables).run.run s =
      ((e.tenantConditions scope tenant tables).mapM e.readTenant, s) := by
  cases needed : e.restrictsAny tables with
  | false =>
    rw [e.tenantPredicates_shared ctx none s needed, e.tenantConditions_eq_nil.mpr needed]
    rfl
  | true =>
    refine e.tenantPredicates_run ctx scope found tables ?_
    rw [ne_eq, e.tenantConditions_eq_nil, needed]
    exact Bool.noConfusion

/-! ## Predicates of a rule -/

theorem run_bind_inv {α β : Type} {m : Stored σ α} {f : α → Stored σ β} {b : β} {s s' : σ}
    (h : (m >>= f).run.run s = (.ok b, s')) :
    ∃ a s₁, m.run.run s = (.ok a, s₁) ∧ (f a).run.run s₁ = (.ok b, s') := by
  rcases run : m.run.run s with ⟨fault | a, s₁⟩
  · rw [run_bind_error run] at h
    cases h
  · rw [run_bind_ok run] at h
    exact ⟨a, s₁, rfl, h⟩

theorem predicates_eq (r : Rule) (scope : Scope) :
    e.predicates ctx r scope =
      ((if r.tenant then e.tenantPredicates ctx scope none scope.tables else pure []) >>= fun forTenant =>
        liftM (r.data.elim (.ok []) fun data => e.dataPredicates ctx data scope :
            Except Error (List Predicate)) >>= fun forData => pure (forTenant ++ forData)) := by
  unfold predicates
  cases r.tenant <;> cases r.data <;> rfl

/-- The predicates of a rule are those for the tenant, and after them those for the data. -/
theorem predicates_ok {r : Rule} {scope : Scope} {ps : List Predicate} {s s' : σ}
    (h : (e.predicates ctx r scope).run.run s = (.ok ps, s')) :
    ∃ forTenant forData, ps = forTenant ++ forData ∧
      (if r.tenant then e.tenantPredicates ctx scope none scope.tables else pure []).run.run s =
        (.ok forTenant, s') ∧
      (r.data.elim (.ok []) fun data => e.dataPredicates ctx data scope) = .ok forData := by
  rw [predicates_eq] at h
  obtain ⟨forTenant, s₁, tenant, h⟩ := run_bind_inv h
  rw [run_lift_bind] at h
  split at h
  · cases h
  · next forData found =>
    cases h
    exact ⟨forTenant, forData, rfl, tenant, found⟩

end RowAccess.Enforcer
