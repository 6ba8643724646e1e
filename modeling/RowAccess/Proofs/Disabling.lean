import RowAccess.CacheKey
import RowAccess.Proofs.FailClosed
import RowAccess.Proofs.Lookups
/-!
# Suppressing a concern is disabling it

A concern can be switched off for a context, by suppressing it, and for all contexts, by the configuration.
Both are looked at in several places, and nothing tells them apart: plans, hooks and cache keys are what they
are when the other switch is used (`suppressed_as_disabled`). Where a rule asks for nothing else, its
namespaces are not looked at instead, and the statement stays as it is.
-/

namespace RowAccess

variable {σ : Type}

/-- The configuration with a concern disabled, if it is one of those that can be. -/
def Config.without (c : Config) : Concern → Config
  | .tenant => { c with tenancy := { c.tenancy with enabled := false } }
  | .dataPermission => { c with dataPermission := { c.dataPermission with enabled := false } }
  | _ => c

/-- Whether a concern can be disabled. -/
def Concern.isSwitchable : Concern → Bool
  | .tenant | .dataPermission => true
  | _ => false

/-- The second context is the first with one concern no longer suppressed. -/
structure Context.Resumes (concern : Concern) (ctx ctx' : Context) : Prop where
  session : ctx'.session = ctx.session
  localTenant : ctx'.localTenant = ctx.localTenant
  resumed : ctx'.isSuppressed concern = false
  others : ∀ c ≠ concern, ctx'.isSuppressed c = ctx.isSuppressed c

/-! ## Rules without a concern -/

namespace Rule

/-- The rule with only those of its concerns that are kept, which may be none. -/
def masked (keeps : Concern → Bool) (r : Rule) : Rule :=
  { r with
    tenant := r.tenant && keeps .tenant
    data := if keeps .dataPermission then r.data else none }

theorem filter_eq (keeps : Concern → Bool) (r : Rule) :
    r.filter keeps = if (r.masked keeps).concerns.isEmpty then none else some (r.masked keeps) := rfl

theorem filter_some {keeps : Concern → Bool} {r r' : Rule} (kept : r.filter keeps = some r') :
    r' = r.masked keeps := by
  rw [filter_eq] at kept
  by_cases empty : (r.masked keeps).concerns.isEmpty
  · rw [if_pos empty] at kept
    cases kept
  · rw [if_neg empty, Option.some.injEq] at kept
    exact kept.symm

theorem mem_concerns {r : Rule} {c : Concern} :
    c ∈ r.concerns ↔ c = .tenant ∧ r.tenant = true ∨ c = .dataPermission ∧ r.data.isSome = true := by
  cases r with | mk d t data => cases t <;> cases data <;> simp [concerns]

/-- A rule is masked to those of its concerns that are kept. -/
theorem mem_concerns_masked {keeps : Concern → Bool} {r : Rule} {c : Concern} :
    c ∈ (r.masked keeps).concerns ↔ c ∈ r.concerns ∧ keeps c = true := by
  have data : (if keeps .dataPermission then r.data else none).isSome = true ↔
      r.data.isSome = true ∧ keeps .dataPermission = true := by
    split <;> simp [*]
  rw [mem_concerns, mem_concerns, masked, Bool.and_eq_true_iff, data]
  cases c <;> simp

/-- Nothing is kept of a rule if none of its concerns is. -/
theorem filter_eq_none_iff {keeps : Concern → Bool} {r : Rule} :
    r.filter keeps = none ↔ ∀ c ∈ r.concerns, keeps c = false := by
  have kept : r.filter keeps = none ↔ (r.masked keeps).concerns = [] := by
    rw [filter_eq, ite_eq_left_iff, List.isEmpty_iff]
    simp
  rw [kept, List.eq_nil_iff_forall_not_mem]
  simp [mem_concerns_masked]

end Rule

namespace Enforcer

/-! ## The enforcer without a concern -/

/-- The enforcer with a concern disabled. -/
def without (e : Enforcer σ) (c : Concern) : Enforcer σ where
  config := e.config.without c
  tenants := { e.tenants with enabled := e.tenants.enabled && c != .tenant }
  directory := e.directory

/-- A configuration stays valid when a concern is disabled. -/
theorem build_without {c : Config} {store : Store σ} {directory : Directory} {e : Enforcer σ}
    (built : build c store directory = .ok e) (concern : Concern) :
    build (c.without concern) store directory = .ok (e.without concern) := by
  have sameFault : (c.without concern).fault? = c.fault? := by cases concern <;> rfl
  have sameDeny : (c.without concern).dataPermission.denyPredicate = c.dataPermission.denyPredicate := by
    cases concern <;> rfl
  have sameDialect : (c.without concern).dialect = c.dialect := by cases concern <;> rfl
  obtain ⟨valid, expression, rfl⟩ := build_eq_ok.mp built
  rw [build_eq_ok, sameFault, sameDeny, sameDialect]
  refine ⟨valid, expression, ?_⟩
  cases concern <;> simp [without, Config.without, Tenants.ofTenancy]

variable {e : Enforcer σ} {concern : Concern} {ctx ctx' : Context}

/-- A concern is in force for the one exactly if it is for the other. -/
theorem keeps_without (switchable : concern.isSwitchable = true)
    (suppressed : ctx.isSuppressed concern = true) (resumes : ctx.Resumes concern ctx') (c : Concern) :
    ((e.without concern).isEnabled c && !ctx'.isSuppressed c) =
      (e.isEnabled c && !ctx.isSuppressed c) := by
  by_cases same : c = concern
  · subst same
    have disabled : (e.without c).isEnabled c = false := by
      cases c with
      | tenant => exact Bool.and_false _
      | dataPermission => rfl
      | _ => cases switchable
    rw [suppressed, disabled]
    simp
  · have enabled : (e.without concern).isEnabled c = e.isEnabled c := by
      cases c with
      | tenant => simpa [isEnabled, without] using fun _ => Ne.symm same
      | dataPermission => cases concern <;> first | rfl | exact absurd rfl same
      | _ => rfl
    rw [enabled, resumes.others c same]

theorem due_without (switchable : concern.isSwitchable = true)
    (suppressed : ctx.isSuppressed concern = true) (resumes : ctx.Resumes concern ctx')
    (s : BoundStatement) : (e.without concern).due ctx' s = e.due ctx s := by
  have declared (operation : String) : (e.without concern).declared operation = e.declared operation := by
    cases concern <;> rfl
  have inForce (r : Rule) : (e.without concern).inForce ctx' r = e.inForce ctx r := by
    rw [Enforcer.inForce, Enforcer.inForce, funext (keeps_without switchable suppressed resumes)]
  simp only [due, resolve, declared, funext inForce]

/-- What is due of a rule is free of a concern that is suppressed. -/
theorem due_lacks {s : BoundStatement} {lookups : Lookups} {r : Rule}
    (found : ((e.due ctx s).run lookups).1 = some r) :
    (ctx.isSuppressed .tenant = true → r.tenant = false) ∧
      (ctx.isSuppressed .dataPermission = true → r.data = none) := by
  have steps : ((((e.declared s.operation).run lookups).1.bind (e.inForce ctx)).bind
      (Rule.filter fun c => !s.applied.contains c)) = some r := found
  obtain ⟨inForce, resolved, pending⟩ := Option.bind_eq_some_iff.mp steps
  obtain ⟨declared, -, kept⟩ := Option.bind_eq_some_iff.mp resolved
  rw [Rule.filter_some pending, Rule.filter_some kept]
  constructor <;> intro suppressed <;> simp [Rule.masked, suppressed]

/-! ## Predicates -/

theorem tenants_without (other : concern ≠ .tenant) : (e.without concern).tenants = e.tenants := by
  have kept : (e.tenants.enabled && concern != .tenant) = e.tenants.enabled := by simp [other]
  change { e.tenants with enabled := e.tenants.enabled && concern != .tenant } = e.tenants
  rw [kept]

/-- Enforcers that agree on the tenant of a caller, on columns and on what is read ask for the same. -/
theorem tenantPredicates_same {e e' : Enforcer σ} (required : e'.requireTenant ctx' = e.requireTenant ctx)
    (column : ∀ t, e'.tenantColumn? t = e.tenantColumn? t)
    (read : ∀ table text, e'.predicate .tenant table text = e.predicate .tenant table text)
    (scope : Scope) (known : Option String) (tables : List Table) :
    e'.tenantPredicates ctx' scope known tables = e.tenantPredicates ctx scope known tables := by
  induction tables generalizing known with
  | nil => rfl
  | cons t ts ih =>
    rw [tenantPredicates_first, tenantPredicates_first, column]
    simp only [required, read, ih]

theorem tenantPredicates_without (other : concern ≠ .tenant) (resumes : ctx.Resumes concern ctx')
    (scope : Scope) (known : Option String) (tables : List Table) :
    (e.without concern).tenantPredicates ctx' scope known tables =
      e.tenantPredicates ctx scope known tables := by
  refine tenantPredicates_same ?_ ?_ ?_ scope known tables
  · simp only [requireTenant, tenants_without other, Tenants.effective, Tenants.dynamic, resumes.session,
      resumes.localTenant]
  · intro t
    cases concern <;> rfl
  · intro table text
    cases concern <;> rfl

theorem dataPredicates_without (resumes : ctx.Resumes concern ctx') (r : Config.DataRule) (scope : Scope) :
    (e.without concern).dataPredicates ctx' r scope = e.dataPredicates ctx r scope := by
  have single (qualifier table : Option String) :
      (e.without concern).dataPredicate? ctx' r qualifier table = e.dataPredicate? ctx r qualifier table := by
    rw [dataPredicate?, dataPredicate?, resumes.session]
    cases concern <;> rfl
  simp only [dataPredicates, single]

/-- A rule without the concern asks for the same predicates. -/
theorem predicates_without (switchable : concern.isSwitchable = true) (resumes : ctx.Resumes concern ctx')
    {r : Rule} (tenant : concern = .tenant → r.tenant = false)
    (data : concern = .dataPermission → r.data = none) :
    (e.without concern).predicates ctx' r = e.predicates ctx r := by
  funext scope
  rw [predicates_eq, predicates_eq]
  cases concern with
  | tenant =>
    rw [tenant rfl]
    simp only [dataPredicates_without resumes]
    rfl
  | dataPermission =>
    rw [data rfl]
    simp only [tenantPredicates_without (by decide) resumes]
    rfl
  | _ => cases switchable

/-! ## Plans and hooks -/

theorem plan_rest {s : BoundStatement} {shared : Shared σ}
    (nothing : ((e.due ctx s).run shared.lookups).1 = none) :
    (e.plan ctx s).run.run shared =
      (.ok none, ⟨((e.due ctx s).run shared.lookups).2, shared.store⟩) := by
  rw [plan_steps, nothing]
  rfl

theorem plan_without (switchable : concern.isSwitchable = true)
    (suppressed : ctx.isSuppressed concern = true) (resumes : ctx.Resumes concern ctx')
    (s : BoundStatement) : (e.without concern).plan ctx' s = e.plan ctx s := by
  have sameDue := due_without (e := e) switchable suppressed resumes s
  have sameDialect : (e.without concern).config.dialect = e.config.dialect := by cases concern <;> rfl
  funext shared
  change ((e.without concern).plan ctx' s).run.run shared = (e.plan ctx s).run.run shared
  cases found : ((e.due ctx s).run shared.lookups).1 with
  | none =>
    rw [plan_rest found, plan_rest (by rw [sameDue]; exact found), sameDue]
  | some r =>
    have samePredicates : (e.without concern).predicates ctx' r = e.predicates ctx r := by
      refine predicates_without switchable resumes ?_ ?_
      · rintro rfl
        exact (due_lacks found).1 suppressed
      · rintro rfl
        exact (due_lacks found).2 suppressed
    rw [e.plan_run found, (e.without concern).plan_run (by rw [sameDue]; exact found), sameDue,
      samePredicates, sameDialect]

theorem held_congr {hook hook' : BoundStatement → Enforcing σ BoundStatement} {s : BoundStatement}
    (same : hook s = hook' s) : Enforcing.held hook s = Enforcing.held hook' s := by
  funext shared
  exact (Enforcing.held_run hook s shared).trans (same ▸ (Enforcing.held_run hook' s shared).symm)

/-- A statement for which no rule applies stays as it is, and the store is not asked. -/
theorem hooks_rest {s : BoundStatement} {shared : Shared σ}
    (nothing : ((e.due ctx s).run shared.lookups).1 = none) :
    ∀ hook ∈ [e.beforeQuery ctx, e.beforePrepare ctx],
      ((Enforcing.held hook s).run shared).1 = (s, none) ∧
        ((Enforcing.held hook s).run shared).2.store = shared.store := by
  have ran : (e.beforeQuery ctx s).run.run shared =
      (.ok s, ⟨((e.due ctx s).run shared.lookups).2, shared.store⟩) := by
    rw [beforeQuery, ExceptT.run_bind, StateT.run_bind, plan_rest nothing]
    rfl
  have query : ((Enforcing.held (e.beforeQuery ctx) s).run shared).1 = (s, none) ∧
      ((Enforcing.held (e.beforeQuery ctx) s).run shared).2.store = shared.store := by
    rw [Enforcing.held_run, ran]
    exact ⟨rfl, rfl⟩
  have prepare : e.beforePrepare ctx s = e.beforeQuery ctx s ∨ e.beforePrepare ctx s = pure s := by
    rw [beforePrepare]
    cases s.command <;> simp
  intro hook mem
  rcases List.mem_cons.mp mem with rfl | mem
  · exact query
  · obtain rfl := List.mem_singleton.mp mem
    rcases prepare with same | same
    · rw [held_congr same]
      exact query
    · have kept : Enforcing.held (e.beforePrepare ctx) s = Enforcing.held pure s := held_congr same
      rw [kept]
      exact ⟨rfl, rfl⟩

/-! ## Both switches -/

/-- Nothing is due of a rule whose concerns are all suppressed or disabled. -/
theorem due_resting {s : BoundStatement} {lookups : Lookups} {r : Rule}
    (declared : ((e.declared s.operation).run lookups).1 = some r)
    (resting : ∀ c ∈ r.concerns, ctx.isSuppressed c = true ∨ e.isEnabled c = false) :
    ((e.resolve ctx s.operation).run lookups).1 = none ∧ ((e.due ctx s).run lookups).1 = none := by
  have inForce : e.inForce ctx r = none := by
    refine Rule.filter_eq_none_iff.mpr ?_
    intro c mem
    rcases resting c mem with off | off <;> simp [off]
  have resolved : ((e.resolve ctx s.operation).run lookups).1 = none := by
    change ((e.declared s.operation).run lookups).1.bind (e.inForce ctx) = none
    rw [declared, Option.bind_some, inForce]
  refine ⟨resolved, ?_⟩
  change ((e.resolve ctx s.operation).run lookups).1.bind _ = none
  rw [resolved]
  rfl

end Enforcer

/-! ## Cache keys -/

/-- While tenants are suppressed, keys are mapped as they are while tenancy is disabled. -/
theorem CacheKeys.tenant?_without (k : CacheKeys) {e : Enforcer σ} {ctx ctx' : Context}
    (suppressed : ctx.isSuppressed .tenant = true) (resumes : ctx.Resumes .tenant ctx') (key : String) :
    k.tenant? (e.without .tenant).tenants ctx' key = k.tenant? e.tenants ctx key := by
  have disabled : (e.without .tenant).tenants.enabled = false := Bool.and_false _
  have nobody : (e.without .tenant).tenants.effective ctx' = pure none := by
    simp [Tenants.effective, disabled]
  rw [CacheKeys.tenant?, CacheKeys.tenant?, suppressed, nobody, resumes.resumed]
  simp

namespace Enforcer

/-- With a concern suppressed, a valid configuration comes to what it comes to with the concern disabled and
not suppressed: the configuration is still valid, plans and hooks do the same to any statement from any store,
whatever its calls answer, and, for tenants, cache keys are mapped alike. Where all concerns of the nearest
declared rule are suppressed or disabled there is no rule, whatever is declared for the namespaces beyond it:
there is no plan, the hooks leave the statement as it is, whatever its text, and the store is not asked. -/
theorem suppressed_as_disabled {c : Config} {store : Store σ} {directory : Directory} {e : Enforcer σ}
    (built : build c store directory = .ok e) {concern : Concern}
    (switchable : concern.isSwitchable = true) :
    ∃ off, build (c.without concern) store directory = .ok off ∧
      ∀ ctx ctx', ctx.isSuppressed concern = true → ctx.Resumes concern ctx' →
        (∀ s, e.plan ctx s = off.plan ctx' s ∧ e.beforeQuery ctx s = off.beforeQuery ctx' s ∧
          e.beforePrepare ctx s = off.beforePrepare ctx' s) ∧
        (concern = .tenant → ∀ (k : CacheKeys) key,
          k.map e.tenants ctx key = k.map off.tenants ctx' key ∧
            k.unmap e.tenants ctx key = k.unmap off.tenants ctx' key) ∧
        ∀ (s : BoundStatement) (shared : Shared σ) before name beyond r,
          shared.lookups.Sound e.config.operations →
          s.operation :: namespacesOf s.operation = before ++ name :: beyond →
          (∀ other ∈ before, Declarations.at? e.config.operations other = none) →
          Declarations.at? e.config.operations name = some r →
          (∀ c ∈ r.concerns, ctx.isSuppressed c = true ∨ e.isEnabled c = false) →
          ((e.resolve ctx s.operation).run shared.lookups).1 = none ∧
            ((e.plan ctx s).run.run shared).1 = .ok none ∧
            ((e.plan ctx s).run.run shared).2.store = shared.store ∧
            ∀ hook ∈ [e.beforeQuery ctx, e.beforePrepare ctx],
              ((Enforcing.held hook s).run shared).1 = (s, none) ∧
                ((Enforcing.held hook s).run shared).2.store = shared.store := by
  refine ⟨e.without concern, build_without built concern, ?_⟩
  intro ctx ctx' suppressed resumes
  refine ⟨?_, ?_, ?_⟩
  · intro s
    have planned := plan_without (e := e) switchable suppressed resumes s
    have query : (e.without concern).beforeQuery ctx' s = e.beforeQuery ctx s := by
      rw [beforeQuery, beforeQuery, planned]
    refine ⟨planned.symm, query.symm, ?_⟩
    rw [beforePrepare, beforePrepare, query]
  · rintro rfl k key
    have tenant (key : String) := k.tenant?_without (e := e) suppressed resumes key
    constructor
    · simp only [CacheKeys.map, tenant]
    · simp only [CacheKeys.unmap, tenant]
  · intro s shared before name beyond r sound path none_before declared resting
    have nearest : Declarations.find? e.config.operations s.operation = some r := by
      rw [Declarations.find?, path]
      exact List.findSome?_eq_some_iff.mpr ⟨before, name, beyond, rfl, declared, none_before⟩
    have answer := (e.declared_answer sound s.operation).1
    rw [nearest] at answer
    obtain ⟨resolved, nothing⟩ := due_resting answer resting
    refine ⟨resolved, ?_, ?_, hooks_rest nothing⟩ <;> rw [plan_rest nothing]

end Enforcer

/-! ## A report -/

namespace OrderReport

open Enforcer

/-- Orders are restricted by department, and reports on them to a tenant instead. -/
def config : Config where
  tenancy := { enabled := true }
  operations := [("orders", { data := some {} }), ("orders.reports", { tenant := true })]

/-- A store that is out of order, and counts how often it is asked. -/
def outOfOrder : Store Nat where
  get _ := fun asked => (.error "out of order", asked + 1)
  set _ _ := fun asked => (.error "out of order", asked + 1)
  delete _ := fun asked => (.error "out of order", asked + 1)

/-- A context in which tenants are suppressed twice over. -/
def suppressed : Context := ((Context.start .anonymous).enable .tenant).enable .tenant

/-- A report that is no statement. -/
def statement : BoundStatement := .start "orders.reports.daily" .update "UPDAT orders"

/-- What is shared before anything was asked. -/
def fresh : Shared Nat := ⟨.none, 0⟩

/-- While tenants are suppressed a report is left alone, and nothing is asked of the store: the restriction
by department, which is declared for all orders, is not put in place of the one to a tenant. It is the same
with tenancy disabled. -/
theorem report_left_alone :
    ∃ e off, build config outOfOrder (Departments.directory ⟨[], []⟩) = .ok e ∧
      build (config.without .tenant) outOfOrder (Departments.directory ⟨[], []⟩) = .ok off ∧
      e.beforePrepare suppressed statement = off.beforePrepare (.start .anonymous) statement ∧
      ((e.plan suppressed statement).run.run fresh).1 = .ok none ∧
      ((Enforcing.held (e.beforePrepare suppressed) statement).run fresh).1 = (statement, none) ∧
      ((Enforcing.held (e.beforePrepare suppressed) statement).run fresh).2.store = 0 := by
  have valid : config.fault? = none := by decide +kernel
  have deny : (Sql.parseExpr config.dialect config.dataPermission.denyPredicate).isSome = true := by
    decide +kernel
  have built : build config outOfOrder (Departments.directory ⟨[], []⟩) =
      .ok ⟨config, .ofTenancy config.tenancy outOfOrder, Departments.directory ⟨[], []⟩⟩ :=
    build_eq_ok.mpr ⟨valid, deny, rfl⟩
  have resumes : suppressed.Resumes .tenant (.start .anonymous) := by
    refine ⟨rfl, rfl, rfl, ?_⟩
    intro c other
    cases c <;> first | exact absurd rfl other | rfl
  obtain ⟨off, builtOff, same⟩ := suppressed_as_disabled built (show Concern.tenant.isSwitchable = true from rfl)
  obtain ⟨alike, -, resting⟩ := same suppressed (.start .anonymous) (by decide +kernel) resumes
  obtain ⟨-, unplanned, -, hooks⟩ := resting statement fresh ["orders.reports.daily"] "orders.reports"
    ["orders"] ⟨"orders.reports", true, none⟩ (Lookups.sound_none _) (by decide +kernel)
    (by decide +kernel) (by decide +kernel) (by decide +kernel)
  obtain ⟨left, asked⟩ := hooks _ (.tail _ (.head _))
  exact ⟨_, off, built, builtOff, (alike statement).2.2, unplanned, left, asked⟩

end OrderReport

end RowAccess
