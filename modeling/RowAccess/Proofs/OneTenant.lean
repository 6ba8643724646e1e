import RowAccess.Proofs.FailClosed
import RowAccess.Proofs.StoreReads
import Mathlib.Data.List.Forall2
/-!
# The tenant of a statement while others switch the user

Others may switch a user while a statement of the user is planned. A plan asks the store for the tenant once
for each scope that is restricted, so between two scopes the answer may change. Each scope is compared with
the tenant of the moment in which it was asked about, and the statement with a single one exactly if that
was the same in all these moments (`one_tenant_per_scope`).
-/

namespace RowAccess

open Sql Sql.Parser

variable {σ : Type}

/-! ## Others at work -/

/-- A call by which some context switches its user to a tenant, or back to none. -/
structure Elsewhere where
  context : Context
  tenant : Option String

namespace Tenants

/-- The store after a call of another context. -/
def afterCall (t : Tenants σ) (s : σ) (call : Elsewhere) : σ :=
  match call.tenant with
  | some tenant => ((t.setDynamic tenant true).run.run (call.context, s)).2.2
  | none => (t.clearDynamic.run.run (call.context, s)).2.2

/-- The store after calls of other contexts. -/
def afterCalls (t : Tenants σ) (calls : List Elsewhere) (s : σ) : σ := calls.foldl t.afterCall s

/-- The tenants over a store that others use meanwhile: before each text that is read they make the next of
these calls. Each call is made at once. -/
def amid (t : Tenants σ) : Tenants (σ × List (List Elsewhere)) where
  enabled := t.enabled
  marker := t.marker
  store :=
    { get key := fun (s, calls) =>
        let (answer, s) := t.store.get key (t.afterCalls (calls.headD []) s)
        (answer, s, calls.tail)
      set key value := fun (s, calls) =>
        let (answer, s) := t.store.set key value s
        (answer, s, calls)
      delete key := fun (s, calls) =>
        let (answer, s) := t.store.delete key s
        (answer, s, calls) }

/-- The store in the moment in which a text is read, the first one in moment 0. -/
def moment (t : Tenants σ) (s : σ) (calls : List (List Elsewhere)) (i : Nat) : σ :=
  t.afterCalls (calls.take (i + 1)).flatten s

theorem moment_zero (t : Tenants σ) (s : σ) (calls : List (List Elsewhere)) :
    t.moment s calls 0 = t.afterCalls (calls.headD []) s := by
  cases calls <;> simp [moment]

theorem moment_succ (t : Tenants σ) (s : σ) (calls : List (List Elsewhere)) (i : Nat) :
    t.moment s calls (i + 1) = t.moment (t.moment s calls 0) calls.tail i := by
  cases calls <;> simp [moment, afterCalls]

/-- The tenant is read of the store as it is in this moment, unless it does not depend on it. -/
theorem effective_amid {t : Tenants Memory} (memory : t.store = .memory) (ctx : Context) (m : Memory)
    (calls : List (List Elsewhere)) :
    ∃ after, (t.amid.effective ctx).run.run (m, calls) =
        (((t.effective ctx).run.run (t.moment m calls 0)).1, after) ∧
      (after = (t.moment m calls 0, calls.tail) ∨
        after = (m, calls) ∧
          ∀ m' m'', ((t.effective ctx).run.run m').1 = ((t.effective ctx).run.run m'').1) := by
  have keys : t.amid.keyOf? ctx.session = t.keyOf? ctx.session := rfl
  rw [effective_eq, effective_eq, keys]
  change ∃ after, StateT.run (ExceptT.run (if t.enabled = false then _ else _)) _ = _ ∧ _
  by_cases disabled : t.enabled = false
  · rw [if_pos disabled, if_pos disabled]
    exact ⟨_, rfl, .inr ⟨rfl, fun _ _ => rfl⟩⟩
  · rw [if_neg disabled, if_neg disabled]
    cases Text.nonBlank ctx.localTenant with
    | some tenant => exact ⟨_, rfl, .inr ⟨rfl, fun _ _ => rfl⟩⟩
    | none =>
      cases t.keyOf? ctx.session with
      | none => exact ⟨_, rfl, .inr ⟨rfl, fun _ _ => rfl⟩⟩
      | some key =>
        have read (s : Memory) : (call (t.store.get key)).run.run s = (.ok (s.get? key), s) := by
          rw [memory]
          rfl
        have readAmid : (call (t.amid.store.get key)).run.run (m, calls) =
            (.ok ((t.moment m calls 0).get? key), t.moment m calls 0, calls.tail) := by
          rw [moment_zero]
          change ((t.store.get key (t.afterCalls (calls.headD []) m)).1.mapError Error.internal,
            (t.store.get key (t.afterCalls (calls.headD []) m)).2, calls.tail) = _
          rw [memory]
          rfl
        refine ⟨(t.moment m calls 0, calls.tail), ?_, .inl rfl⟩
        dsimp only
        rw [ExceptT.run_bind, StateT.run_bind, readAmid, ExceptT.run_bind, StateT.run_bind, read]
        rfl

end Tenants

namespace Enforcer

variable {e : Enforcer σ} {ctx : Context} {r : Rule}

/-- The enforcer over a store that others use meanwhile. -/
def amid (e : Enforcer σ) : Enforcer (σ × List (List Elsewhere)) where
  config := e.config
  tenants := e.tenants.amid
  directory := e.directory

/-! ## Scopes -/

/-- A scope with a table of tenants is answered with one look at the tenant, which each of its tables is
compared with. -/
theorem predicates_restricted {scope : Scope} (asked : r.tenant = true)
    (needed : e.restrictsAny scope.tables = true) {ps : List Predicate} {s s' : σ}
    (answered : (e.predicates ctx r scope).run.run s = (.ok ps, s')) :
    ∃ tenant, (e.tenants.effective ctx).run.run s = (.ok (some tenant), s') ∧
      ∃ forTenant forData, ps = forTenant ++ forData ∧
        List.Forall₂ (e.Compares tenant scope) (scope.tables.filter fun t => !e.isExempt t) forTenant ∧
        ∀ p ∈ forData, p.concern = .dataPermission := by
  obtain ⟨forTenant, forData, rfl, first, second⟩ := e.predicates_ok ctx answered
  rw [asked, if_pos rfl] at first
  rcases found : (e.tenants.effective ctx).run.run s with ⟨fault | _ | tenant, s₁⟩
  · rw [e.tenantPredicates_fails ctx (run_bind_error found) needed] at first
    cases first
  · rw [e.tenantPredicates_fails ctx (run_bind_ok found) needed] at first
    cases first
  · have required : (e.requireTenant ctx).run.run s = (.ok tenant, s₁) := run_bind_ok found
    have conditions : e.tenantConditions scope tenant scope.tables ≠ [] := by
      rw [ne_eq, e.tenantConditions_eq_nil, needed]
      exact Bool.noConfusion
    rw [e.tenantPredicates_run ctx scope required _ conditions] at first
    obtain ⟨read, rfl⟩ := Prod.mk.inj first
    exact ⟨tenant, rfl, forTenant, forData, rfl, compares_of_read read, data_concern second⟩

/-- A scope without tables of tenants has predicates for the data alone. -/
theorem predicates_unrestricted {scope : Scope} (shared : e.restrictsAny scope.tables = false)
    {ps : List Predicate} {s s' : σ} (answered : (e.predicates ctx r scope).run.run s = (.ok ps, s')) :
    ∀ p ∈ ps, p.concern = .dataPermission := by
  obtain ⟨forTenant, forData, rfl, first, second⟩ := e.predicates_ok ctx answered
  have none : forTenant = [] := by
    split at first
    · rw [e.tenantPredicates_shared ctx none s shared] at first
      cases first
      rfl
    · cases first
      rfl
  rw [none]
  exact data_concern second

/-! ## One scope after the other -/

/-- Where the enforcer answers each scope, it compares the scopes with the tenants of the moments in which
it is asked about them. -/
theorem asked_amid {e : Enforcer Memory} (memory : e.tenants.store = .memory) (asked : r.tenant = true)
    {t : Transcript} {state state' : Memory × List (List Elsewhere)}
    (chain : Asked (e.amid.predicates ctx r) state t state')
    (answered : ∀ entry ∈ t, ∃ ps, entry.2 = .ok ps) :
    ∀ i entry, (t.filter fun entry => e.restrictsAny entry.1.tables)[i]? = some entry →
      ∃ tenant, ((e.tenants.effective ctx).run.run (e.tenants.moment state.1 state.2 i)).1 = .ok (some tenant) ∧
        ∃ forTenant forData, entry.2 = .ok (forTenant ++ forData) ∧
          List.Forall₂ (e.Compares tenant entry.1) (entry.1.tables.filter fun t => !e.isExempt t)
            forTenant ∧
          ∀ p ∈ forData, p.concern = .dataPermission := by
  induction chain with
  | nil => simp
  | @cons scope answer rest s₀ s₁ s₂ ran _ ih =>
    have later := ih fun entry mem => answered entry (.tail _ mem)
    obtain ⟨ps, ok⟩ := answered _ (.head _)
    obtain rfl : answer = .ok ps := ok
    intro i entry place
    cases needed : e.restrictsAny scope.tables with
    | false =>
      have same : ((e.amid.predicates ctx r scope).run.run s₀).2 = s₀ :=
        predicates_shared (e := e.amid) needed s₀
      rw [ran] at same
      obtain rfl : s₁ = s₀ := same
      rw [List.filter_cons_of_neg (by simp [needed])] at place
      exact later i entry place
    | true =>
      obtain ⟨tenant, found, forTenant, forData, rfl, compares, data⟩ :=
        predicates_restricted (e := e.amid) asked needed ran
      obtain ⟨after, read, moves⟩ := Tenants.effective_amid memory ctx s₀.1 s₀.2
      obtain ⟨effective, rfl⟩ := Prod.mk.inj (read.symm.trans found)
      rw [List.filter_cons_of_pos (by simp [needed])] at place
      cases i with
      | zero =>
        obtain rfl := Option.some.inj place
        refine ⟨tenant, effective, forTenant, forData, rfl, List.Forall₂.imp ?_ compares, data⟩
        exact fun _ _ h => ⟨h.concern, h.table, h.condition⟩
      | succ i =>
        obtain ⟨tenant', effective', answer⟩ := later i entry place
        refine ⟨tenant', ?_, answer⟩
        rcases moves with rfl | ⟨rfl, fixed⟩
        · rw [Tenants.moment_succ]
          exact effective'
        · rw [fixed _ (e.tenants.moment s₀.1 s₀.2 i)]
          exact effective'

theorem asked_unrestricted {e : Enforcer σ} {t : Transcript} {s s' : σ}
    (chain : Asked (e.predicates ctx r) s t s') {entry : Scope × Except Error (List Predicate)}
    (mem : entry ∈ t) (shared : e.restrictsAny entry.1.tables = false) {ps : List Predicate}
    (answer : entry.2 = .ok ps) : ∀ p ∈ ps, p.concern = .dataPermission := by
  induction chain with
  | nil => cases mem
  | cons ran _ ih =>
    rcases List.mem_cons.mp mem with rfl | mem
    · obtain rfl := answer
      exact predicates_unrestricted shared ran
    · exact ih mem

/-! ## One tenant -/

variable (e) in
/-- Whether the columns that name the tenants of a scope are written with plain names. -/
def hasPlainTenants (scope : Scope) : Bool :=
  scope.tables.all fun t => (e.config.tenancy.tenantColumn? t.baseName).all fun column =>
    (Condition.equals (scope.qualifierFor t) column "").isPlain

variable (e) in
/-- Each predicate for the tenant that was answered compares a table of its scope with this one. -/
def ComparesAll (tenant : String) (asked : Transcript) : Prop :=
  ∀ entry ∈ asked, ∀ ps, entry.2 = .ok ps → ∀ p ∈ ps, p.concern = .tenant →
    ∃ t ∈ entry.1.tables, e.Compares tenant entry.1 t p

/-- The condition that is read of a comparison with a tenant that is readable names the tenant. -/
theorem Compares.condition_eq {tenant : String} {scope : Scope} {t : Table} {p : Predicate}
    (compares : e.Compares tenant scope t p) (plain : e.hasPlainTenants scope = true) (mem : t ∈ scope.tables)
    (readable : e.config.dialect.readable tenant = true) :
    ∃ column, p.condition = equalExpr (scope.qualifierFor t) column tenant := by
  obtain ⟨column, named, -, exact⟩ := compares.condition
  have names := List.all_eq_true.mp plain t mem
  rw [named, Option.all_some] at names
  exact ⟨column, (exact names).mpr readable⟩

/-- No predicate compares with two tenants. -/
theorem Compares.tenant_unique {tenant tenant' : String} {scope : Scope} {t t' : Table} {p : Predicate}
    (compares : e.Compares tenant scope t p) (compares' : e.Compares tenant' scope t' p)
    (plain : e.hasPlainTenants scope = true) (mem : t ∈ scope.tables) (mem' : t' ∈ scope.tables)
    (readable : e.config.dialect.readable tenant = true)
    (readable' : e.config.dialect.readable tenant' = true) : tenant = tenant' := by
  obtain ⟨column, condition⟩ := compares.condition_eq plain mem readable
  obtain ⟨column', condition'⟩ := compares'.condition_eq plain mem' readable'
  have same := condition.symm.trans condition'
  simp only [equalExpr, Expr.binary.injEq, Expr.literal.injEq, Literal.string.injEq] at same
  exact same.2.2

theorem compared_table {tenant : String} {scope : Scope} {tables : List Table} {ps : List Predicate}
    (compares : List.Forall₂ (e.Compares tenant scope) tables ps) :
    ∀ p ∈ ps, ∃ t ∈ tables, e.Compares tenant scope t p := by
  induction compares with
  | nil => exact nofun
  | cons first _ ih =>
    intro p mem
    rcases List.mem_cons.mp mem with rfl | mem
    · exact ⟨_, .head _, first⟩
    · obtain ⟨t, mem, compares⟩ := ih p mem
      exact ⟨t, .tail _ mem, compares⟩

/-- All predicates for the tenant compare with one that is readable exactly if it is that of each moment in
which a restricted scope was answered. -/
theorem comparesAll_iff {e : Enforcer Memory} (memory : e.tenants.store = .memory) (asked : r.tenant = true)
    {t : Transcript} {state state' : Memory × List (List Elsewhere)}
    (chain : Asked (e.amid.predicates ctx r) state t state') (answered : ∀ entry ∈ t, ∃ ps, entry.2 = .ok ps)
    (plain : ∀ entry ∈ t, e.hasPlainTenants entry.1 = true) {tenant : String}
    (readable : e.config.dialect.readable tenant = true)
    (readables : ∀ i < (t.filter fun entry => e.restrictsAny entry.1.tables).length, ∀ other,
      ((e.tenants.effective ctx).run.run (e.tenants.moment state.1 state.2 i)).1 = .ok (some other) →
        e.config.dialect.readable other = true) :
    e.ComparesAll tenant t ↔
      ∀ i < (t.filter fun entry => e.restrictsAny entry.1.tables).length,
        ((e.tenants.effective ctx).run.run (e.tenants.moment state.1 state.2 i)).1 = .ok (some tenant) := by
  have each := asked_amid memory asked chain answered
  constructor
  · intro all i small
    have place := List.getElem?_eq_getElem small
    generalize (t.filter fun entry => e.restrictsAny entry.1.tables)[i] = entry at place
    obtain ⟨other, effective, forTenant, forData, ok, compares, -⟩ := each i entry place
    obtain ⟨mem, restricted⟩ := List.mem_filter.mp (List.mem_of_getElem? place)
    obtain ⟨t₀, mem₀, belongs⟩ := e.restrictsAny_iff.mp restricted
    cases forTenant with
    | nil =>
      have none := List.forall₂_nil_right_iff.mp compares
      exact absurd (List.filter_eq_nil_iff.mp none t₀ mem₀) (by simp [belongs])
    | cons p ps =>
      obtain ⟨t₁, mem₁, compares₁⟩ := compared_table compares p (.head _)
      obtain ⟨t₂, mem₂, compares₂⟩ := all entry mem _ ok p (.head _) compares₁.concern
      rw [effective, compares₁.tenant_unique compares₂ (plain entry mem) (List.mem_filter.mp mem₁).1 mem₂
        (readables i small other effective) readable]
  · intro same entry mem ps ok p member concern
    cases restricted : e.restrictsAny entry.1.tables with
    | false =>
      have data := asked_unrestricted (e := e.amid) chain mem restricted ok p member
      rw [concern] at data
      cases data
    | true =>
      have kept : entry ∈ t.filter fun entry => e.restrictsAny entry.1.tables :=
        List.mem_filter.mpr ⟨mem, restricted⟩
      obtain ⟨i, small, place⟩ := List.getElem_of_mem kept
      obtain ⟨other, effective, forTenant, forData, ok', compares, data⟩ :=
        each i entry (List.getElem?_eq_some_iff.mpr ⟨small, place⟩)
      cases Except.ok.inj (ok.symm.trans ok')
      obtain rfl : other = tenant := by simpa using effective.symm.trans (same i small)
      rcases List.mem_append.mp member with compared | other
      · obtain ⟨t₁, mem₁, compares₁⟩ := compared_table compares p compared
        exact ⟨t₁, (List.mem_filter.mp mem₁).1, compares₁⟩
      · have data := data p other
        rw [concern] at data
        cases data

/-- While others switch users, a plan under a rule for the tenant compares each scope with the tenant of one
moment, that in which the scope was answered, and adds nothing that was not answered. Where names are plain and
tenants readable, all of the statement is compared with one tenant exactly if it is the tenant of all
these moments. -/
theorem one_tenant_per_scope (e : Enforcer Memory) (memory : e.tenants.store = .memory) (ctx : Context)
    {s : BoundStatement} {lookups : Lookups} {r : Rule} (inForce : e.TenantDue ctx s lookups r) (m : Memory)
    (calls : List (List Elsewhere)) {p : Plan}
    (planned : ((e.amid.plan ctx s).run.run ⟨lookups, m, calls⟩).1 = .ok (some p)) :
    ∃ r', ((e.due ctx s).run lookups).1 = some r' ∧
      let asked := e.amid.transcript ctx r' s.sql (m, calls)
      let restricted := asked.filter fun entry => e.restrictsAny entry.1.tables
      let tenantIn i := ((e.tenants.effective ctx).run.run (e.tenants.moment m calls i)).1
      (∀ text ∈ p.result.added.predicates, asked.Mentions text) ∧
      (∀ i entry, restricted[i]? = some entry → ∃ tenant, tenantIn i = .ok (some tenant) ∧
        ∃ forTenant forData, entry.2 = .ok (forTenant ++ forData) ∧
          List.Forall₂ (e.Compares tenant entry.1) (entry.1.tables.filter fun t => !e.isExempt t)
            forTenant ∧
          ∀ p ∈ forData, p.concern = .dataPermission) ∧
      ((∀ entry ∈ asked, e.hasPlainTenants entry.1 = true) →
        (∀ i < restricted.length, ∀ other, tenantIn i = .ok (some other) →
          e.config.dialect.readable other = true) →
        ∀ tenant, e.config.dialect.readable tenant = true →
          (e.ComparesAll tenant asked ↔ ∀ i < restricted.length, tenantIn i = .ok (some tenant))) := by
  have inForce' : e.amid.TenantDue ctx s lookups r :=
    ⟨inForce.declared, inForce.asked, inForce.enabled, inForce.unsuppressed, inForce.pending⟩
  obtain ⟨r', due, asked⟩ := inForce'.due
  obtain ⟨chain, faults⟩ := e.amid.transcript_asked ctx r' s.sql (m, calls)
  rw [e.amid.plan_run due] at planned
  dsimp only at planned
  rcases rewritten : ((rewrite e.amid.config.dialect (e.amid.predicates ctx r') s.sql).run.run (m, calls)).1
    with fault | result
  · rw [rewritten] at planned
    cases planned
  · rw [rewritten] at planned
    cases planned
    have answered : ∀ entry ∈ e.amid.transcript ctx r' s.sql (m, calls), ∃ ps, entry.2 = .ok ps := by
      rintro ⟨scope, fault | ps⟩ mem
      · rw [faults scope fault mem] at rewritten
        cases rewritten
      · exact ⟨ps, rfl⟩
    refine ⟨r', due, rewriteWith_adds _ _ _ _ rewritten, asked_amid memory asked chain answered, ?_⟩
    intro plain readables tenant readable
    exact comparesAll_iff memory asked chain answered plain readable readables

end Enforcer

/-! ## Two reports in one -/

namespace TwoReports

open Enforcer

def enforcer : Enforcer Memory where
  config := { tenancy := { enabled := true }, operations := [("report", { tenant := true })] }
  tenants := .ofTenancy { enabled := true } .memory
  directory := Departments.directory ⟨[], []⟩

/-- A context of the user. -/
def context : Context := .start (.user ⟨"clerk", some "A", none, [], false⟩)

def statement : BoundStatement :=
  .start "report" .select "SELECT * FROM orders UNION SELECT * FROM invoices"

/-- Another context of the user switches the user to a tenant. -/
def toB : Elsewhere := ⟨context, some "B"⟩

/-- What is shared before the first statement, and the calls that others are about to make. -/
def fresh (calls : List (List Elsewhere)) : Shared (Memory × List (List Elsewhere)) :=
  ⟨.none, .empty, calls⟩

/-- The text that the statement runs as. -/
def rewritten (calls : List (List Elsewhere)) : Option String :=
  (((enforcer.amid.plan context statement).run.run (fresh calls)).1.toOption.bind id).map (·.result.sql)

/-- What is in force of the rule. -/
def rule : Rule := ⟨"report", true, none⟩

/-- What the enforcer is asked while the statement is planned, and what it answers. -/
def asked (calls : List (List Elsewhere)) : Transcript :=
  enforcer.amid.transcript context rule statement.sql (.empty, calls)

/-- Both reports are asked about and answered, whether the user is switched before or between them. -/
theorem asked_twice : ∀ calls ∈ [[[toB]], [[], [toB]]],
    ((asked calls).all fun entry => entry.2.isOk && enforcer.hasPlainTenants entry.1) = true ∧
      ((asked calls).filter fun entry => enforcer.restrictsAny entry.1.tables).length = 2 := by
  simp only [List.forall_mem_cons, List.not_mem_nil, false_implies, implies_true, and_true]
  constructor <;> decide +kernel

theorem readable (tenant : String) : enforcer.config.dialect.readable tenant = true :=
  readable_of_no_escapes rfl tenant

/-- The user is switched between the two reports, of which the one is compared with the tenant from before
and the other with the tenant from after: with no single tenant. -/
theorem switched_between :
    rewritten [[], [toB]] = some ("SELECT * FROM orders WHERE orders.tenant_id = 'A' UNION " ++
        "SELECT * FROM invoices WHERE invoices.tenant_id = 'B'") ∧
      ¬ ∃ tenant, enforcer.ComparesAll tenant (asked [[], [toB]]) := by
  refine ⟨by decide +kernel, ?_⟩
  rintro ⟨tenant, all⟩
  obtain ⟨checked, twice⟩ := asked_twice _ (.tail _ (.head _))
  simp only [List.all_eq_true, Bool.and_eq_true] at checked
  have answered : ∀ entry ∈ asked [[], [toB]], ∃ ps, entry.2 = .ok ps := by
    intro entry mem
    cases ok : entry.2 with
    | ok ps => exact ⟨ps, rfl⟩
    | error fault => exact absurd (checked entry mem).1 (by simp [ok, Except.isOk, Except.toBool])
  have same : ∀ i < ((asked [[], [toB]]).filter fun entry => enforcer.restrictsAny entry.1.tables).length,
      ((enforcer.tenants.effective context).run.run (enforcer.tenants.moment .empty [[], [toB]] i)).1 =
        .ok (some tenant) :=
    (comparesAll_iff rfl rfl
      (enforcer.amid.transcript_asked context rule statement.sql (.empty, [[], [toB]])).1 answered
      (fun entry mem => (checked entry mem).2) (readable tenant) fun _ _ other _ => readable other).mp all
  rw [twice] at same
  have before : (.ok (some "A") : Except Error (Option String)) = .ok (some tenant) := same 0 (by decide)
  have after : (.ok (some "B") : Except Error (Option String)) = .ok (some tenant) := same 1 (by decide)
  exact absurd (before.trans after.symm) (by decide)

/-- The user is switched before the first report, and both are compared with the new tenant. -/
theorem switched_before :
    rewritten [[toB]] = some ("SELECT * FROM orders WHERE orders.tenant_id = 'B' UNION " ++
        "SELECT * FROM invoices WHERE invoices.tenant_id = 'B'") ∧
      enforcer.ComparesAll "B" (asked [[toB]]) := by
  have texts : rewritten [[toB]] = some ("SELECT * FROM orders WHERE orders.tenant_id = 'B' UNION " ++
      "SELECT * FROM invoices WHERE invoices.tenant_id = 'B'") := by decide +kernel
  refine ⟨texts, ?_⟩
  obtain ⟨checked, twice⟩ := asked_twice _ (.head _)
  simp only [List.all_eq_true, Bool.and_eq_true] at checked
  have due : enforcer.TenantDue context statement .none rule :=
    ⟨by decide +kernel, rfl, rfl, rfl, nofun⟩
  have inForce : ((enforcer.due context statement).run .none).1 = some rule := by decide +kernel
  rcases planned : ((enforcer.amid.plan context statement).run.run (fresh [[toB]])).1 with _ | _ | p
  · rw [rewritten, planned] at texts
    cases texts
  · rw [rewritten, planned] at texts
    cases texts
  · obtain ⟨r, same, -, -, one⟩ := one_tenant_per_scope enforcer rfl context due .empty [[toB]] planned
    obtain rfl := Option.some.inj (inForce.symm.trans same)
    refine (one (fun entry mem => (checked entry mem).2) (fun _ _ other _ => readable other) "B"
      (readable "B")).mpr ?_
    change ∀ i < ((asked [[toB]]).filter fun entry => enforcer.restrictsAny entry.1.tables).length, _
    rw [twice]
    intro i small
    match i, small with
    | 0, _ => rfl
    | 1, _ => rfl

end TwoReports

end RowAccess
