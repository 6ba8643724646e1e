import RowAccess.Proofs.Supply
import RowAccess.Proofs.Transcript
import RowAccess.Script.Run
/-!
# A statement without a tenant does not run

Where tenants are in force for a statement, the enforcer is asked about scopes while the statement is
rewritten. As soon as one of them holds a table that belongs to tenants, the tenant must be known: without
it planning fails, hooks leave the statement as it was, and no part of the work that is done by then shows.
With a tenant, each such table of each scope is compared with it once.
-/

namespace RowAccess

open Sql Sql.Parser

variable {σ : Type}

/-! ## Statements that a hook is given -/

namespace Enforcing

/-- The statement as it is held after a hook, and why the hook failed if it did. -/
def held (run : BoundStatement → Enforcing σ BoundStatement) (s : BoundStatement) :
    StateM (Shared σ) (BoundStatement × Option Error) := fun shared =>
  match (run s).run.run shared with
  | (.ok after, shared) => ((after, none), shared)
  | (.error fault, shared) => ((s, some fault), shared)

/-- What is held after a hook is what the hook answers, or the statement as it was with the fault. -/
theorem held_run (run : BoundStatement → Enforcing σ BoundStatement) (s : BoundStatement) (shared : Shared σ) :
    (held run s).run shared =
      ((match ((run s).run.run shared).1 with
        | .ok after => (after, none)
        | .error fault => (s, some fault)), ((run s).run.run shared).2) := by
  change (match (run s).run.run shared with
    | (.ok after, shared) => (((after, none), shared) : (BoundStatement × Option Error) × Shared σ)
    | (.error fault, shared) => ((s, some fault), shared)) = _
  rcases (run s).run.run shared with ⟨_ | _, _⟩ <;> rfl

theorem held_error {run : BoundStatement → Enforcing σ BoundStatement} {s : BoundStatement}
    {shared : Shared σ} {fault : Error} (failed : ((run s).run.run shared).1 = .error fault) :
    ((held run s).run shared).1 = (s, some fault) := by
  rw [held_run, failed]

end Enforcing

/-- A script answers the statement as it is held after a hook, and keeps it where the hook failed. -/
theorem Script.hook_held (run : BoundStatement → Enforcing Memory BoundStatement) {target : Target}
    {w : World} {s : BoundStatement} (found : w.statement? target = some s) :
    (hook run target).run w =
      let ((after, fault), shared) := (Enforcing.held run s).run w.shared
      (.statement after fault,
        if fault.isSome then { w with shared } else { w with shared }.putStatement target after) := by
  change hook run target w = _
  rw [hook_run, found]
  rcases h : (run s).run.run w.shared with ⟨fault | after, shared⟩ <;>
    simp only [StateT.run, ExceptT.run] at h <;>
    simp [enforcing, Enforcing.held, StateT.run, ExceptT.run, h]

namespace Enforcer

variable (e : Enforcer σ)

/-! ## When tenants are in force -/

/-- The tenant must be dealt with for a statement: the rule declared for it asks for that, tenancy is
enabled, and the concern is neither suppressed nor dealt with before. -/
structure TenantDue (ctx : Context) (s : BoundStatement) (lookups : Lookups) (r : Rule) : Prop where
  declared : ((e.declared s.operation).run lookups).1 = some r
  asked : r.tenant = true
  enabled : e.tenants.enabled = true
  unsuppressed : ctx.isSuppressed .tenant = false
  pending : .tenant ∉ s.applied

theorem filter_tenant {r : Rule} (keeps : Concern → Bool) (asked : r.tenant = true)
    (keep : keeps .tenant = true) : ∃ r', r.filter keeps = some r' ∧ r'.tenant = true := by
  have kept : (r.tenant && keeps .tenant) = true := by rw [asked, keep]; rfl
  refine ⟨{ r with tenant := r.tenant && keeps .tenant
                   data := if keeps .dataPermission then r.data else none }, ?_, kept⟩
  rw [Rule.filter, Rule.concerns, kept]
  rfl

/-- What is then in force of the rule restricts to a tenant. -/
theorem TenantDue.due {e : Enforcer σ} {ctx : Context} {s : BoundStatement} {lookups : Lookups} {r : Rule}
    (h : e.TenantDue ctx s lookups r) :
    ∃ r', ((e.due ctx s).run lookups).1 = some r' ∧ r'.tenant = true := by
  obtain ⟨inForce, found, asked⟩ := filter_tenant
    (fun c => e.isEnabled c && !ctx.isSuppressed c) h.asked (by
      rw [h.unsuppressed, Bool.not_false, Bool.and_true]
      exact h.enabled)
  obtain ⟨r', found', asked'⟩ := filter_tenant (fun c => !s.applied.contains c) asked
    (by simpa using h.pending)
  refine ⟨r', ?_, asked'⟩
  change (((e.declared s.operation).run lookups).1.bind (e.inForce ctx)).bind _ = some r'
  rw [h.declared, Option.bind_some, Enforcer.inForce, found, Option.bind_some, found']

/-! ## Plans -/

/-- A plan looks for what is due, and rewrites under that. -/
theorem plan_steps (ctx : Context) (s : BoundStatement) (shared : Shared σ) :
    (e.plan ctx s).run.run shared =
      (match ((e.due ctx s).run shared.lookups).1 with
        | none => (pure none : Enforcing σ (Option Plan))
        | some r => do
          let result ← Enforcing.storing (rewrite e.config.dialect (e.predicates ctx r) s.sql)
          return some ⟨result, r.concerns⟩).run.run
        { shared with lookups := ((e.due ctx s).run shared.lookups).2 } := rfl

/-- A plan is what the rewriting under the rule in force comes to. -/
theorem plan_run {ctx : Context} {s : BoundStatement} {shared : Shared σ} {r : Rule}
    (due : ((e.due ctx s).run shared.lookups).1 = some r) :
    (e.plan ctx s).run.run shared =
      (((rewrite e.config.dialect (e.predicates ctx r) s.sql).run.run shared.store).1.map fun result =>
          some ⟨result, r.concerns⟩,
        ⟨((e.due ctx s).run shared.lookups).2,
          ((rewrite e.config.dialect (e.predicates ctx r) s.sql).run.run shared.store).2⟩) := by
  have stored (shared : Shared σ) :
      (Enforcing.storing (rewrite e.config.dialect (e.predicates ctx r) s.sql)).run.run shared =
        (((rewrite e.config.dialect (e.predicates ctx r) s.sql).run.run shared.store).1,
          { shared with
            store := ((rewrite e.config.dialect (e.predicates ctx r) s.sql).run.run shared.store).2 }) := rfl
  rw [plan_steps, due]
  dsimp only
  rw [ExceptT.run_bind, StateT.run_bind, stored]
  rcases (rewrite e.config.dialect (e.predicates ctx r) s.sql).run.run shared.store with ⟨_ | _, _⟩ <;> rfl

theorem beforeQuery_error {ctx : Context} {s : BoundStatement} {shared : Shared σ} {fault : Error}
    (failed : ((e.plan ctx s).run.run shared).1 = .error fault) :
    ((e.beforeQuery ctx s).run.run shared).1 = .error fault := by
  rw [beforeQuery, ExceptT.run_bind, StateT.run_bind]
  rcases h : (e.plan ctx s).run.run shared with ⟨fault' | plan, shared'⟩
  · rw [h] at failed
    cases failed
    rfl
  · rw [h] at failed
    cases failed

/-! ## Scopes -/

/-- Whether a table is never restricted to a tenant: all tenants share it, or it belongs to the catalog. -/
def isExempt (t : Table) : Bool := t.isCatalog || e.config.tenancy.isGlobal t.baseName

theorem tenantColumn?_eq (t : Table) :
    e.tenantColumn? t = if e.isExempt t then none else e.config.tenancy.tenantColumn? t.baseName := by
  rw [tenantColumn?, isExempt, Config.Tenancy.tenantColumn?]
  cases t.isCatalog <;> cases e.config.tenancy.isGlobal t.baseName <;> rfl

theorem tenantColumn?_isSome (t : Table) : (e.tenantColumn? t).isSome = !e.isExempt t := by
  rw [tenantColumn?, isExempt, Config.Tenancy.tenantColumn?]
  cases t.isCatalog <;> cases e.config.tenancy.isGlobal t.baseName <;> rfl

theorem restrictsAny_iff {tables : List Table} :
    e.restrictsAny tables = true ↔ ∃ t ∈ tables, e.isExempt t = false := by
  simp only [restrictsAny, List.any_eq_true, tenantColumn?_isSome, Bool.not_eq_true']

variable {e} {ctx : Context} {r : Rule}

/-! ## Without a tenant -/

/-- A scope without tables of tenants is answered without a look at the store. -/
theorem predicates_shared {scope : Scope} (shared : e.restrictsAny scope.tables = false) (s : σ) :
    ((e.predicates ctx r scope).run.run s).2 = s := by
  have quiet : (if r.tenant then e.tenantPredicates ctx scope none scope.tables
      else pure []).run.run s = (.ok [], s) := by
    cases r.tenant with
    | false => rfl
    | true => exact e.tenantPredicates_shared ctx none s shared
  rw [predicates_eq, run_bind_ok quiet, run_lift_bind]
  split <;> rfl

/-- A scope with a table of tenants has no answer without a tenant. -/
theorem predicates_missing {scope : Scope} (asked : r.tenant = true)
    (needed : e.restrictsAny scope.tables = true) {fault : Error} {s s' : σ}
    (missing : (e.requireTenant ctx).run.run s = (.error fault, s')) :
    (e.predicates ctx r scope).run.run s = (.error fault, s') := by
  rw [predicates_eq, asked, if_pos rfl]
  exact run_bind_error (e.tenantPredicates_fails ctx missing needed)

/-- If it is asked about any such scope, the first of them fails. -/
theorem asked_missing (asked : r.tenant = true) {fault : Error} {s s₁ : σ}
    (missing : (e.requireTenant ctx).run.run s = (.error fault, s₁)) {t : Transcript} {s' : σ}
    (chain : Asked (e.predicates ctx r) s t s') :
    (∃ entry ∈ t, e.restrictsAny entry.1.tables = true) → ∃ scope, (scope, .error fault) ∈ t := by
  induction chain with
  | nil => rintro ⟨_, mem, -⟩; cases mem
  | @cons scope answer rest s₀ s₂ s₃ answered _ ih =>
    rintro ⟨entry, mem, needed⟩
    cases restricted : e.restrictsAny scope.tables with
    | true =>
      rw [predicates_missing asked restricted missing] at answered
      cases answered
      exact ⟨scope, .head _⟩
    | false =>
      have same : ((e.predicates ctx r scope).run.run s₀).2 = s₀ := predicates_shared restricted s₀
      rw [answered] at same
      rcases List.mem_cons.mp mem with rfl | mem
      · rw [restricted] at needed
        cases needed
      · obtain ⟨scope', mem'⟩ := ih (by rw [show s₂ = s₀ from same]; exact missing) ⟨entry, mem, needed⟩
        exact ⟨scope', .tail _ mem'⟩

/-! ## With a tenant -/

variable (e) in
/-- The predicate compares the column of a table that names the tenant with the tenant. Its condition is
what is read from the text of the comparison: the comparison itself, exactly if the tenant is readable. -/
structure Compares (tenant : String) (scope : Scope) (t : Table) (p : Predicate) : Prop where
  concern : p.concern = .tenant
  table : p.table = some t.baseName
  condition : ∃ column, e.config.tenancy.tenantColumn? t.baseName = some column ∧
    parseExpr e.config.dialect (equalText (qualify (scope.qualifierFor t) column) tenant) =
      some p.condition ∧
    ((Condition.equals (scope.qualifierFor t) column tenant).isPlain = true →
      (p.condition = equalExpr (scope.qualifierFor t) column tenant ↔
        e.config.dialect.readable tenant = true))

theorem readTenant_compares {scope : Scope} {tenant : String} {t : Table} {column : String}
    {p : Predicate} (restricted : e.tenantColumn? t = some column)
    (read : e.readTenant (t, .equals (scope.qualifierFor t) column tenant) = .ok p) :
    e.Compares tenant scope t p := by
  obtain ⟨concern, table, condition⟩ := e.readTenant_ok read
  rw [tenantColumn?_eq] at restricted
  split at restricted
  · cases restricted
  refine ⟨concern, table, column, restricted, condition, fun plain => ?_⟩
  have exact := Condition.parseExpr_text_iff e.config.dialect e.config.dataPermission.denyPredicate plain
    (List.cons_ne_nil _ _)
  rw [condition] at exact
  simpa [Condition.values, Condition.expr] using exact

/-- Each table of a scope that is not exempt has one predicate for the tenant, in the order of the
tables. -/
theorem compares_of_read {scope : Scope} {tenant : String} :
    ∀ {tables : List Table} {ps : List Predicate},
      (e.tenantConditions scope tenant tables).mapM e.readTenant = .ok ps →
      List.Forall₂ (e.Compares tenant scope) (tables.filter fun t => !e.isExempt t) ps
  | [], _, h => by
    cases h
    exact .nil
  | t :: tables, ps, h => by
    rw [tenantConditions, List.filterMap_cons] at h
    rw [List.filter_cons, ← tenantColumn?_isSome]
    cases restricted : e.tenantColumn? t with
    | none =>
      rw [restricted] at h
      exact compares_of_read h
    | some column =>
      rw [restricted] at h
      obtain ⟨p, ps', first, others, rfl⟩ := mapM_cons_ok h
      exact .cons (readTenant_compares restricted first) (compares_of_read others)

theorem mapM_ok_mem {α β : Type} {f : α → Except Error β} {as : List α} {bs : List β}
    (h : as.mapM f = .ok bs) : ∀ b ∈ bs, ∃ a ∈ as, f a = .ok b := by
  induction as generalizing bs with
  | nil =>
    cases h
    exact nofun
  | cons a as ih =>
    obtain ⟨b, bs', first, others, rfl⟩ := mapM_cons_ok h
    intro b' mem
    rcases List.mem_cons.mp mem with rfl | mem
    · exact ⟨a, .head _, first⟩
    · obtain ⟨a', mem', made⟩ := ih others b' mem
      exact ⟨a', .tail _ mem', made⟩

theorem dataPredicate?_concern {data : Config.DataRule} {qualifier table : Option String}
    {p : Predicate} (h : e.dataPredicate? ctx data qualifier table = .ok (some p)) :
    p.concern = .dataPermission := by
  rw [dataPredicate?] at h
  split at h
  · cases h
  · cases h
  · next text =>
    rw [predicate] at h
    split at h
    · cases h
      rfl
    · cases h

/-- The predicates for the data are marked as such. -/
theorem dataPredicates_concern {data : Config.DataRule} {scope : Scope} {ps : List Predicate}
    (h : e.dataPredicates ctx data scope = .ok ps) : ∀ p ∈ ps, p.concern = .dataPermission := by
  rw [dataPredicates] at h
  cases named : data.table with
  | some name =>
    rw [named] at h
    dsimp only at h
    rcases found : (scope.tables.filter fun t => t.isNamed name).mapM fun t =>
      e.dataPredicate? ctx data (scope.qualifierFor t) (some t.baseName) with _ | answers
    · rw [found] at h
      cases h
    · rw [found] at h
      cases h
      intro p mem
      obtain ⟨answer, mem', kept⟩ := List.mem_filterMap.mp mem
      obtain ⟨t, -, made⟩ := mapM_ok_mem found answer mem'
      rw [show answer = some p from kept] at made
      exact dataPredicate?_concern made
  | none =>
    rw [named] at h
    dsimp only at h
    split at h
    · rcases found : e.dataPredicate? ctx data none none with _ | answer
      · rw [found] at h
        cases h
      · rw [found] at h
        cases h
        intro p mem
        rw [Option.mem_toList.mp mem] at found
        exact dataPredicate?_concern found
    · cases h
      exact nofun

theorem data_concern {scope : Scope} {ps : List Predicate}
    (h : (r.data.elim (.ok []) fun data => e.dataPredicates ctx data scope) = .ok ps) :
    ∀ p ∈ ps, p.concern = .dataPermission := by
  cases data : r.data with
  | none =>
    rw [data] at h
    cases h
    exact nofun
  | some data' =>
    rw [data] at h
    exact dataPredicates_concern h

theorem requireTenant_quiet {s : σ} (quiet : ((e.tenants.effective ctx).run.run s).2 = s) :
    ((e.requireTenant ctx).run.run s).2 = s := by
  rcases h : (e.tenants.effective ctx).run.run s with ⟨fault | _ | tenant, s'⟩
  · rw [h] at quiet
    rw [requireTenant, run_bind_error h]
    exact quiet
  · rw [h] at quiet
    rw [requireTenant, run_bind_ok h]
    exact quiet
  · rw [h] at quiet
    rw [requireTenant, run_bind_ok h]
    exact quiet

/-- Where looking up the tenant leaves the store as it is, so does answering a scope. -/
theorem predicates_quiet {s : σ} (quiet : ((e.tenants.effective ctx).run.run s).2 = s) (scope : Scope) :
    ((e.predicates ctx r scope).run.run s).2 = s := by
  have kept : ((if r.tenant then e.tenantPredicates ctx scope none scope.tables
      else pure []).run.run s).2 = s := by
    cases r.tenant with
    | false => rfl
    | true =>
      have required := requireTenant_quiet quiet
      rw [if_pos rfl]
      rcases found : (e.requireTenant ctx).run.run s with ⟨fault | tenant, s'⟩
      · rw [found] at required
        cases needed : e.restrictsAny scope.tables with
        | false => rw [e.tenantPredicates_shared ctx none s needed]
        | true =>
          rw [e.tenantPredicates_fails ctx found needed]
          exact required
      · rw [found] at required
        obtain rfl : s' = s := required
        rw [e.tenantPredicates_quiet ctx found scope.tables]
  rw [predicates_eq]
  rcases asked : (if r.tenant then e.tenantPredicates ctx scope none scope.tables
      else pure []).run.run s with ⟨fault | forTenant, s'⟩
  · rw [asked] at kept
    rw [run_bind_error asked]
    exact kept
  · rw [asked] at kept
    rw [run_bind_ok asked, run_lift_bind]
    split <;> exact kept

/-- Each scope is then answered from the same store. -/
theorem asked_quiet {s : σ} (quiet : ((e.tenants.effective ctx).run.run s).2 = s) {t : Transcript} {s' : σ}
    (chain : Asked (e.predicates ctx r) s t s') :
    ∀ entry ∈ t, (e.predicates ctx r entry.1).run.run s = (entry.2, s) := by
  induction chain with
  | nil => exact nofun
  | @cons scope answer rest s₀ s₂ s₃ answered _ ih =>
    have same := predicates_quiet (r := r) quiet scope
    rw [answered] at same
    obtain rfl : s₂ = s₀ := same
    intro entry mem
    rcases List.mem_cons.mp mem with rfl | mem
    · exact answered
    · exact ih quiet entry mem

/-- The predicates of a scope are the comparisons of its tables with the tenant, and after them those for
the data. -/
theorem predicates_compare {tenant : String} {s : σ} (asked : r.tenant = true)
    (found : (e.requireTenant ctx).run.run s = (.ok tenant, s)) {scope : Scope} {ps : List Predicate}
    (answered : (e.predicates ctx r scope).run.run s = (.ok ps, s)) :
    ∃ forTenant forData, ps = forTenant ++ forData ∧
      List.Forall₂ (e.Compares tenant scope) (scope.tables.filter fun t => !e.isExempt t) forTenant ∧
      ∀ p ∈ forData, p.concern = .dataPermission := by
  obtain ⟨forTenant, forData, rfl, first, second⟩ := e.predicates_ok ctx answered
  rw [asked, if_pos rfl] at first
  have only (t : String) (s' : σ) (found' : (e.requireTenant ctx).run.run s = (.ok t, s')) : t = tenant := by
    rw [found] at found'
    cases found'
    rfl
  exact ⟨forTenant, forData, rfl, compares_of_read (e.tenantPredicates_ok ctx only first),
    data_concern second⟩

variable (e) in
/-- What the enforcer is asked, and what it answers, while a text is rewritten under a rule. -/
def transcript (ctx : Context) (r : Rule) (sql : String) (s : σ) : Transcript :=
  ((rewriteWith (.ofDialect e.config.dialect) (transcribing (e.predicates ctx r)) sql).run.run (s, [])).2.2

theorem transcript_asked (e : Enforcer σ) (ctx : Context) (r : Rule) (sql : String) (s : σ) :
    Asked (e.predicates ctx r) s (e.transcript ctx r sql s)
        ((rewrite e.config.dialect (e.predicates ctx r) sql).run.run s).2 ∧
      ∀ scope fault, (scope, .error fault) ∈ e.transcript ctx r sql s →
        ((rewrite e.config.dialect (e.predicates ctx r) sql).run.run s).1 = .error fault := by
  obtain ⟨t, same, chain, faults⟩ :=
    rewriteWith_transcribed (.ofDialect e.config.dialect) (e.predicates ctx r) sql s
  rw [transcript, same]
  exact ⟨chain, faults⟩

end Enforcer

/-- Why there is no tenant, if there is none. -/
def Tenants.missing? : Except Error (Option String) → Option Error
  | .ok (some _) => none
  | .ok none => some .missingTenant
  | .error fault => some fault

namespace Enforcer

variable {e : Enforcer σ} {ctx : Context}

theorem requireTenant_missing {fault : Error} {s : σ}
    (missing : Tenants.missing? ((e.tenants.effective ctx).run.run s).1 = some fault) :
    ∃ s', (e.requireTenant ctx).run.run s = (.error fault, s') := by
  rcases h : (e.tenants.effective ctx).run.run s with ⟨fault' | _ | tenant, s'⟩
  · rw [h] at missing
    cases missing
    exact ⟨s', run_bind_error h⟩
  · rw [h] at missing
    cases missing
    exact ⟨s', run_bind_ok h⟩
  · rw [h] at missing
    cases missing

/-! ## Failing closed -/

/-- Where the tenant must be dealt with for a statement and is not known, planning the statement fails as
soon as the enforcer is asked about a scope with a table that is not exempt, and the hooks that plan it
leave it as it is. Where it is known and planning succeeds, the enforcer has answered for each scope one
comparison for each table that is not exempt, in order, and after them the predicates for the data. -/
theorem fails_closed (e : Enforcer σ) (ctx : Context) {s : BoundStatement} (shared : Shared σ) {r : Rule}
    (inForce : e.TenantDue ctx s shared.lookups r) :
    ∃ r', ((e.due ctx s).run shared.lookups).1 = some r' ∧
      (∀ fault, Tenants.missing? ((e.tenants.effective ctx).run.run shared.store).1 = some fault →
        (∃ entry ∈ e.transcript ctx r' s.sql shared.store, ∃ t ∈ entry.1.tables, e.isExempt t = false) →
        ((e.plan ctx s).run.run shared).1 = .error fault ∧
          ((Enforcing.held (e.beforeQuery ctx) s).run shared).1 = (s, some fault) ∧
          (s.command = .update ∨ s.command = .delete →
            ((Enforcing.held (e.beforePrepare ctx) s).run shared).1 = (s, some fault))) ∧
      ∀ tenant, (e.tenants.effective ctx).run.run shared.store = (.ok (some tenant), shared.store) →
        ∀ p, ((e.plan ctx s).run.run shared).1 = .ok (some p) →
        ∀ entry ∈ e.transcript ctx r' s.sql shared.store, ∃ forTenant forData,
          entry.2 = .ok (forTenant ++ forData) ∧
          List.Forall₂ (e.Compares tenant entry.1) (entry.1.tables.filter fun t => !e.isExempt t)
            forTenant ∧
          ∀ p ∈ forData, p.concern = .dataPermission := by
  obtain ⟨r', due, asked⟩ := inForce.due
  obtain ⟨chain, faults⟩ := e.transcript_asked ctx r' s.sql shared.store
  refine ⟨r', due, ?_, ?_⟩
  · rintro fault missing ⟨entry, mem, needed⟩
    obtain ⟨s', missing⟩ := requireTenant_missing missing
    obtain ⟨scope, failed⟩ := asked_missing asked missing chain
      ⟨entry, mem, e.restrictsAny_iff.mpr needed⟩
    have planned : ((e.plan ctx s).run.run shared).1 = .error fault := by
      rw [e.plan_run due, faults scope fault failed]
      rfl
    have failed := e.beforeQuery_error planned
    refine ⟨planned, Enforcing.held_error failed, fun command => Enforcing.held_error ?_⟩
    rw [beforePrepare]
    rcases command with command | command <;>
      · rw [command]
        exact failed
  · intro tenant known p planned entry mem
    have found : (e.requireTenant ctx).run.run shared.store = (.ok tenant, shared.store) := run_bind_ok known
    have answered := asked_quiet (by rw [known]) chain entry mem
    obtain ⟨scope, fault | ps⟩ := entry
    · rw [e.plan_run due, faults scope fault mem] at planned
      cases planned
    · obtain ⟨forTenant, forData, rfl, compares⟩ := predicates_compare asked found answered
      exact ⟨forTenant, forData, rfl, compares⟩

end Enforcer

/-! ## An update -/

/-- Updates of orders are restricted to a tenant, except where they name a table that all tenants share. -/
def orderRules : Enforcer Memory where
  config := { tenancy := { enabled := true, globalTables := ["regions"] }
              operations := [("orders.update", { tenant := true })] }
  tenants := .ofTenancy { enabled := true, globalTables := ["regions"] } .memory
  directory := Departments.directory ⟨[], []⟩

namespace OrderUpdate

/-- An update that reads a shared table in a subquery before it reaches its own. -/
def statement : BoundStatement := .start "orders.update" .update
  "UPDATE orders SET tax = (SELECT rate FROM regions) WHERE id = 1"

/-- What is shared before the first statement. -/
def fresh : Shared Memory := ⟨.none, .empty⟩

/-- The rule of the update. -/
def rule : Rule := ⟨"orders.update", true, none⟩

theorem tenantDue {ctx : Context} (unsuppressed : ctx.isSuppressed .tenant = false) :
    orderRules.TenantDue ctx statement fresh.lookups rule where
  declared := by decide +kernel
  asked := rfl
  enabled := rfl
  unsuppressed := unsuppressed
  pending := nofun

/-- Without a tenant the update fails after the shared table has been dealt with, and it is held as it
was. With a tenant it can be planned, and its own table alone is compared. -/
theorem needs_tenant :
    ((Enforcing.held (orderRules.beforePrepare (.start .anonymous)) statement).run fresh).1 =
        (statement, some .missingTenant) ∧
      (orderRules.transcript (contextOf "t1") rule statement.sql .empty).map (·.1.tables) =
        [[⟨"regions", none⟩], [⟨"orders", none⟩]] ∧
      ∀ entry ∈ orderRules.transcript (contextOf "t1") rule statement.sql .empty,
        ∃ forTenant forData, entry.2 = .ok (forTenant ++ forData) ∧
          List.Forall₂ (orderRules.Compares "t1" entry.1)
            (entry.1.tables.filter fun t => !orderRules.isExempt t) forTenant ∧
          ∀ p ∈ forData, p.concern = .dataPermission := by
  have due : ∀ ctx ∈ [Context.start .anonymous, contextOf "t1"],
      ((orderRules.due ctx statement).run fresh.lookups).1 = some rule := by
    simp only [List.forall_mem_cons, List.not_mem_nil, false_implies, implies_true, and_true]
    constructor <;> decide +kernel
  refine ⟨?_, by decide +kernel, ?_⟩
  · obtain ⟨r, same, fails, -⟩ := orderRules.fails_closed (.start .anonymous) fresh
      (tenantDue rfl)
    obtain rfl := Option.some.inj ((due _ (.head _)).symm.trans same)
    have needed : ((orderRules.transcript (.start .anonymous) rule statement.sql .empty).any fun entry =>
        entry.1.tables.any fun t => !orderRules.isExempt t) = true := by decide +kernel
    simp only [List.any_eq_true, Bool.not_eq_true'] at needed
    exact (fails .missingTenant (by decide +kernel) needed).2.2 (.inl rfl)
  · obtain ⟨r, same, -, compares⟩ := orderRules.fails_closed (contextOf "t1") fresh
      (tenantDue rfl)
    obtain rfl := Option.some.inj ((due _ (.tail _ (.head _))).symm.trans same)
    have switched : Text.nonBlank (contextOf "t1").localTenant = some "t1" := by decide +kernel
    have planned : (((orderRules.plan (contextOf "t1") statement).run.run fresh).1.toOption.bind
        id).isSome = true := by decide +kernel
    rcases h : ((orderRules.plan (contextOf "t1") statement).run.run fresh).1 with _ | _ | p
    · rw [h] at planned
      cases planned
    · rw [h] at planned
      cases planned
    · exact compares "t1" (orderRules.tenants.effective_switched rfl switched _) p h

end OrderUpdate

end RowAccess
