import RowAccess.Enforcer.Basic
import RowAccess.Proofs.Reading.Exact
/-!
# Conditions with values of a caller

The conditions that restrict a caller are written as texts, with the caller's tenant, departments or id
as string literals, and read again. What is read is the condition meant exactly if each value is
`readable` in the dialect: always where a backslash escapes nothing, and otherwise if no backslash of
the value is taken for an escape.
-/

namespace RowAccess

open Sql Sql.Parser

/-- A condition on a column, as it is meant. -/
inductive Condition where
  | equals (qualifier : Option String) (column value : String)
  | among (qualifier : Option String) (column : String) (values : List String)
deriving DecidableEq, Repr, Inhabited

namespace Condition

/-- The values that the condition names. -/
def values : Condition → List String
  | equals _ _ value => [value]
  | among _ _ values => values

/-- The words of the column's name. -/
def names : Condition → List String
  | equals qualifier column _ => qualifier.toList ++ [column]
  | among qualifier column _ => qualifier.toList ++ [column]

/-- Whether the column and its qualifier are plain names. -/
def isPlain (c : Condition) : Bool := c.names.all isPlainName

/-- The condition as it is written. -/
def text (deny : String) : Condition → String
  | equals qualifier column value => equalText (qualify qualifier column) value
  | among qualifier column values => memberText deny (qualify qualifier column) values

/-- The condition as a tree. -/
def expr : Condition → Expr
  | equals qualifier column value => equalExpr qualifier column value
  | among qualifier column values => memberExpr qualifier column values

/-! ## Reading a condition -/

/-- A text is read as an expression if its tokens are, up to the last one. -/
theorem parseExpr_eq_some {d : Dialect} {sql : String} {e : Expr} :
    parseExpr d sql = some e ↔
      ∃ ts, Lexer.lexemes d sql = some ts ∧ (ordinary d 50).expr ts = .ok (e, []) := by
  rw [parseExpr, Option.bind_eq_bind, Option.bind_eq_some_iff]
  refine exists_congr fun ts => and_congr_right fun _ => ?_
  have whole : grammar d = ordinary d 50 := rfl
  rw [whole]
  constructor
  · intro h
    split at h
    · next read =>
      cases h
      exact read
    · cases h
  · intro read
    rw [read]

/-- A condition is read as it is meant exactly if its values are readable. -/
theorem parseExpr_text_iff (d : Dialect) (deny : String) {c : Condition} (plain : c.isPlain = true)
    (nonempty : c.values ≠ []) :
    parseExpr d (c.text deny) = some c.expr ↔ ∀ v ∈ c.values, d.readable v = true := by
  rw [parseExpr_eq_some]
  cases c with
  | equals qualifier column value =>
    obtain ⟨hq, hc, free⟩ := words_of_plain plain
    constructor
    · rintro ⟨ts, lexed, read⟩ v mem
      rw [List.mem_singleton.mp mem]
      by_contra unreadable
      obtain ⟨w, gap, more, misread, rfl⟩ := lexemes_equalText_misread d hq hc unreadable lexed
      exact expr_equals_misread (n := 48) free misread read
    · intro readable
      exact ⟨_, lexemes_equalText d hq hc (readable value (.head _)), expr_equals (n := 48) free value⟩
  | among qualifier column values =>
    obtain ⟨hq, hc, free⟩ := words_of_plain plain
    constructor
    · rintro ⟨ts, lexed, read⟩
      obtain ⟨members, known, rfl⟩ := lexemes_memberText_members d hq hc deny nonempty lexed
      exact expr_members_readable (n := 48) free known read
    · intro readable
      exact ⟨_, lexemes_memberText d hq hc deny nonempty readable,
        expr_members (n := 48) free nonempty⟩

end Condition

/-! ## The conditions of roles -/

/-- The condition for the rows that a role opens, as it is meant. -/
def Config.DataRule.condition? (rule : Config.DataRule) (directory : Directory) (session : Session)
    (qualifier : Option String) (role : Role) : Except String (Option Condition) :=
  match role.dataScope with
  | .all => .ok none
  | .custom =>
    match rule.deptColumn with
    | some column => do return some (.among qualifier column (← directory.assigned role.id))
    | none => .ok none
  | .dept => .ok do return .equals qualifier (← rule.deptColumn) (← session.deptId)
  | .deptAndChild =>
    match rule.deptColumn, session.deptId with
    | some column, some d => do return some (.among qualifier column (← directory.subtree d))
    | _, _ => .ok none
  | .selfOnly => .ok do return .equals qualifier (← rule.userColumn) (← session.userId)

theorem Config.DataRule.roleText?_eq (rule : Config.DataRule) (directory : Directory) (deny : String)
    (session : Session) (qualifier : Option String) (role : Role) :
    rule.roleText? directory deny session qualifier role =
      (rule.condition? directory session qualifier role).map (Option.map (Condition.text deny)) := by
  unfold roleText? condition?
  cases role.dataScope with
  | all => rfl
  | custom =>
    cases rule.deptColumn with
    | none => rfl
    | some column => cases directory.assigned role.id <;> rfl
  | dept => cases rule.deptColumn <;> cases session.deptId <;> rfl
  | deptAndChild =>
    cases rule.deptColumn with
    | none => rfl
    | some column =>
      cases session.deptId with
      | none => rfl
      | some dept =>
        change (directory.subtree dept >>= _) = Except.map _ (directory.subtree dept >>= _)
        cases directory.subtree dept <;> rfl
  | selfOnly => cases rule.userColumn <;> cases session.userId <;> rfl

/-! ## The conditions of tenants -/

namespace Enforcer

variable {σ : Type}

/-- The conditions that restrict tables of a scope to a tenant, each with its table. -/
def tenantConditions (e : Enforcer σ) (scope : Scope) (tenant : String) (tables : List Table) :
    List (Table × Condition) :=
  tables.filterMap fun t =>
    (e.tenantColumn? t).map fun column => (t, .equals (scope.qualifierFor t) column tenant)

/-- The predicate of a condition that restricts a table to a tenant, from the text of the condition. -/
def readTenant (e : Enforcer σ) (c : Table × Condition) : Except Error Predicate :=
  e.predicate .tenant (some c.1.baseName) (c.2.text e.config.dataPermission.denyPredicate)

/-- The same as it is meant. -/
def meantTenant (c : Table × Condition) : Predicate := ⟨.tenant, some c.1.baseName, c.2.expr⟩

theorem run_bind_ok {α β : Type} {m : Stored σ α} {f : α → Stored σ β} {a : α} {s s' : σ}
    (h : m.run.run s = (.ok a, s')) : (m >>= f).run.run s = (f a).run.run s' := by
  rw [ExceptT.run_bind, StateT.run_bind, h]
  rfl

theorem run_lift_bind {α β : Type} (m : Except Error α) (f : α → Stored σ β) (s : σ) :
    ((liftM m : Stored σ α) >>= f).run.run s =
      match m with
      | .error fault => (.error fault, s)
      | .ok a => (f a).run.run s := by
  cases m <;> rfl

/-- A first table has a predicate exactly if it has a column for the tenant. -/
theorem tenantPredicates_first (e : Enforcer σ) (ctx : Context) (scope : Scope) (known : Option String)
    (t : Table) (tables : List Table) :
    e.tenantPredicates ctx scope known (t :: tables) =
      match e.tenantColumn? t with
      | none => e.tenantPredicates ctx scope known tables
      | some column => do
        let tenant ← match known with
          | some tenant => pure tenant
          | none => e.requireTenant ctx
        let text := equalText (qualify (scope.qualifierFor t) column) tenant
        let p ← e.predicate .tenant (some t.baseName) text
        return p :: (← e.tenantPredicates ctx scope (some tenant) tables) :=
  (tenantPredicates.eq_def e ctx scope known (t :: tables)).trans rfl

/-- The predicates of the tables after one that is restricted are found with the tenant known. -/
theorem tenantPredicates_cons (e : Enforcer σ) (ctx : Context) (scope : Scope) {known : Option String}
    {t : Table} {column tenant : String} (tables : List Table) {s s' : σ}
    (restricted : e.tenantColumn? t = some column)
    (found : (known.elim (e.requireTenant ctx) pure).run.run s = (.ok tenant, s')) :
    (e.tenantPredicates ctx scope known (t :: tables)).run.run s =
      match e.readTenant (t, .equals (scope.qualifierFor t) column tenant) with
      | .error fault => (.error fault, s')
      | .ok p =>
        let rest := (e.tenantPredicates ctx scope (some tenant) tables).run.run s'
        (rest.1.map (p :: ·), rest.2) := by
  have continued : (((liftM (e.readTenant (t, .equals (scope.qualifierFor t) column tenant)) :
        Stored σ Predicate) >>= fun p => do
          return p :: (← e.tenantPredicates ctx scope (some tenant) tables)).run.run s') =
      match e.readTenant (t, .equals (scope.qualifierFor t) column tenant) with
      | .error fault => (.error fault, s')
      | .ok p =>
        let rest := (e.tenantPredicates ctx scope (some tenant) tables).run.run s'
        (rest.1.map (p :: ·), rest.2) := by
    rw [run_lift_bind]
    cases e.readTenant (t, .equals (scope.qualifierFor t) column tenant) with
    | error fault => rfl
    | ok p =>
      dsimp only
      rw [ExceptT.run_bind, StateT.run_bind]
      rcases (e.tenantPredicates ctx scope (some tenant) tables).run.run s' with ⟨_ | _, _⟩ <;> rfl
  rw [tenantPredicates_first, restricted, ← continued]
  cases known with
  | none => exact run_bind_ok found
  | some tenant' => exact run_bind_ok found

theorem tenantPredicates_known (e : Enforcer σ) (ctx : Context) (scope : Scope) (tenant : String)
    (tables : List Table) (s : σ) :
    (e.tenantPredicates ctx scope (some tenant) tables).run.run s =
      ((e.tenantConditions scope tenant tables).mapM e.readTenant, s) := by
  induction tables with
  | nil => rfl
  | cons t tables ih =>
    rw [tenantConditions, List.filterMap_cons]
    cases restricted : e.tenantColumn? t with
    | none =>
      rw [tenantPredicates_first, restricted]
      exact ih
    | some column =>
      rw [tenantPredicates_cons e ctx scope tables restricted rfl, Option.map_some, List.mapM_cons, ih]
      cases e.readTenant (t, .equals (scope.qualifierFor t) column tenant) <;> rfl

/-- The predicates for a tenant are read from the conditions meant, if the tenant is known or found. -/
theorem tenantPredicates_run (e : Enforcer σ) (ctx : Context) (scope : Scope) {tenant : String}
    {s s' : σ} (found : (e.requireTenant ctx).run.run s = (.ok tenant, s')) :
    ∀ tables : List Table, e.tenantConditions scope tenant tables ≠ [] →
      (e.tenantPredicates ctx scope none tables).run.run s =
        ((e.tenantConditions scope tenant tables).mapM e.readTenant, s')
  | [], needed => absurd rfl needed
  | t :: tables, needed => by
    rw [tenantConditions, List.filterMap_cons] at needed ⊢
    cases restricted : e.tenantColumn? t with
    | none =>
      rw [restricted] at needed
      rw [tenantPredicates_first, restricted]
      exact tenantPredicates_run e ctx scope found tables needed
    | some column =>
      have first : ((none : Option String).elim (e.requireTenant ctx) pure).run.run s =
          (.ok tenant, s') := found
      rw [tenantPredicates_cons e ctx scope tables restricted first, Option.map_some, List.mapM_cons,
        tenantPredicates_known]
      cases e.readTenant (t, .equals (scope.qualifierFor t) column tenant) <;> rfl

/-- The predicate read is the one meant exactly if the condition is read as it is meant. -/
theorem readTenant_eq_meant (e : Enforcer σ) (c : Table × Condition) :
    e.readTenant c = .ok (meantTenant c) ↔
      parseExpr e.config.dialect (c.2.text e.config.dataPermission.denyPredicate) = some c.2.expr := by
  rw [readTenant, predicate]
  cases parseExpr e.config.dialect (c.2.text e.config.dataPermission.denyPredicate) <;>
    simp [meantTenant]

end Enforcer

theorem mapM_eq_map {α β : Type} (f : α → Except Error β) (g : α → β) (as : List α) :
    as.mapM f = .ok (as.map g) ↔ ∀ a ∈ as, f a = .ok (g a) := by
  induction as with
  | nil => simp [pure, Except.pure]
  | cons a as ih =>
    rw [List.mapM_cons, List.forall_mem_cons, ← ih]
    cases f a with
    | error e => constructor <;> simp [bind, Except.bind]
    | ok b =>
      change ((as.mapM f >>= fun bs => pure (b :: bs)) = _) ↔ _
      cases as.mapM f with
      | error e => constructor <;> simp [bind, Except.bind]
      | ok bs => simp [bind, Except.bind, pure, Except.pure]

/-! ## Fidelity -/

/-- The conditions that restrict a caller are read as they are meant exactly if the values in them are
readable in the dialect: those on the tenant in a scope, and those on the departments or the user of a
role. -/
theorem Enforcer.conditions_read_back_iff {σ : Type} (e : Enforcer σ) (ctx : Context) :
    (∀ (scope : Scope) (tables : List Table) (tenant : String) (s s' : σ),
      (e.requireTenant ctx).run.run s = (.ok tenant, s') →
      e.tenantConditions scope tenant tables ≠ [] →
      (∀ c ∈ e.tenantConditions scope tenant tables, c.2.isPlain = true) →
      ((e.tenantPredicates ctx scope none tables).run.run s =
          (.ok ((e.tenantConditions scope tenant tables).map meantTenant), s') ↔
        e.config.dialect.readable tenant = true)) ∧
    ∀ (rule : Config.DataRule) (deny : String) (qualifier : Option String) (role : Role) (c : Condition),
      rule.condition? e.directory ctx.session qualifier role = .ok (some c) →
      c.isPlain = true → c.values ≠ [] →
      ∃ text, rule.roleText? e.directory deny ctx.session qualifier role = .ok (some text) ∧
        (parseExpr e.config.dialect text = some c.expr ↔
          ∀ v ∈ c.values, e.config.dialect.readable v = true) := by
  constructor
  · intro scope tables tenant s s' found needed plain
    have values : ∀ c ∈ e.tenantConditions scope tenant tables, c.2.values = [tenant] := by
      intro c mem
      obtain ⟨t, -, made⟩ := List.mem_filterMap.mp mem
      obtain ⟨column, -, rfl⟩ := Option.map_eq_some_iff.mp made
      rfl
    have each : ∀ c ∈ e.tenantConditions scope tenant tables,
        (e.readTenant c = .ok (meantTenant c) ↔ e.config.dialect.readable tenant = true) := by
      intro c mem
      rw [readTenant_eq_meant, Condition.parseExpr_text_iff _ _ (plain c mem) (by simp [values c mem]),
        values c mem]
      simp
    rw [tenantPredicates_run e ctx scope found tables needed, Prod.mk.injEq, mapM_eq_map]
    constructor
    · rintro ⟨reads, -⟩
      obtain ⟨c, mem⟩ := List.exists_mem_of_ne_nil _ needed
      exact (each c mem).mp (reads c mem)
    · intro readable
      exact ⟨fun c mem => (each c mem).mpr readable, rfl⟩
  · intro rule deny qualifier role c meant plain nonempty
    refine ⟨c.text deny, ?_, c.parseExpr_text_iff _ deny plain nonempty⟩
    rw [Config.DataRule.roleText?_eq, meant]
    rfl

/-- The tenant that a context was switched to is the effective one, whatever the store holds. -/
theorem Tenants.effective_switched {σ : Type} (t : Tenants σ) {ctx : Context} {tenant : String}
    (enabled : t.enabled = true) (switched : Text.nonBlank ctx.localTenant = some tenant) (s : σ) :
    (t.effective ctx).run.run s = (.ok (some tenant), s) := by
  have dynamic : (t.dynamic ctx).run.run s = (.ok (some tenant), s) := by
    rw [Tenants.dynamic, enabled, switched]
    rfl
  rw [Tenants.effective, enabled]
  exact Enforcer.run_bind_ok dynamic

/-- It is also the one required. -/
theorem Enforcer.requireTenant_switched {σ : Type} (e : Enforcer σ) {ctx : Context} {tenant : String}
    (enabled : e.tenants.enabled = true) (switched : Text.nonBlank ctx.localTenant = some tenant) (s : σ) :
    (e.requireTenant ctx).run.run s = (.ok tenant, s) :=
  run_bind_ok (e.tenants.effective_switched enabled switched s)

/-- Rules over tenants and owners in the dialect in which a backslash escapes. -/
def escaping : Enforcer Memory where
  config := { dialect := .mysql, tenancy := { enabled := true } }
  tenants := .ofTenancy { enabled := true } .memory
  directory := Departments.directory ⟨[], []⟩

/-- The context of a user who was switched to a tenant. -/
def contextOf (tenant : String) : Context where
  session := .user ⟨"O'Brien", none, none, [], false⟩
  suppression := .idle
  localTenant := some tenant

/-- The scope of a query that reads one table. -/
def ordersScope : Scope := ⟨.select, .filter, [⟨"orders", none⟩], 1⟩

/-- The name of a tenant that ends its literal early where a backslash escapes. -/
def escapingTenant : String := "\\' OR 1 = 1 -- "

theorem escaping_conditions (tenant : String) :
    escaping.tenantConditions ordersScope tenant ordersScope.tables =
      [(⟨"orders", none⟩, .equals (some "orders") "tenant_id" tenant)] := by
  have column : escaping.tenantColumn? ⟨"orders", none⟩ = some "tenant_id" := by decide
  simp only [Enforcer.tenantConditions, ordersScope, List.filterMap_cons, column]
  rfl

theorem plain_conditions (tenant : String) :
    ∀ c ∈ escaping.tenantConditions ordersScope tenant ordersScope.tables, c.2.isPlain = true := by
  have plain : ["orders", "tenant_id"].all isPlainName = true := by decide
  rw [escaping_conditions]
  rintro _ (_ | ⟨_, ⟨⟩⟩)
  exact plain

/-- Whether the expression is satisfied as soon as either of its operands is. -/
def isDisjunction : Expr → Bool
  | .binary .or _ _ => true
  | _ => false

/-- The literal ends at the second quote, and what follows it is read as a condition of its own. -/
theorem escapingTenant_widens :
    ∃ e, parseExpr .mysql (equalText "orders.tenant_id" escapingTenant) = some e ∧
      isDisjunction e = true := by
  have written : equalText "orders.tenant_id" escapingTenant =
      "orders.tenant_id = '\\'' OR 1 = 1 -- '" := by decide
  have widened : (parseExpr .mysql "orders.tenant_id = '\\'' OR 1 = 1 -- '").any isDisjunction =
      true := by decide +kernel
  rw [written]
  exact Option.any_eq_true _ _ |>.mp widened

/-- Quotes in the names of a tenant and a user are read back. The name of a tenant with a backslash
before a quote is not, and its condition becomes one that other rows satisfy too. -/
theorem Enforcer.quotes_read_back :
    (escaping.tenantPredicates (contextOf "O'Brien") ordersScope none ordersScope.tables).run.run .empty =
        (.ok [⟨.tenant, some "orders", equalExpr (some "orders") "tenant_id" "O'Brien"⟩], .empty) ∧
      parseExpr .mysql "owner = 'O''Brien'" = some (equalExpr none "owner" "O'Brien") ∧
      (escaping.tenantPredicates (contextOf escapingTenant) ordersScope none
          ordersScope.tables).run.run .empty ≠
        (.ok [⟨.tenant, some "orders", equalExpr (some "orders") "tenant_id" escapingTenant⟩], .empty) ∧
      ∃ e, parseExpr .mysql (equalText "orders.tenant_id" escapingTenant) = some e ∧
        isDisjunction e = true := by
  have found (tenant : String) (h : Text.nonBlank (some tenant) = some tenant) :
      (escaping.requireTenant (contextOf tenant)).run.run .empty = (.ok tenant, .empty) :=
    escaping.requireTenant_switched rfl h _
  refine ⟨?_, ?_, ?_, escapingTenant_widens⟩
  · have reads := (escaping.conditions_read_back_iff (contextOf "O'Brien")).1 ordersScope
      ordersScope.tables "O'Brien" .empty .empty (found _ (by decide +kernel))
      (by rw [escaping_conditions]; exact List.cons_ne_nil _ _) (plain_conditions _)
    rw [escaping_conditions] at reads
    exact reads.mpr (by decide +kernel)
  · obtain ⟨text, same, reads⟩ := (escaping.conditions_read_back_iff (contextOf "O'Brien")).2
      { userColumn := some "owner" } "1 = 0" none ⟨"own", .selfOnly, []⟩ (.equals none "owner" "O'Brien")
      rfl (by decide +kernel) (List.cons_ne_nil _ _)
    have written : text = "owner = 'O''Brien'" := by
      cases same
      decide +kernel
    rw [← written]
    exact reads.mpr (by decide +kernel)
  · have reads := (escaping.conditions_read_back_iff (contextOf escapingTenant)).1 ordersScope
      ordersScope.tables escapingTenant .empty .empty (found _ (by decide +kernel))
      (by rw [escaping_conditions]; exact List.cons_ne_nil _ _) (plain_conditions _)
    rw [escaping_conditions] at reads
    exact mt reads.mp (by decide +kernel)

end RowAccess
