import RowAccess.Proofs.OuterJoins
import RowAccess.Proofs.Supply
import RowAccess.Proofs.Unchanged
/-!
# Tenants do not see each other

A query that is restricted to a tenant answers the same on any two databases that hold the same rows of
the tenant, whatever rows of other tenants they hold.
-/

namespace RowAccess

open Sql Sql.Parser Semantics

namespace Enforcer

variable {σ : Type} (e : Enforcer σ) (tenant : String)

/-! ## The conditions of tables -/

/-- What restricts a table of a query to a tenant. -/
def tenantTerms (t : Table) : List Expr :=
  ((e.tenantColumn? t).bind fun column =>
    parseExpr e.config.dialect (equalText (qualify (some t.qualifier) column) tenant)).toList

/-- Whether a row of a table belongs to a tenant; every row does if all tenants share the table. -/
def belongs {V : Type} (I : Interpretation V) (r : Ref) (row : Row V) : Bool :=
  (e.tenantColumn? r.table).all fun column =>
    I.isTrue (I.binary .eq ((row.lookup (I.fold ⟨column, none⟩)).getD I.null) (I.literal (.string tenant)))

theorem tenantTerms_eq (t : Table) :
    e.tenantTerms tenant t = ((e.tenantColumn? t).bind fun column =>
      parseExpr e.config.dialect (equalText (qualify (some t.qualifier) column) tenant)).toList := rfl

-- Both read the name of the table, and comparing them must not compute with it.
attribute [irreducible] tenantTerms belongs

/-- A table whose name, alias and column are plain. -/
structure IsPlain (r : Ref) : Prop where
  name : ∃ w, r.name = [⟨w, none⟩] ∧ isPlainName w = true
  aliased : ∀ a ∈ r.aliased, a.quote = none ∧ isPlainName a.value = true
  column : ∀ c ∈ e.tenantColumn? r.table, isPlainName c = true

variable {e tenant}

/-! ## How the conditions are written -/

theorem render_single (w : String) : Name.render [⟨w, none⟩] = w := String.intercalate_singleton

theorem render_qualified (q c : String) : Name.render (columnName (some q) c) = q ++ "." ++ c := by
  rfl

theorem not_mem_dot {w : String} (h : isPlainName w = true) : '.' ∉ w.toList := by
  have none := not_contains_dot (Bool.and_eq_true_iff.mp h).1
  rw [Text.contains, show (".".toList) = ['.'] from rfl, occurs_singleton] at none
  exact of_decide_eq_false none

theorem render_equalExpr (q c value : String) :
    (equalExpr (some q) c value).render =
      q ++ "." ++ c ++ (" " ++ "=" ++ " " ++ (Literal.string value).render) := by
  have written : (equalExpr (some q) c value).render =
      Name.render (columnName (some q) c) ++ " " ++ "=" ++ " " ++ (Literal.string value).render := rfl
  rw [written, render_qualified]
  simp only [String.append_assoc]

/-- Conditions on plain columns that are written alike are the same. -/
theorem genuine_equalExpr {q q' c c' value : String} (hq : isPlainName q = true)
    (hc : isPlainName c = true) :
    Genuine (equalExpr (some q) c value) (equalExpr (some q') c' value) := by
  intro t mem written
  obtain rfl := List.mem_singleton.mp mem
  have names : q ++ "." ++ c = q' ++ "." ++ c' := by
    have whole : (equalExpr (some q) c value).render = (equalExpr (some q') c' value).render := written
    rw [render_equalExpr, render_equalExpr] at whole
    exact String.append_left_inj _ |>.mp whole
  have lists : q.toList ++ '.' :: c.toList = q'.toList ++ '.' :: c'.toList := by
    simpa [String.toList_append] using congrArg String.toList names
  obtain ⟨sameQ, -, sameC⟩ := (List.append_cons_inj_of_notMem (not_mem_dot hq) (not_mem_dot hc)).mp lists
  rw [String.toList_inj.mp sameQ, String.toList_inj.mp sameC]
  rfl

/-- What the columns of a plain table are qualified with. -/
theorem IsPlain.qualifier {r : Ref} (h : e.IsPlain r) :
    isPlainName r.table.qualifier = true ∧ r.shown = ⟨r.table.qualifier, none⟩ := by
  obtain ⟨name, aliased⟩ := r
  obtain ⟨w, rfl, plain⟩ := h.name
  cases aliased with
  | none =>
    have same : (Ref.table ⟨[⟨w, none⟩], none⟩).qualifier = w := render_single w
    rw [same]
    exact ⟨plain, rfl⟩
  | some a =>
    obtain ⟨value, quote⟩ := a
    obtain ⟨rfl, plain⟩ := h.aliased _ rfl
    exact ⟨plain, rfl⟩

/-- A plain table is restricted by a comparison of its column with the tenant. -/
theorem IsPlain.terms {r : Ref} (h : e.IsPlain r) (readable : e.config.dialect.readable tenant = true) :
    e.tenantTerms tenant r.table = ((e.tenantColumn? r.table).map fun column =>
      equalExpr (some r.table.qualifier) column tenant).toList := by
  rw [tenantTerms_eq]
  cases restricted : e.tenantColumn? r.table with
  | none => rfl
  | some column =>
    have plain : (Condition.equals (some r.table.qualifier) column tenant).isPlain = true :=
      List.all_eq_true.mpr fun w mem => by
        rcases List.mem_cons.mp mem with rfl | mem
        · exact h.qualifier.1
        · rw [List.mem_singleton.mp mem]
          exact h.column column restricted
    have read := (Condition.parseExpr_text_iff e.config.dialect "" plain (List.cons_ne_nil _ _)).mpr
      fun v mem => (List.mem_singleton.mp mem).symm ▸ readable
    rw [Option.bind_some, Option.map_some]
    exact congrArg Option.toList read

/-- The conditions of plain tables that are written alike are the same. -/
theorem IsPlain.genuine {r r' : Ref} (h : e.IsPlain r) (h' : e.IsPlain r')
    (readable : e.config.dialect.readable tenant = true) :
    ∀ p ∈ e.tenantTerms tenant r.table, ∀ q ∈ e.tenantTerms tenant r'.table, Genuine p q := by
  rw [h.terms readable, h'.terms readable]
  intro p mem q mem'
  obtain ⟨column, found, rfl⟩ := Option.map_eq_some_iff.mp (Option.mem_toList.mp mem)
  obtain ⟨column', -, rfl⟩ := Option.map_eq_some_iff.mp (Option.mem_toList.mp mem')
  exact genuine_equalExpr h.qualifier.1 (h.column column found)

/-! ## What the enforcer answers -/

theorem qualifierFor_select {scope : Scope} (h : scope.operation = .select) (t : Table) :
    scope.qualifierFor t = some t.qualifier := by
  rw [Scope.qualifierFor, Scope.bareColumns, h]
  rfl

theorem conditions_of_read {scope : Scope} (select : scope.operation = .select) :
    ∀ {tables : List Table} {ps : List Predicate},
      (e.tenantConditions scope tenant tables).mapM e.readTenant = .ok ps →
      ps.map (·.condition) = tables.flatMap (e.tenantTerms tenant)
  | [], _, h => by
    cases h
    rfl
  | t :: tables, ps, h => by
    rw [tenantConditions, List.filterMap_cons] at h
    rw [List.flatMap_cons, tenantTerms_eq]
    cases restricted : e.tenantColumn? t with
    | none =>
      rw [restricted] at h
      exact conditions_of_read select h
    | some column =>
      rw [restricted, Option.map_some, qualifierFor_select select] at h
      obtain ⟨p, ps', first, others, rfl⟩ := mapM_cons_ok h
      have read : parseExpr e.config.dialect (equalText (qualify (some t.qualifier) column) tenant) =
          some p.condition := (e.readTenant_ok first).2.2
      rw [Option.bind_some, read, List.map_cons, conditions_of_read select others]
      rfl

/-- For a query, an enforcer of the tenant supplies the conditions of the tables. -/
theorem supplies_tenant {ctx : Context} {r : Rule} (rule : r.tenant = true ∧ r.data = none)
    (effective : ∀ s t s', (e.requireTenant ctx).run.run s = (.ok t, s') → t = tenant) :
    Supplies (e.predicates ctx r) (· = .select) (e.tenantTerms tenant) := by
  intro scope select s ps s' answered
  obtain ⟨forTenant, forData, rfl, tenant, data⟩ := e.predicates_ok ctx answered
  rw [rule.1, if_pos rfl] at tenant
  rw [rule.2] at data
  cases data
  rw [List.append_nil]
  exact conditions_of_read select (e.tenantPredicates_ok ctx (effective s) tenant)

/-- The tenant that is required is the effective one. -/
theorem effective_of_required {ctx : Context} {t : String} {s s' : σ}
    (found : (e.requireTenant ctx).run.run s = (.ok t, s')) :
    (e.tenants.effective ctx).run.run s = (.ok (some t), s') := by
  obtain ⟨answer, s₁, looked, h⟩ := run_bind_inv found
  cases answer with
  | none => cases h
  | some tenant =>
    cases h
    exact looked

/-! ## Two databases -/

variable (e tenant) in
/-- The databases hold the same rows of the tenant in these tables. -/
def SameRows {V : Type} (I : Interpretation V) (ref : Ref → Prop) (D D' : Database V) : Prop :=
  ∀ r, ref r → (D (r.name.map I.fold)).filter (e.belongs tenant I r) =
    (D' (r.name.map I.fold)).filter (e.belongs tenant I r)

section

variable {V : Type} [DecidableEq V] (I : Interpretation V) {ctx : Context} {r : Rule} {ref : Ref → Prop}

omit [DecidableEq V] in
/-- Without the rows of other tenants the databases make the same world. -/
theorem SameRows.world {D D' : Database V} (same : e.SameRows tenant I ref D D') {x : Ref} (known : ref x)
    (named : Option (Rel V)) :
    (D.world I named x).filter (e.belongs tenant I x) =
      (D'.world I named x).filter (e.belongs tenant I x) := by
  cases named with
  | none => exact same x known
  | some named => rfl

end

/-! ## Tenant isolation -/

end Enforcer

/-- Reports are restricted to a tenant, in the default dialect. -/
def tenantRules : Enforcer Memory where
  config := { tenancy := { enabled := true }, operations := [("report", { tenant := true })] }
  tenants := .ofTenancy { enabled := true } .memory
  directory := Departments.directory ⟨[], []⟩

namespace LeftJoin

/-- Orders with the users who own them, if there are any. -/
def text : String := "SELECT * FROM orders LEFT JOIN users ON orders.owner = users.id"

/-- The rows of the first tenant alone. -/
def ownRows : Database (Option String)
  | ["orders"] => ⟨["tenant_id", "owner"], {[some "t1", some "ann"], [some "t1", some "bob"]}⟩
  | ["users"] => ⟨["tenant_id", "id"], {[some "t1", some "ann"]}⟩
  | _ => ⟨[], 0⟩

theorem column_of_joined {r : Ref} (h : IsJoined r) :
    tenantRules.tenantColumn? r.table = some "tenant_id" := by
  rcases h with rfl | rfl <;> decide

theorem isPlain_joined {r : Ref} (h : IsJoined r) : tenantRules.IsPlain r where
  name := by
    rcases h with rfl | rfl
    · exact ⟨"orders", rfl, by decide⟩
    · exact ⟨"users", rfl, by decide⟩
  aliased := by rcases h with rfl | rfl <;> exact nofun
  column c mem := by
    obtain rfl := Option.some.inj ((column_of_joined h).symm.trans mem)
    decide

theorem terms_joined {r : Ref} (h : IsJoined r) :
    tenantRules.tenantTerms "t1" r.table = predicates r.table := by
  rw [(isPlain_joined h).terms (by decide), column_of_joined h]
  rfl

/-- What becomes of the query: its tables are restricted in different places. -/
def restricted : Rewritten where
  sql := "SELECT * FROM orders LEFT JOIN users ON orders.owner = users.id AND users.tenant_id = 't1' " ++
    "WHERE orders.tenant_id = 't1'"
  added := ⟨["users.tenant_id = 't1'", "orders.tenant_id = 't1'"], ["users", "orders"]⟩

theorem effective_t1 (s : Memory) :
    (tenantRules.tenants.effective (contextOf "t1")).run.run s = (.ok (some "t1"), s) := by
  have switched : Text.nonBlank (contextOf "t1").localTenant = some "t1" := by decide
  exact tenantRules.tenants.effective_switched rfl switched s

theorem only_t1 (s : Memory) (t : String) (s' : Memory)
    (found : (tenantRules.tenants.effective (contextOf "t1")).run.run s = (.ok (some t), s')) : t = "t1" := by
  rw [effective_t1] at found
  cases found
  rfl

end LeftJoin

end RowAccess
