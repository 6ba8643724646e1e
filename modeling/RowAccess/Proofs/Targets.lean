import RowAccess.Proofs.Marks
/-!
# Which tables of a scope are restricted by name

A rule restricts the tables of tenants, and the table that its data permissions name. For each such table of a
scope there is one predicate, with its columns qualified for this table (`predicates_of_tables`); all others
restrict a query as a whole.
-/

namespace RowAccess

open Sql

variable {σ : Type}

namespace Enforcer

/-- Whether a rule restricts a table by its name for the caller of a context. -/
def restrictsTable (e : Enforcer σ) (ctx : Context) (r : Rule) (t : Table) : Concern → Bool
  | .tenant => r.tenant && !e.isExempt t
  | .dataPermission => r.data.any fun data => data.table.any t.isNamed && !data.isLifted ctx.session
  | _ => false

/-- The predicate is for this table, for a concern: it is read from the text of a condition on columns of the
table, qualified as they are in the scope. -/
inductive BuiltFor (e : Enforcer σ) (ctx : Context) (r : Rule) (scope : Scope) :
    Concern → Table → Predicate → Prop
  | tenant {tenant : String} {t : Table} {p : Predicate} :
      e.Compares tenant scope t p → BuiltFor e ctx r scope .tenant t p
  | data {data : Config.DataRule} {t : Table} {p : Predicate} : r.data = some data →
      e.dataPredicate? ctx data (scope.qualifierFor t) (some t.baseName) = .ok (some p) →
      BuiltFor e ctx r scope .dataPermission t p

variable {e : Enforcer σ} {ctx : Context} {r : Rule} {scope : Scope} {t : Table} {p : Predicate}

theorem dataPredicate?_some {data : Config.DataRule} {qualifier table : Option String}
    (answered : e.dataPredicate? ctx data qualifier table = .ok (some p)) :
    p.concern = .dataPermission ∧ p.table = table := by
  rw [dataPredicate?] at answered
  split at answered
  · cases answered
  · cases answered
  · next text found =>
    rcases read : e.predicate .dataPermission table text with fault | p'
    all_goals
      rw [read] at answered
      cases answered
    rw [predicate] at read
    split at read <;> cases read
    exact ⟨rfl, rfl⟩

theorem BuiltFor.concern {c : Concern} (built : BuiltFor e ctx r scope c t p) : p.concern = c := by
  cases built with
  | tenant compares => exact compares.concern
  | data _ answered => exact (dataPredicate?_some answered).1

theorem BuiltFor.table {c : Concern} (built : BuiltFor e ctx r scope c t p) : p.table = some t.baseName := by
  cases built with
  | tenant compares => exact compares.table
  | data _ answered => exact (dataPredicate?_some answered).2

theorem exists_builtFor {c : Concern} {tables : List Table} {ps : List Predicate}
    (built : List.Forall₂ (BuiltFor e ctx r scope c) tables ps) :
    ∀ p ∈ ps, ∃ t ∈ tables, BuiltFor e ctx r scope c t p := by
  induction built with
  | nil => exact nofun
  | cons first _ ih =>
    intro p mem
    rcases List.mem_cons.mp mem with rfl | mem
    · exact ⟨_, .head _, first⟩
    · obtain ⟨t, mem, own⟩ := ih p mem
      exact ⟨t, .tail _ mem, own⟩

/-! ## Predicates for the tenant -/

theorem tenantPredicates_built {tables : List Table} {ps : List Predicate} {s s' : σ}
    (answered : (e.tenantPredicates ctx scope none tables).run.run s = (.ok ps, s')) :
    List.Forall₂ (BuiltFor e ctx r scope .tenant) (tables.filter fun t => !e.isExempt t) ps := by
  cases needed : e.restrictsAny tables with
  | false =>
    have exempt : (tables.filter fun t => !e.isExempt t) = [] := by
      rw [List.filter_eq_nil_iff]
      intro t mem restricted
      have some := e.restrictsAny_iff.mpr ⟨t, mem, by simpa using restricted⟩
      rw [needed] at some
      cases some
    rw [e.tenantPredicates_shared ctx none s needed] at answered
    cases answered
    rw [exempt]
    exact .nil
  | true =>
    rcases found : (e.requireTenant ctx).run.run s with ⟨fault | tenant, s₁⟩
    · rw [e.tenantPredicates_fails ctx found needed] at answered
      cases answered
    · have conditions : e.tenantConditions scope tenant tables ≠ [] := by
        rw [ne_eq, e.tenantConditions_eq_nil, needed]
        exact Bool.noConfusion
      rw [e.tenantPredicates_run ctx scope found _ conditions] at answered
      exact (compares_of_read (Prod.mk.inj answered).1).imp fun _ _ compares => .tenant compares

/-! ## Predicates for the data -/

/-- Where each member has an answer, the answers stand in the order of the members. -/
theorem forall₂_filterMap_mapM {α β : Type} {f : α → Except Error (Option β)}
    (each : ∀ a b, f a = .ok b → b.isNone = false) :
    ∀ {as : List α} {bs : List (Option β)}, as.mapM f = .ok bs →
      List.Forall₂ (fun a b => f a = .ok (some b)) as (bs.filterMap id)
  | [], _, h => by
    cases h
    exact .nil
  | a :: as, _, h => by
    obtain ⟨b, bs, first, others, rfl⟩ := mapM_cons_ok h
    cases b with
    | none => cases each a none first
    | some b => exact .cons first (forall₂_filterMap_mapM each others)

/-- A rule for the data of one table restricts it wherever it is read. -/
theorem dataPredicates_named {data : Config.DataRule} (asked : r.data = some data) {name : String}
    (named : data.table = some name) {ps : List Predicate}
    (answered : e.dataPredicates ctx data scope = .ok ps) :
    List.Forall₂ (BuiltFor e ctx r scope .dataPermission)
      (scope.tables.filter (e.restrictsTable ctx r · .dataPermission)) ps := by
  rw [dataPredicates, named] at answered
  dsimp only at answered
  rcases found : (scope.tables.filter fun t => t.isNamed name).mapM fun t =>
    e.dataPredicate? ctx data (scope.qualifierFor t) (some t.baseName) with fault | answers
  · rw [found] at answered
    cases answered
  · rw [found] at answered
    cases answered
    have same (t : Table) : e.restrictsTable ctx r t .dataPermission =
        (t.isNamed name && !data.isLifted ctx.session) := by
      rw [restrictsTable, asked, Option.any_some, named, Option.any_some]
    simp only [same]
    cases lifted : data.isLifted ctx.session with
    | true =>
      have none := filterMap_mapM_isEmpty (fun _ _ => dataPredicate?_isNone) found
      rw [lifted, Bool.or_true, List.isEmpty_iff] at none
      rw [none]
      simp
    | false =>
      simp only [Bool.not_false, Bool.and_true]
      refine (forall₂_filterMap_mapM (fun t p h => ?_) found).imp fun _ _ => .data asked
      rw [dataPredicate?_isNone h, lifted]

/-- A rule for the data without a table restricts the `WHERE` of each query that names tables. -/
theorem dataPredicates_everywhere {data : Config.DataRule} (everywhere : data.table = none)
    {ps : List Predicate} (answered : e.dataPredicates ctx data scope = .ok ps) :
    if scope.placement = .filter ∧ 0 < scope.visible then
      ∃ p, e.dataPredicate? ctx data none none = .ok p ∧ ps = p.toList
    else ps = [] := by
  rw [dataPredicates, everywhere] at answered
  dsimp only at answered
  by_cases read : scope.placement = .filter ∧ 0 < scope.visible
  · rw [if_pos read]
    rw [if_pos (by simpa using read)] at answered
    rcases found : e.dataPredicate? ctx data none none with fault | p
    · rw [found] at answered
      cases answered
    · rw [found] at answered
      cases answered
      exact ⟨p, rfl, rfl⟩
  · rw [if_neg read]
    rw [if_neg (by simpa using read)] at answered
    cases answered
    rfl

/-! ## Predicates of a scope -/

/-- A rule that does not ask for tenants has no predicates for them, any other has one for each table. -/
theorem forTenant_built {ps : List Predicate} {s s' : σ}
    (answered : (if r.tenant then e.tenantPredicates ctx scope none scope.tables else pure []).run.run s =
      (.ok ps, s')) :
    List.Forall₂ (BuiltFor e ctx r scope .tenant) (scope.tables.filter (e.restrictsTable ctx r · .tenant))
      ps := by
  simp only [restrictsTable]
  cases asked : r.tenant with
  | false =>
    rw [asked] at answered
    cases answered
    simp
  | true =>
    rw [asked] at answered
    simpa using tenantPredicates_built answered

/-- The predicates of a scope are those of the tables that the rule restricts by name, first for the tenant and
then for the data, or else one for the query as a whole. -/
theorem predicates_of_tables {ps : List Predicate} {s s' : σ}
    (answered : (e.predicates ctx r scope).run.run s = (.ok ps, s')) :
    ∃ forTenant forData whole, ps = forTenant ++ forData ++ whole ∧
      List.Forall₂ (BuiltFor e ctx r scope .tenant)
        (scope.tables.filter (e.restrictsTable ctx r · .tenant)) forTenant ∧
      List.Forall₂ (BuiltFor e ctx r scope .dataPermission)
        (scope.tables.filter (e.restrictsTable ctx r · .dataPermission)) forData ∧
      ∀ p ∈ whole, p.table = none := by
  obtain ⟨forTenant, forData, rfl, tenant, data⟩ := e.predicates_ok ctx answered
  have unnamed (none : (r.data.any fun data => data.table.isSome) = false) :
      scope.tables.filter (e.restrictsTable ctx r · .dataPermission) = [] := by
    rw [List.filter_eq_nil_iff]
    rintro t - restricted
    rw [restrictsTable, Option.any_eq_true] at restricted
    obtain ⟨rule, asked, named⟩ := restricted
    rw [asked, Option.any_some, Option.isSome_eq_false_iff, Option.isNone_iff_eq_none] at none
    rw [none] at named
    cases named
  cases asked : r.data with
  | none =>
    rw [asked] at data
    cases data
    refine ⟨forTenant, [], [], by simp, forTenant_built tenant, ?_, nofun⟩
    rw [unnamed (by rw [asked]; rfl)]
    exact .nil
  | some rule =>
    rw [asked] at data
    cases named : rule.table with
    | some name =>
      exact ⟨forTenant, forData, [], by simp, forTenant_built tenant, dataPredicates_named asked named data, nofun⟩
    | none =>
      refine ⟨forTenant, [], forData, by simp, forTenant_built tenant, ?_, ?_⟩
      · rw [unnamed (by rw [asked, Option.any_some, named]; rfl)]
        exact .nil
      · have whole := dataPredicates_everywhere named data
        split at whole
        · obtain ⟨p, found, rfl⟩ := whole
          intro q mem
          obtain rfl := Option.mem_toList.mp mem
          exact (dataPredicate?_some found).2
        · rw [whole]
          exact nofun

end Enforcer

end RowAccess
