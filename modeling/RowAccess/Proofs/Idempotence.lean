import RowAccess.Proofs.FailClosed
import RowAccess.Proofs.Isolation
import RowAccess.Proofs.Rests
/-!
# Planning again adds nothing

A statement whose text has been rewritten is planned to stay as it is. This needs that the enforcer answers
no more for a scope that it is asked about again (`Recurs`), which is so where tenants alone restrict
(`recurs_tenant`), and that the text is read back as it was written.
-/

namespace RowAccess

open Sql Sql.Parser Semantics

variable {σ : Type}

namespace Enforcer

variable {e : Enforcer σ} {ctx : Context} {r : Rule}

/-! ## Scopes that are asked about again -/

theorem qualifierFor_of_bareColumns {scope scope' : Scope}
    (same : scope'.bareColumns = scope.bareColumns) (t : Table) :
    scope'.qualifierFor t = scope.qualifierFor t := by
  rw [Scope.qualifierFor, Scope.qualifierFor, same]

theorem bareColumns_narrows {scope scope' : Scope} (h : Rewrite.Narrows scope scope') :
    scope'.bareColumns = scope.bareColumns := by
  rw [Scope.bareColumns, Scope.bareColumns, h.operation, h.placement]
  by_cases select : scope.operation = .select
  · rw [select]
    rfl
  · cases placement : scope.placement with
    | join =>
      rw [show (Placement.join == Placement.filter) = false from rfl, Bool.and_false, Bool.false_and,
        Bool.false_and]
    | filter => rw [h.same select placement]

theorem tenantPredicates_congr {scope scope' : Scope} (same : scope'.bareColumns = scope.bareColumns) :
    ∀ (known : Option String) (tables : List Table),
      e.tenantPredicates ctx scope' known tables = e.tenantPredicates ctx scope known tables
  | _, [] => rfl
  | known, t :: tables => by
    have others (known : Option String) := tenantPredicates_congr same known tables
    rw [tenantPredicates_first, tenantPredicates_first, qualifierFor_of_bareColumns same t]
    cases e.tenantColumn? t with
    | none => exact others known
    | some column =>
      dsimp only
      simp only [others]

/-- The answer to a scope depends on its tables and on how they are qualified, and without a table in the
rule for the data on whether the scope is a filter of visible tables. -/
theorem predicates_congr {scope scope' : Scope} (tables : scope'.tables = scope.tables)
    (same : scope'.bareColumns = scope.bareColumns)
    (data : ∀ d ∈ r.data, d.table = none →
      (scope'.placement = .filter && 0 < scope'.visible) = (scope.placement = .filter && 0 < scope.visible)) :
    e.predicates ctx r scope' = e.predicates ctx r scope := by
  rw [predicates_eq, predicates_eq, tables, tenantPredicates_congr same]
  cases found : r.data with
  | none => rfl
  | some d =>
    have alike : e.dataPredicates ctx d scope' = e.dataPredicates ctx d scope := by
      rw [dataPredicates, dataPredicates, tables]
      cases named : d.table with
      | some name =>
        dsimp only
        simp only [qualifierFor_of_bareColumns same]
      | none =>
        dsimp only
        rw [data d found named]
    rw [Option.elim_some, Option.elim_some, alike]

/-- A narrower scope gets no further predicates. -/
theorem answersAmong_narrows {scope scope' : Scope} {s : σ} {ps : List Predicate}
    (answered : (e.predicates ctx r scope).run.run s = (.ok ps, s)) (h : Rewrite.Narrows scope scope') :
    Rewrite.AnswersAmong (e.predicates ctx r) s ps scope' := by
  have bare := bareColumns_narrows h
  by_cases alike : ∀ d ∈ r.data, d.table = none →
      (scope'.placement = .filter && 0 < scope'.visible) = (scope.placement = .filter && 0 < scope.visible)
  · exact ⟨ps, by rw [predicates_congr h.tables bare alike, answered], fun p mem => ⟨p, mem, rfl⟩⟩
  · -- all tables have been wrapped, and the rule for the data as a whole asks for nothing
    simp only [not_forall] at alike
    obtain ⟨d, data, named, differs⟩ := alike
    have nothing : (scope'.placement = .filter && 0 < scope'.visible) = false := by
      have le := h.visible
      rw [h.placement] at differs ⊢
      by_contra some
      simp only [Bool.not_eq_false, Bool.and_eq_true, decide_eq_true_eq] at some
      apply differs
      simp [some.1, some.2, Nat.lt_of_lt_of_le some.2 le]
    obtain ⟨forTenant, forData, rfl, first, -⟩ := e.predicates_ok ctx answered
    refine ⟨forTenant ++ [], ?_, fun p mem => ⟨p, List.mem_append_left _ (by simpa using mem), rfl⟩⟩
    have none : e.dataPredicates ctx d scope' = .ok [] := by
      rw [dataPredicates, named]
      dsimp only
      rw [nothing]
      rfl
    rw [predicates_eq, h.tables, tenantPredicates_congr bare, run_bind_ok first, data, Option.elim_some, none]
    rfl

/-- Alone in a query of its own a wrapped table gets the predicates it was wrapped for, unless the rule for
the data asks for every query as a whole. -/
theorem answersAmong_wrapped {t : Table} {s : σ} {ps : List Predicate}
    (answered : (e.predicates ctx r ⟨.select, .join, [t], 1⟩).run.run s = (.ok ps, s))
    (named : ∀ d ∈ r.data, d.table ≠ none) :
    Rewrite.AnswersAmong (e.predicates ctx r) s ps ⟨.select, .filter, [t], 1⟩ := by
  have same : e.predicates ctx r ⟨.select, .filter, [t], 1⟩ = e.predicates ctx r ⟨.select, .join, [t], 1⟩ :=
    predicates_congr rfl rfl fun d data whole => absurd whole (named d data)
  exact ⟨ps, by rw [same, answered], fun p mem => ⟨p, mem, rfl⟩⟩

variable (e ctx r) in
/-- What the enforcer answered for a scope does not get in the way of another pass: no predicate is a
conjunction or holds a query, and a table is wrapped in a query only, under a rule that asks for no query as
a whole, where what is read from its text is the query that the text spells. -/
structure Recurs (s : σ) (scope : Scope) (ps : List Predicate) : Prop where
  single : ∀ p ∈ ps, isConjunction p.condition = false
  rests : ∀ p ∈ ps, Rewrite.Rests s
    (Rewrite.expr (.ofDialect e.config.dialect) (e.predicates ctx r) p.condition) p.condition
  wrapped : Rewrite.MayWrap scope → ps ≠ [] → scope.operation = .select ∧ ∀ d ∈ r.data, d.table ≠ none
  reads : Rewrite.MayWrap scope → ∀ t, scope.tables = [t] → ∀ filter,
    withTerms none (ps.map (·.condition)) = some filter → ∀ list relation,
      Sql.parse e.config.dialect (Rewrite.wrappedText t filter) = some list →
      list.getLast?.bind Rewrite.firstRelation? = some relation →
      ∃ named : Ref, named.table = t ∧ relation = wrappedRelation named filter

theorem Recurs.repeats {s : σ} {scope : Scope} {ps : List Predicate} (h : e.Recurs ctx r s scope ps)
    (answered : (e.predicates ctx r scope).run.run s = (.ok ps, s)) :
    Rewrite.Repeats (.ofDialect e.config.dialect) (e.predicates ctx r) s scope ps where
  single := h.single
  rests := h.rests
  again _ narrows := answersAmong_narrows answered narrows
  wrapped alone some := by
    obtain ⟨select, named⟩ := h.wrapped alone some
    refine ⟨select, fun t tables => answersAmong_wrapped ?_ named⟩
    obtain ⟨operation, placement, _, visible⟩ := scope
    obtain ⟨rfl, rfl⟩ := alone
    obtain rfl := tables
    obtain rfl := select
    exact answered
  reads := h.reads

/-- Comparisons of plain tables with a tenant do not get in the way, where nothing but queries is
rewritten. -/
theorem recurs_tenant (tenant : String) (ref : Ref → Prop) (rule : r.tenant = true ∧ r.data = none)
    (effective : ∀ s t s', (e.requireTenant ctx).run.run s = (.ok t, s') → t = tenant)
    (readable : e.config.dialect.readable tenant = true)
    (plain : ∀ x, ref x → e.IsPlain x)
    (reads : ReadsWrapped (.ofDialect e.config.dialect) (e.tenantTerms tenant) ref) {s s' : σ}
    {scope : Scope} {ps : List Predicate} (select : scope.operation = .select)
    (tables : ∀ t ∈ scope.tables, ∃ x, ref x ∧ x.table = t)
    (answered : (e.predicates ctx r scope).run.run s = (.ok ps, s')) : e.Recurs ctx r s scope ps := by
  have conditions := supplies_tenant rule effective scope select s ps s' answered
  have compared : ∀ p ∈ ps, ∃ q c, p.condition = equalExpr (some q) c tenant := by
    intro p mem
    have mem' : p.condition ∈ ps.map (·.condition) := List.mem_map_of_mem mem
    rw [conditions] at mem'
    obtain ⟨t, inScope, term⟩ := List.mem_flatMap.mp mem'
    obtain ⟨x, known, rfl⟩ := tables t inScope
    rw [(plain x known).terms readable] at term
    obtain ⟨column, -, made⟩ := Option.map_eq_some_iff.mp (Option.mem_toList.mp term)
    exact ⟨_, column, made.symm⟩
  refine ⟨fun p mem => ?_, fun p mem => ?_, fun _ _ => ⟨select, ?_⟩, fun _ t only filter made list relation
    parsed first => ?_⟩
  · obtain ⟨q, c, made⟩ := compared p mem
    rw [made]
    rfl
  · obtain ⟨q, c, made⟩ := compared p mem
    rw [made]
    exact .bind (.pure _) (.bind (.pure _) (.pure _))
  · rw [rule.2]
    exact nofun
  · obtain ⟨x, known, rfl⟩ := tables t (by rw [only]; exact .head _)
    rw [conditions, only, List.flatMap_singleton] at made
    exact ⟨x, rfl, reads x known filter made list relation parsed first⟩

/-! ## Planning again -/

/-- Planning a statement with the text of its plan succeeds, adds nothing and keeps the text. -/
theorem plan_again (e : Enforcer σ) {ctx : Context} {s : BoundStatement} {shared shared' : Shared σ}
    {r : Rule} {p : Plan} (due : ((e.due ctx s).run shared.lookups).1 = some r)
    (quiet : ((e.tenants.effective ctx).run.run shared.store).2 = shared.store)
    (recurs : ∀ scope ps, (scope, .ok ps) ∈ e.transcript ctx r s.sql shared.store →
      e.Recurs ctx r shared.store scope ps)
    (readBack : ∀ list list' added store, Sql.parse e.config.dialect s.sql = some list →
      Rewrite.outcome (Rewrite.statements (.ofDialect e.config.dialect) (e.predicates ctx r)
        (1 < list.length) list) .nothing shared.store = (.ok (list', added), store) →
      added.isNothing = false → Sql.parse e.config.dialect (renderStatements list') = some list')
    (planned : (e.plan ctx s).run.run shared = (.ok (some p), shared')) :
    (e.plan ctx { s with sql := p.result.sql }).run.run shared =
      (.ok (some ⟨⟨p.result.sql, .nothing⟩, p.concerns⟩), shared') := by
  have due' : ((e.due ctx { s with sql := p.result.sql }).run shared.lookups).1 = some r := due
  rw [e.plan_run due, Prod.mk.injEq] at planned
  obtain ⟨answer, rfl⟩ := planned
  rcases rewritten : (rewrite e.config.dialect (e.predicates ctx r) s.sql).run.run shared.store with
    ⟨fault | result, store⟩
  · rw [rewritten] at answer
    cases answer
  rw [rewritten] at answer
  cases answer
  obtain ⟨chain, -⟩ := e.transcript_asked ctx r s.sql shared.store
  have good : Rewrite.Repeatable (.ofDialect e.config.dialect) (e.predicates ctx r) shared.store
      (e.transcript ctx r s.sql shared.store) := fun scope ps mem =>
    (recurs scope ps mem).repeats (asked_quiet quiet chain (scope, .ok ps) mem)
  rw [transcript] at good
  obtain ⟨rfl, again⟩ := rewriteWith_again (.ofDialect e.config.dialect) (e.predicates ctx r)
    (predicates_quiet quiet) good readBack rewritten
  rw [e.plan_run due']
  have again' : (rewrite e.config.dialect (e.predicates ctx r) result.sql).run.run shared.store =
      (.ok ⟨result.sql, .nothing⟩, shared.store) := again
  rw [again']
  rfl

/-! ## Statements that have been read -/

theorem transcript_parsed {sql : String} {list : List Statement}
    (parsed : Sql.parse e.config.dialect sql = some list) (s : σ) :
    e.transcript ctx r sql s =
      (Rewrite.outcome (Rewrite.statements (.ofDialect e.config.dialect)
        (transcribing (e.predicates ctx r)) (1 < list.length) list) .nothing (s, [])).2.2 := by
  rw [transcript, rewriteWith_run (.ofDialect e.config.dialect) _ parsed]
  split <;> simp [*]

/-- The plan of a statement whose text has been read and rewritten. -/
theorem plan_parsed {s : BoundStatement} {shared : Shared σ}
    (due : ((e.due ctx s).run shared.lookups).1 = some r) {list list' : List Statement}
    (parsed : Sql.parse e.config.dialect s.sql = some list) {added : Added} {store : σ}
    (rewritten : Rewrite.outcome (Rewrite.statements (.ofDialect e.config.dialect)
      (e.predicates ctx r) (1 < list.length) list) .nothing shared.store = (.ok (list', added), store))
    (changed : added.isNothing = false) :
    (e.plan ctx s).run.run shared =
      (.ok (some ⟨⟨renderStatements list', added⟩, r.concerns⟩),
        ⟨((e.due ctx s).run shared.lookups).2, store⟩) := by
  have result : (rewrite e.config.dialect (e.predicates ctx r) s.sql).run.run shared.store =
      (.ok ⟨renderStatements list', added⟩, store) := by
    change (rewriteWith _ _ s.sql).run.run shared.store = _
    rw [rewriteWith_run (.ofDialect e.config.dialect) _ parsed, rewritten]
    dsimp only
    rw [if_neg (by rw [changed]; exact Bool.false_ne_true)]
    rfl
  rw [e.plan_run due, result]
  rfl

end Enforcer

/-! ## A full join -/

namespace FullJoin

open LeftJoin

/-- Orders and users, also those without the other. -/
def statement : BoundStatement :=
  .start "report" .select "SELECT * FROM orders FULL JOIN users ON orders.owner = users.id"

/-- The rule of the report. -/
def rule : Rule := ⟨"report", true, none⟩

/-- What is shared before the first statement. -/
def shared : Shared Memory := ⟨.none, .empty⟩

/-- The full join of two relations by their owners. -/
def joining (orders users : Relation) : List Statement :=
  [.query (.mk false [] (.select ⟨.standard, [], [.mk (.wildcard []) none []], "",
    [.mk orders [.mk false .full users none (.on isOwner)]],
    [], none, none, [], [], [], none, [], false, none, []⟩) [] [])]

/-- Whether statements are that join of relations with given properties. -/
def isJoining (first second : Relation → Bool) : List Statement → Bool
  | [.query (.mk false [] (.select ⟨.standard, [], [.mk (.wildcard []) none []], "",
      [.mk orders [.mk false .full users none (.on (.binary .eq (.name [o, owner]) (.name [u, id])))]],
      [], none, none, [], [], [], none, [], false, none, []⟩) [] [])] =>
    first orders && second users &&
      o == ⟨"orders", none⟩ && owner == ⟨"owner", none⟩ && u == ⟨"users", none⟩ && id == ⟨"id", none⟩
  | _ => false

theorem eq_of_isJoining {first second : Relation → Bool} {list : List Statement}
    (h : isJoining first second list = true) :
    ∃ orders users, first orders = true ∧ second users = true ∧ list = joining orders users := by
  unfold isJoining at h
  split at h
  · simp only [Bool.and_eq_true, beq_iff_eq] at h
    obtain ⟨⟨⟨⟨⟨orders, users⟩, rfl⟩, rfl⟩, rfl⟩, rfl⟩ := h
    exact ⟨_, _, orders, users, rfl⟩
  · cases h

/-- A table by its name alone. -/
def named (table : String) : Relation := .table [⟨table, none⟩] [] .none false none []

/-- Whether a relation is that table. -/
def isNamed (table : String) : Relation → Bool
  | .table [name] [] .none false none [] => name == ⟨table, none⟩
  | _ => false

theorem eq_of_isNamed {table : String} {r : Relation} (h : isNamed table r = true) : r = named table := by
  unfold isNamed at h
  split at h
  · rw [beq_iff_eq.mp h]
    rfl
  · cases h

/-- The statement as it is read. -/
def plain : List Statement := joining (named "orders") (named "users")

theorem parse_statement : Sql.parse tenantRules.config.dialect statement.sql = some plain := by
  have read : (Sql.parse tenantRules.config.dialect statement.sql).any
      (isJoining (isNamed "orders") (isNamed "users")) = true := by decide +kernel
  obtain ⟨list, parsed, same⟩ := Option.any_eq_true _ _ |>.mp read
  obtain ⟨orders, users, isOrders, isUsers, rfl⟩ := eq_of_isJoining same
  rw [parsed, eq_of_isNamed isOrders, eq_of_isNamed isUsers]
  rfl

/-- What the statement becomes, in which both tables are wrapped. -/
def wrapped : List Statement :=
  joining (wrappedRelation (plainRef "orders") (columnIs "orders" "tenant_id" "t1"))
    (wrappedRelation (plainRef "users") (columnIs "users" "tenant_id" "t1"))

theorem eq_wrapped {list : List Statement}
    (h : isJoining (isWrapped "orders" "tenant_id" "t1") (isWrapped "users" "tenant_id" "t1") list = true) :
    list = wrapped := by
  obtain ⟨orders, users, isOrders, isUsers, rfl⟩ := eq_of_isJoining h
  rw [eq_of_isWrapped isOrders, eq_of_isWrapped isUsers]
  rfl

/-- Both tables of the statement are wrapped. -/
theorem rewritten_wrapped : ∃ added store,
    Rewrite.outcome (Rewrite.statements (.ofDialect tenantRules.config.dialect)
      (tenantRules.predicates (contextOf "t1") rule) (1 < plain.length) plain) .nothing shared.store =
        (.ok (wrapped, added), store) ∧ added.isNothing = false := by
  have wraps : (Rewrite.outcome (Rewrite.statements (.ofDialect tenantRules.config.dialect)
      (tenantRules.predicates (contextOf "t1") rule) (1 < plain.length) plain)
        .nothing shared.store).1.toOption.any (fun answer =>
          isJoining (isWrapped "orders" "tenant_id" "t1") (isWrapped "users" "tenant_id" "t1") answer.1 &&
            !answer.2.isNothing) = true := by
    decide +kernel
  obtain ⟨⟨list, added⟩, store, run, good⟩ := ok_of_any wraps
  obtain ⟨same, changed⟩ := Bool.and_eq_true _ _ |>.mp good
  obtain rfl := eq_wrapped same
  exact ⟨added, store, run, by simpa using changed⟩

/-- The enforcer is asked about each table when it is wrapped, and then about the query without them. -/
def scopes : List Scope :=
  [⟨.select, .join, [⟨"orders", none⟩], 1⟩, ⟨.select, .join, [⟨"users", none⟩], 1⟩, ⟨.select, .filter, [], 2⟩]

theorem joined_of_scopes : ∀ scope ∈ scopes, scope.operation = .select ∧
    ∀ t ∈ scope.tables, ∃ r, IsJoined r ∧ r.table = t := by
  have orders : (plainRef "orders").table = ⟨"orders", none⟩ := by decide
  have users : (plainRef "users").table = ⟨"users", none⟩ := by decide
  simp only [scopes, List.forall_mem_cons, List.not_mem_nil, false_implies, implies_true, and_true, true_and]
  exact ⟨⟨_, .inl rfl, orders⟩, _, .inr rfl, users⟩

theorem asked_scopes :
    (tenantRules.transcript (contextOf "t1") rule statement.sql .empty).map (·.1) = scopes := by
  have asked : ((Rewrite.outcome (Rewrite.statements (.ofDialect tenantRules.config.dialect)
      (transcribing (tenantRules.predicates (contextOf "t1") rule))
        (1 < plain.length) plain) .nothing (.empty, [])).2.2).map (·.1) = scopes := by
    decide +kernel
  rw [Enforcer.transcript_parsed parse_statement, asked]

theorem recurs (scope : Scope) (ps : List Predicate)
    (mem : (scope, .ok ps) ∈ tenantRules.transcript (contextOf "t1") rule statement.sql .empty) :
    tenantRules.Recurs (contextOf "t1") rule .empty scope ps := by
  have known : scope ∈ scopes := by
    rw [← asked_scopes]
    exact List.mem_map_of_mem (f := Prod.fst) mem
  obtain ⟨select, joined⟩ := joined_of_scopes scope known
  have quiet : ((tenantRules.tenants.effective (contextOf "t1")).run.run .empty).2 = Memory.empty := by
    rw [effective_t1]
  obtain ⟨chain, -⟩ := tenantRules.transcript_asked (contextOf "t1") rule statement.sql .empty
  have answered := Enforcer.asked_quiet quiet chain (scope, .ok ps) mem
  refine Enforcer.recurs_tenant "t1" IsJoined ⟨rfl, rfl⟩ ?_ (by decide)
    (fun _ => isPlain_joined) ?_ select joined answered
  · exact fun s t s' found => only_t1 s t s' (tenantRules.effective_of_required found)
  · intro r joined filter made
    rw [terms_joined joined] at made
    exact reads_wrapped r joined filter made

theorem parse_wrapped : Sql.parse tenantRules.config.dialect (renderStatements wrapped) = some wrapped := by
  have read : (Sql.parse tenantRules.config.dialect (renderStatements wrapped)).any
      (isJoining (isWrapped "orders" "tenant_id" "t1") (isWrapped "users" "tenant_id" "t1")) = true := by
    decide +kernel
  obtain ⟨list, parsed, same⟩ := Option.any_eq_true _ _ |>.mp read
  rw [parsed, eq_wrapped same]

/-- What is planned for the report is planned again without a change. -/
theorem report_rests : ∃ p shared', (tenantRules.plan (contextOf "t1") statement).run.run shared =
      (.ok (some p), shared') ∧ p.result.isChanged = true ∧
      (tenantRules.plan (contextOf "t1") { statement with sql := p.result.sql }).run.run shared =
        (.ok (some ⟨⟨p.result.sql, .nothing⟩, p.concerns⟩), shared') := by
  obtain ⟨added, store, run, changed⟩ := rewritten_wrapped
  have due : ((tenantRules.due (contextOf "t1") statement).run shared.lookups).1 = some rule := by decide
  have quiet : ((tenantRules.tenants.effective (contextOf "t1")).run.run shared.store).2 =
      shared.store := by rw [effective_t1]
  have planned := tenantRules.plan_parsed due parse_statement run changed
  have readBack : ∀ (list list' : List Statement) (added' : Added) (store' : Memory),
      Sql.parse tenantRules.config.dialect statement.sql = some list →
      Rewrite.outcome (Rewrite.statements (.ofDialect tenantRules.config.dialect)
        (tenantRules.predicates (contextOf "t1") rule) (1 < list.length) list) .nothing shared.store =
          (.ok (list', added'), store') → added'.isNothing = false →
        Sql.parse tenantRules.config.dialect (renderStatements list') = some list' := by
    intro list list' added' store' parsed rewritten _
    obtain rfl := Option.some.inj (parse_statement.symm.trans parsed)
    rw [run] at rewritten
    cases rewritten
    exact parse_wrapped
  exact ⟨_, _, planned, by rw [Rewritten.isChanged, changed]; rfl,
    tenantRules.plan_again due quiet recurs readBack planned⟩

end FullJoin

end RowAccess
