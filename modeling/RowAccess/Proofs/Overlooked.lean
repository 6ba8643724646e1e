import RowAccess.Operation
import RowAccess.Proofs.Stacked
/-!
# Tables that are overlooked

Which tables a statement reads is told in two ways: by a walk through its relations (`Statement.tables`), and by the
scopes that rewriting asks about. Both look through set operations, named queries, derived tables and joins, but the
walk overlooks some corners that rewriting looks into: the queries in expressions, joins in parentheses, relations
that are reshaped, and statements in the body of a query. The two tell of the same tables, each as often, but for
those in such a corner (`listed_or_overlooked`). So they agree exactly if nothing is overlooked, and where a
statement has no queries in expressions, no statement in a body and nothing that is reshaped, exactly if it has no
joins in parentheses.
-/

namespace RowAccess

open Sql Rewrite

variable {σ : Type}

/-- A corner that is not looked into when the tables of a statement are told. -/
inductive Corner where
  /-- A query in an expression. -/
  | expression
  /-- Joins in parentheses. -/
  | parentheses
  /-- A relation that `PIVOT` and its kin turn into another. -/
  | reshaped
  /-- A statement that changes rows, in the body of a query. -/
  | change
deriving DecidableEq, Repr, Inhabited

/-- A table in a corner. -/
structure Overlooked where
  table : Table
  corner : Corner
deriving DecidableEq, Repr, Inhabited

namespace Overlooked

/-- Tables that are overlooked for a corner. -/
def all (corner : Corner) (tables : List Table) : List Overlooked := tables.map fun t => ⟨t, corner⟩

/-- The tables that queries in expressions read. -/
def inQueries (references : List Reference) : List Overlooked := all .expression (reachedTables references)

mutual

/-- What is overlooked in named queries. -/
def ctes (named : List String) : List Cte → List Overlooked
  | [] => []
  | .mk name _ _ q _ :: rest => query named q ++ ctes (name.folded :: named) rest

/-- What is overlooked in a query. -/
def query (named : List String) : Query → List Overlooked
  | .mk recursive list b order _ =>
    let inner := References.declared list ++ named
    ctes (if recursive then inner else named) list ++ body inner b ++
      inQueries (References.items inner order)

/-- What is overlooked in the body of a query. -/
def body (named : List String) : Body → List Overlooked
  | .select s => select named s
  | .query q => query named q
  | .combined _ _ left right => body named left ++ body named right
  | .values _ _ rows => inQueries (References.exprs named rows)
  | .statement s =>
    match s with
    | .update u => all .change (Statement.update u).tables ++ update named u
    | .delete r => all .change (Statement.delete r).tables ++ delete named r
    | _ => []
  | .table _ => []

/-- What is overlooked in a `SELECT`. -/
def select (named : List String) : Select → List Overlooked
  | ⟨_, _, projection, _, relations, _, prewhere, selection, groupBy, _, _, having, _, _, qualify, _⟩ =>
    joinedList named relations ++ inQueries (References.items named projection ++
      References.expr? named prewhere ++ References.expr? named selection ++
      References.exprs named groupBy ++ References.expr? named having ++ References.expr? named qualify)

/-- What is overlooked in an `UPDATE`. -/
def update (named : List String) : Update → List Overlooked
  | ⟨_, target, assigned, _, relations, selection, _⟩ =>
    joined named target ++ joinedList named relations ++
      inQueries (References.assignments named assigned ++ References.expr? named selection)

/-- What is overlooked in a `DELETE`. -/
def delete (named : List String) : Delete → List Overlooked
  | ⟨_, _, relations, others, selection, _⟩ =>
    joinedList named relations ++ joinedList named others ++ inQueries (References.expr? named selection)

/-- What is overlooked in the relations of a list. -/
def joinedList (named : List String) : List Joined → List Overlooked
  | [] => []
  | j :: js => joined named j ++ joinedList named js

/-- What is overlooked in a relation and its joins. -/
def joined (named : List String) : Joined → List Overlooked
  | .mk r js => relation named r ++ joins named js

/-- What is overlooked in joined relations. -/
def joins (named : List String) : List Join → List Overlooked
  | [] => []
  | .mk _ _ r _ constraint :: rest =>
    relation named r ++ inQueries (References.joinConstraint named constraint) ++ joins named rest

/-- What is overlooked in a relation. -/
def relation (named : List String) : Relation → List Overlooked
  | .derived _ q _ => query named q
  | .nested j _ => all .parentheses (Joined.tables [j]) ++ joined named j
  | .reshaped r _ _ => all .reshaped r.tables ++ relation named r
  | .function call _ => inQueries (References.expr named call)
  | _ => []

end

end Overlooked

/-- What is overlooked in a query, an update or a delete. -/
def Sql.Statement.overlooked : Statement → List Overlooked
  | .query q => Overlooked.query [] q
  | .update u => Overlooked.update [] u
  | .delete r => Overlooked.delete [] r
  | _ => []

namespace Overlooked

variable {t : Table}

/-- How often a table is overlooked. -/
def missed (t : Table) (list : List Overlooked) : Nat := (list.map Overlooked.table).count t

@[simp] theorem missed_nil (t : Table) : missed t [] = 0 := rfl

@[simp] theorem missed_append (t : Table) (list list' : List Overlooked) :
    missed t (list ++ list') = missed t list + missed t list' := by
  rw [missed, List.map_append, List.count_append]
  rfl

@[simp] theorem missed_all (t : Table) (corner : Corner) (tables : List Table) :
    missed t (all corner tables) = tables.count t := by
  rw [missed, all, List.map_map]
  exact congrArg (List.count t) (List.map_id tables)

@[simp] theorem missed_inQueries (t : Table) (references : List Reference) :
    missed t (inQueries references) = mentions t references := missed_all ..

/-! ## What is told and what is overlooked -/

theorem tables_cons : ∀ (j : Joined) (js : List Joined),
    Joined.tables (j :: js) = Joined.tables [j] ++ Joined.tables js
  | .mk r joins, js => by simp only [Joined.tables, List.append_nil]

theorem tables_append (js js' : List Joined) :
    Joined.tables (js ++ js') = Joined.tables js ++ Joined.tables js' := by
  induction js with
  | nil => simp only [Joined.tables, List.nil_append]
  | cons j js ih => rw [List.cons_append, tables_cons, ih, tables_cons j js, List.append_assoc]

section

variable (t : Table)

-- The induction is on the tree, along which all three walks go. The constructor for a corner is where they part: the
-- table walk stops there, and what it would have found below is what is overlooked.
mutual

theorem ctes_told (named : List String) : ∀ list : List Cte,
    mentions t (References.ctes named list) = (Cte.tables list).count t + missed t (ctes named list)
  | [] => rfl
  | .mk name columns materialized q origin :: rest => by
    have first := query_told named q
    have others := ctes_told (name.folded :: named) rest
    simp only [References.ctes, Cte.tables, ctes, mentions_append, List.count_append, missed_append]
    omega

theorem query_told (named : List String) : ∀ q : Query,
    mentions t (References.query named q) = q.tables.count t + missed t (query named q)
  | .mk recursive list b order tail => by
    have queries := ctes_told (if recursive then References.declared list ++ named else named) list
    have rows := body_told (References.declared list ++ named) b
    simp only [References.query, Query.tables, query, mentions_append, mentions_passedOver, List.count_append,
      missed_append, missed_inQueries]
    omega

theorem body_told (named : List String) : ∀ b : Body,
    mentions t (References.body named b) = b.tables.count t + missed t (body named b)
  | .select s => by
    simpa only [References.body, Body.tables, body] using select_told named s
  | .query q => by
    simpa only [References.body, Body.tables, body] using query_told named q
  | .combined op quantifier left right => by
    have first := body_told named left
    have second := body_told named right
    simp only [References.body, Body.tables, body, mentions_append, List.count_append, missed_append]
    omega
  | .values keyword rowWord rows => by
    simp only [References.body, Body.tables, body, missed_inQueries, List.count_nil, Nat.zero_add]
  | .statement (.update u) => by
    have changed := update_told named u
    simp only [References.body, Body.tables, body, missed_append, missed_all, List.count_nil, Nat.zero_add]
    exact changed
  | .statement (.delete r) => by
    have changed := delete_told named r
    simp only [References.body, Body.tables, body, missed_append, missed_all, List.count_nil, Nat.zero_add]
    exact changed
  | .statement (.query q) => by simp [References.body, Body.tables, body]
  | .statement (.insert table parts) => by simp [References.body, Body.tables, body]
  | .statement (.other kind parts) => by simp [References.body, Body.tables, body]
  | .table name => rfl

theorem select_told (named : List String) : ∀ s : Select,
    mentions t (References.select named s) = s.tables.count t + missed t (select named s)
  | ⟨form, distinct, projection, into, relations, views, prewhere, selection, groupBy, groupOptions,
      clustering, having, windows, windowsFirst, qualify, hierarchy⟩ => by
    have read := joinedList_told named relations
    simp only [References.select, Select.tables, select, mentions_append, mentions_passedOver, missed_append,
      missed_inQueries]
    omega

theorem update_told (named : List String) : ∀ u : Update,
    mentions t (References.update named u) = (Statement.update u).tables.count t + missed t (update named u)
  | ⟨conflict, target, assigned, relationsFirst, relations, selection, tail⟩ => by
    have changed := joined_told named target
    have read := joinedList_told named relations
    simp only [References.update, Statement.tables, update, mentions_append, mentions_passedOver, missed_append,
      missed_inQueries]
    rw [tables_cons, List.count_append]
    omega

theorem delete_told (named : List String) : ∀ r : Delete,
    mentions t (References.delete named r) = (Statement.delete r).tables.count t + missed t (delete named r)
  | ⟨tables, fromWord, relations, others, selection, tail⟩ => by
    have changed := joinedList_told named relations
    have read := joinedList_told named others
    simp only [References.delete, Statement.tables, tables_append, delete, mentions_append, mentions_passedOver,
      List.count_append, missed_append, missed_inQueries]
    omega

theorem joinedList_told (named : List String) : ∀ js : List Joined,
    mentions t (References.joinedList named js) = (Joined.tables js).count t + missed t (joinedList named js)
  | [] => rfl
  | j :: rest => by
    have first := joined_told named j
    have others := joinedList_told named rest
    rw [References.joinedList, tables_cons, joinedList, mentions_append, List.count_append, missed_append]
    omega

theorem joined_told (named : List String) : ∀ j : Joined,
    mentions t (References.joined named j) = (Joined.tables [j]).count t + missed t (joined named j)
  | .mk r js => by
    have first := relation_told named r
    have others := joins_told named js
    simp only [References.joined, Joined.tables, joined, mentions_append, List.count_append, missed_append,
      List.append_nil]
    omega

theorem joins_told (named : List String) : ∀ js : List Join,
    mentions t (References.joins named js) = (Join.tables js).count t + missed t (joins named js)
  | [] => rfl
  | .mk global kind r matchCondition constraint :: rest => by
    have first := relation_told named r
    have others := joins_told named rest
    simp only [References.joins, Join.tables, joins, mentions_append, mentions_passedOver, List.count_append,
      missed_append, missed_inQueries]
    omega

theorem relation_told (named : List String) : ∀ r : Relation,
    mentions t (References.relation named r) = r.tables.count t + missed t (relation named r)
  | .table name partitions args ordinality aliased after => by
    simp only [References.relation, Relation.tables, relation, mentions_reached, mentions_passedOver, missed_nil]
  | .derived lateral q aliased => by
    simpa only [References.relation, Relation.tables, relation] using query_told named q
  | .nested j aliased => by
    have inside := joined_told named j
    simp only [References.relation, Relation.tables, relation, missed_append, missed_all, List.count_nil,
      Nat.zero_add]
    exact inside
  | .reshaped r clause aliased => by
    have inside := relation_told named r
    simp only [References.relation, Relation.tables, relation, mentions_append, mentions_passedOver, missed_append,
      missed_all, List.count_nil, Nat.zero_add, Nat.add_zero]
    exact inside
  | .function call aliased => by
    simp only [References.relation, Relation.tables, relation, missed_inQueries, List.count_nil, Nat.zero_add]
  | .special parts aliased after => by
    simp only [References.relation, Relation.tables, relation, mentions_passedOver, missed_nil, List.count_nil]

end

end

theorem statement_told (t : Table) {s : Statement} (scopable : s.isScopable = true) :
    mentions t (References.statement [] s) = s.tables.count t + missed t s.overlooked := by
  cases s with
  | query q => exact query_told t [] q
  | update u => exact update_told t [] u
  | delete r => exact delete_told t [] r
  | insert => cases scopable
  | other kind => cases kind <;> cases scopable

theorem statements_told (t : Table) {list : List Statement} (scopable : ∀ s ∈ list, s.isScopable = true) :
    mentions t (References.statements list) =
      (list.flatMap Statement.tables).count t + missed t (list.flatMap Statement.overlooked) := by
  induction list with
  | nil => rfl
  | cons s rest ih =>
    have first := statement_told t (scopable s (List.mem_cons_self ..))
    have others := ih fun s mem => scopable s (List.mem_cons_of_mem _ mem)
    rw [References.statements] at others ⊢
    simp only [List.flatMap_cons, mentions_append, List.count_append, missed_append]
    omega

end Overlooked

/-- Where a text of queries, updates and deletes is rewritten, the source is asked about the tables that the
statements tell of and about those that are overlooked, each as often as it is read. So the two agree exactly if
nothing is overlooked. -/
theorem listed_or_overlooked (codec : Codec) (source : Source σ) {sql : String} {list : List Statement}
    {r : Rewritten} {s s' : σ} (parsed : codec.parse sql = some list)
    (scopable : ∀ statement ∈ list, statement.isScopable = true)
    (answered : (rewriteWith codec source sql).run.run s = (.ok r, s')) :
    ∃ log, (rewriteWith codec (recording source) sql).run.run (s, []) = (.ok r, (s', log)) ∧
      (listings log).Perm
        (list.flatMap Statement.tables ++ (list.flatMap Statement.overlooked).map Overlooked.table) ∧
      ((listings log).Perm (list.flatMap Statement.tables) ↔ ∀ st ∈ list, st.overlooked = []) := by
  obtain ⟨log, run, reached, -⟩ := rewriteWith_lists_reached codec source parsed answered
  have told : (reachedTables (References.statements list)).Perm
      (list.flatMap Statement.tables ++ (list.flatMap Statement.overlooked).map Overlooked.table) := by
    refine List.perm_iff_count.mpr fun t => ?_
    rw [List.count_append]
    exact Overlooked.statements_told t scopable
  refine ⟨log, run, reached.trans told, ?_⟩
  constructor
  · intro same
    have length := (same.symm.trans (reached.trans told)).length_eq
    rw [List.length_append, List.length_map] at length
    have none : list.flatMap Statement.overlooked = [] := List.length_eq_zero_iff.mp (by omega)
    exact List.flatMap_eq_nil_iff.mp none
  · intro none
    have all := reached.trans told
    rwa [List.flatMap_eq_nil_iff.mpr none, List.map_nil, List.append_nil] at all

/-- A query of two tables that are joined in parentheses. -/
def buyersText : String := "SELECT * FROM (orders JOIN users ON users.id = orders.user_id)"

/-- What becomes of it: both tables are restricted. -/
def buyersRewritten : Rewritten where
  sql := "SELECT * FROM (orders JOIN users ON users.id = orders.user_id) " ++
    "WHERE orders.tenant_id = 'T1' AND users.tenant_id = 'T1'"
  added := ⟨["orders.tenant_id = 'T1'", "users.tenant_id = 'T1'"], ["orders", "users"]⟩

/-- The source is asked about the tables in the parentheses, and the statement tells of none. -/
theorem buyers_overlooked :
    ∃ list log, Sql.parse .postgres buyersText = some list ∧
      (rewriteWith (.ofDialect .postgres) (recording oneTenant) buyersText).run.run ((), []) =
        (.ok buyersRewritten, ((), log)) ∧
      (listings log).Perm [⟨"orders", none⟩, ⟨"users", none⟩] ∧
      list.flatMap Statement.tables = [] ∧
      ¬ (listings log).Perm (list.flatMap Statement.tables) := by
  have read : (Sql.parse .postgres buyersText).map (fun list =>
      (list.flatMap Statement.tables, list.flatMap Statement.overlooked, list.all Statement.isScopable)) =
      some ([], [⟨⟨"orders", none⟩, .parentheses⟩, ⟨⟨"users", none⟩, .parentheses⟩], true) := by
    decide +kernel
  have answered : (rewriteWith (.ofDialect .postgres) oneTenant buyersText).run.run () =
      (.ok buyersRewritten, ()) := by
    change ((_ : Except Error Rewritten × Unit) = _)
    decide +kernel
  obtain ⟨list, parsed, known⟩ := Option.map_eq_some_iff.mp read
  simp only [Prod.mk.injEq, List.all_eq_true] at known
  obtain ⟨tables, overlooked, scopable⟩ := known
  obtain ⟨log, run, listed, agrees⟩ :=
    listed_or_overlooked (.ofDialect .postgres) oneTenant parsed scopable answered
  rw [tables, overlooked] at listed
  refine ⟨list, log, parsed, run, listed, tables, fun same => ?_⟩
  rw [List.flatMap_eq_nil_iff.mpr (agrees.mp same)] at overlooked
  cases overlooked

end RowAccess
