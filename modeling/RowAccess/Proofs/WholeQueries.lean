import RowAccess.Proofs.Additions
import RowAccess.Proofs.Rests
import RowAccess.Proofs.Targets
/-!
# Data permissions without a table

A data rule that names no table restricts queries as a whole: the condition for the caller goes into the
`WHERE` of each query and statement that names a table, and nowhere else (`condition_of_whole_queries`). Tables
under `PIVOT` and its kin do not count for that, though they are wrapped for their own predicates, so a query
that reads no others is not restricted.
-/

namespace RowAccess

open Sql Semantics

/-! ## Tables of a query -/

/-- A table that a `FROM` list names, outside of queries in it. -/
structure PlainTable where
  table : Table
  /-- Whether it stands under `PIVOT` or its kin. -/
  reshaped : Bool
deriving DecidableEq, Repr, Inhabited

namespace PlainTable

mutual

/-- The tables of a relation and its joins. -/
def ofJoined (reshaped : Bool) : Joined → List PlainTable
  | .mk r js => ofRelation reshaped r ++ ofJoins reshaped js

/-- The tables of joined relations. -/
def ofJoins (reshaped : Bool) : List Join → List PlainTable
  | [] => []
  | .mk _ _ r _ _ :: rest => ofRelation reshaped r ++ ofJoins reshaped rest

/-- The tables of a relation. -/
def ofRelation (reshaped : Bool) : Relation → List PlainTable
  | .table name _ _ _ aliased _ => [⟨⟨Name.render name, aliased.map (·.name.render)⟩, reshaped⟩]
  | .nested j _ => ofJoined reshaped j
  | .reshaped r _ _ => ofRelation true r
  | .derived .. | .function .. | .special .. => []

end

/-- The tables of a `FROM` list. -/
def ofList (relations : List Joined) : List PlainTable := relations.flatMap (ofJoined false)

mutual

theorem countP_relation (reshaped : Bool) : ∀ r : Relation,
    (ofRelation reshaped r).countP (!·.reshaped) = if reshaped then 0 else Rewrite.relationTables r
  | .table .. => by cases reshaped <;> rfl
  | .nested (.mk r js) _ => by
    rw [ofRelation, ofJoined, List.countP_append, countP_relation reshaped r, countP_joins reshaped js]
    cases reshaped <;> rfl
  | .reshaped r _ _ => by
    rw [ofRelation, countP_relation true r]
    cases reshaped <;> rfl
  | .derived .. | .function .. | .special .. => by cases reshaped <;> rfl

theorem countP_joins (reshaped : Bool) : ∀ js : List Join,
    (ofJoins reshaped js).countP (!·.reshaped) = if reshaped then 0 else Rewrite.joinTables js
  | [] => by cases reshaped <;> rfl
  | .mk _ _ r _ _ :: rest => by
    rw [ofJoins, List.countP_append, countP_relation reshaped r, countP_joins reshaped rest]
    cases reshaped <;> rfl

end

/-- The tables that are counted are those that are not reshaped. -/
theorem countP_list (relations : List Joined) :
    (ofList relations).countP (!·.reshaped) = Rewrite.countTables relations := by
  induction relations with
  | nil => rfl
  | cons j js ih =>
    obtain ⟨r, joins⟩ := j
    rw [ofList, List.flatMap_cons, List.countP_append, ofJoined, List.countP_append, countP_relation,
      countP_joins, Rewrite.countTables, ← ih]
    rfl

theorem countTables_pos (relations : List Joined) :
    0 < Rewrite.countTables relations ↔ ∃ t ∈ ofList relations, t.reshaped = false := by
  rw [← countP_list, List.countP_pos_iff]
  simp only [Bool.not_eq_true']

end PlainTable

/-! ## Where the condition goes -/

/-- Whether a condition is in another one already: as a term, or with all the terms that it has itself. -/
def isPresent (p : Expr) (condition : Option Expr) : Bool :=
  condition.any (hasConjunct p.render) ||
    (Outline.chain p).all fun t => condition.any (hasConjunct t.render)

/-- A condition that is no conjunction is in another one exactly if rewriting finds it there. -/
theorem isPresent_single {p : Expr} (single : isConjunction p = false) (condition : Option Expr) :
    isPresent p condition = condition.any (hasConjunct p.render) := by
  have alone : Outline.chain p = [p] := by
    unfold Outline.chain
    split
    · cases single
    · rfl
  rw [isPresent, alone, List.all_cons, List.all_nil, Bool.and_true, Bool.or_self]

/-- Where there is no condition, no other one is in it. -/
theorem isPresent_none (p : Expr) : isPresent p none = false := by
  have some : Outline.chain p ≠ [] := by
    fun_induction Outline.chain p with
    | case1 left right ihl ihr => exact List.append_ne_nil_of_left_ne_nil ihl _
    | case2 e single => exact List.cons_ne_nil _ _
  obtain ⟨t, mem⟩ := List.exists_mem_of_ne_nil _ some
  rw [isPresent, Option.any_none, Bool.false_or, List.all_eq_false]
  exact ⟨t, mem, Bool.false_ne_true⟩

theorem sizeOf_asConjunct (e : Expr) : sizeOf e ≤ sizeOf (asConjunct e) := by
  unfold asConjunct
  split <;> simp

/-- A condition with a further term is another one. -/
theorem conjoin_ne (condition : Option Expr) (p : Expr) : some (conjoin condition p) ≠ condition := by
  cases condition with
  | none => exact nofun
  | some e =>
    intro same
    have larger := congrArg sizeOf (Option.some.inj same)
    have kept := sizeOf_asConjunct e
    simp only [conjoin, Expr.binary.sizeOf_spec] at larger
    omega

theorem withTerms_append (condition : Option Expr) (ps qs : List Expr) :
    withTerms condition (ps ++ qs) = withTerms (withTerms condition ps) qs := by
  induction ps generalizing condition with
  | nil => rfl
  | cons p ps ih =>
    rw [List.cons_append, withTerms, withTerms]
    split
    · exact ih _
    · exact ih _

theorem withTerms_singleton (condition : Option Expr) (p : Expr) :
    withTerms condition [p] =
      if condition.any (hasConjunct p.render) then condition else some (conjoin condition p) := by
  rw [withTerms, withTerms, withTerms]

namespace WholeQuery

/-- What becomes of a condition, where `p` restricts queries as a whole: it is added to the `WHERE` of a query
that names a table outside of `PIVOT` and its kin, unless it is found there. -/
def Placed (p : Expr) : Site → Option Expr → Option Expr → Prop
  | .filter _ relations, before, after =>
    after = if ∃ t ∈ PlainTable.ofList relations, t.reshaped = false then withTerms before [p] else before
  | .join .., before, after => after = before

/-- What should become of it: `p` belongs into the `WHERE` of each query that names a table, once. -/
def Due (p : Expr) : Site → Option Expr → Option Expr → Prop
  | .filter _ relations, before, after =>
    after = if PlainTable.ofList relations = [] ∨ isPresent p before then before else some (conjoin before p)
  | .join .., before, after => after = before

/-- The tables of a query are all under `PIVOT` or its kin, and its `WHERE` does not have the condition. -/
def Missed (p : Expr) (relations : List Joined) (before : Option Expr) : Prop :=
  PlainTable.ofList relations ≠ [] ∧ (∀ t ∈ PlainTable.ofList relations, t.reshaped = true) ∧
    isPresent p before = false

/-- The condition is a conjunction, and a `WHERE` that gets it has all its terms, but not itself as a term. -/
def Doubled (p : Expr) (relations : List Joined) (before : Option Expr) : Prop :=
  (∃ t ∈ PlainTable.ofList relations, t.reshaped = false) ∧ isPresent p before = true ∧
    before.any (hasConjunct p.render) = false

/-- All that is added are the predicates for the tenant and, where it is placed, the condition `p`. -/
def additions (codec : Codec) (p : Expr) : Additions where
  condition site before after := ∃ forTenant : List Predicate, (∀ q ∈ forTenant, q.concern = .tenant) ∧
    Placed p site (withTerms before (forTenant.map (·.condition))) after
  table _ r r' := ∃ forTenant : List Predicate, (∀ q ∈ forTenant, q.concern = .tenant) ∧
    ∃ t, r.table? = some t ∧ Rewrite.wrapped codec r t (withTerms none (forTenant.map (·.condition))) = .ok r'
  failure _ := True

/-- The condition is where it should be, except where it is missed or doubled. -/
theorem due_iff {p : Expr} {operation : Operation} {relations : List Joined} {before after : Option Expr}
    (placed : Placed p (.filter operation relations) before after) :
    Due p (.filter operation relations) before after ↔
      ¬ Missed p relations before ∧ ¬ Doubled p relations before := by
  rw [Placed] at placed
  rw [Due, Missed, Doubled, placed]
  by_cases read : ∃ t ∈ PlainTable.ofList relations, t.reshaped = false
  · have nonempty : PlainTable.ofList relations ≠ [] := by
      obtain ⟨t, mem, -⟩ := read
      exact List.ne_nil_of_mem mem
    have some : ¬ ∀ t ∈ PlainTable.ofList relations, t.reshaped = true := by
      obtain ⟨t, mem, plain⟩ := read
      intro all
      rw [all t mem] at plain
      cases plain
    rw [if_pos read, withTerms_singleton]
    by_cases found : before.any (hasConjunct p.render) = true
    · have present : isPresent p before = true := by rw [isPresent, found, Bool.true_or]
      simp [found, present, some]
    · by_cases present : isPresent p before = true
      · rw [if_neg found, if_pos (.inr present)]
        simp [conjoin_ne, read, present, found]
      · rw [if_neg found, if_neg (by simp [nonempty, present])]
        simp [present, some]
  · have all : ∀ t ∈ PlainTable.ofList relations, t.reshaped = true := by simpa using read
    rw [if_neg read]
    by_cases present : isPresent p before = true
    · simp [present, read]
    · by_cases empty : PlainTable.ofList relations = []
      · simp [empty]
      · rw [if_neg (by simp [empty, present])]
        simpa [Ne.symm (conjoin_ne before p), empty, present] using all

theorem joinScope_placement {operation : Operation} {visible : Nat} {kind : JoinKind} {outer tables : List Table}
    {scope : Scope} (asked : Outline.joinScope operation visible kind outer tables = some scope) :
    scope.placement = .join := by
  obtain ⟨-, made⟩ := Option.ite_none_left_eq_some.mp asked
  cases made
  rfl

section

variable {σ : Type} {e : Enforcer σ} {ctx : Context} {r : Rule} {data : Config.DataRule} {p : Predicate}
  (asked : r.data = some data) (everywhere : data.table = none)
  (restricted : e.dataPredicate? ctx data none none = .ok (some p))

include asked everywhere restricted

theorem predicates_whole {scope : Scope} {ps : List Predicate} {s s' : σ}
    (answered : (e.predicates ctx r scope).run.run s = (.ok ps, s')) :
    ∃ forTenant, (∀ q ∈ forTenant, q.concern = .tenant) ∧
      ps = forTenant ++ if scope.placement = .filter ∧ 0 < scope.visible then [p] else [] := by
  obtain ⟨forTenant, forData, rfl, tenant, found⟩ := e.predicates_ok ctx answered
  rw [asked] at found
  refine ⟨forTenant, fun q mem => ?_, congrArg _ ?_⟩
  · obtain ⟨t, -, own⟩ := Enforcer.exists_builtFor (Enforcer.forTenant_built tenant) q mem
    exact own.concern
  · have placed := Enforcer.dataPredicates_everywhere everywhere found
    split at placed
    · next read =>
      obtain ⟨q, same, rfl⟩ := placed
      obtain rfl := Except.ok.inj (restricted.symm.trans same)
      rw [if_pos read]
      rfl
    · next read => rw [if_neg read, placed]

theorem agrees (codec : Codec) : (additions codec p.condition).Agrees codec (e.CanAnswer ctx r) where
  unasked site none condition := by
    cases site with
    | filter operation relations => cases none
    | join => exact ⟨[], nofun, rfl⟩
  asked site scope asks ps := by
    rintro ⟨s, s', answered⟩ condition
    obtain ⟨forTenant, own, rfl⟩ := predicates_whole asked everywhere restricted answered
    refine ⟨forTenant, own, ?_⟩
    rw [List.map_append, withTerms_append]
    cases site with
    | filter operation relations =>
      obtain rfl := Option.some.inj asks
      simp only [Placed, ← PlainTable.countTables_pos, true_and]
      split <;> rfl
    | join =>
      rw [joinScope_placement asks]
      rfl
  table operation r t named ps := by
    rintro ⟨s, s', answered⟩
    obtain ⟨forTenant, own, rfl⟩ := predicates_whole asked everywhere restricted answered
    have none : (if Placement.join = .filter ∧ 0 < 1 then [p] else []) = [] := rfl
    rw [none, List.append_nil]
    split
    · next r' made => exact ⟨forTenant, own, t, named, made⟩
    · trivial

end

end WholeQuery

open WholeQuery in
/-- Under a data rule without a table, a statement is rewritten to one in which the condition for the caller is
in the `WHERE` of each query that names a table outside of `PIVOT` and its kin, and is added nowhere else: the
other additions are predicates for the tenant. So it is in each `WHERE` where it should be, once, except if it is
missed because the tables are all under `PIVOT` and its kin, or doubled because it is a conjunction. -/
theorem condition_of_whole_queries {σ : Type} (e : Enforcer σ) (ctx : Context) {r : Rule} {data : Config.DataRule}
    {p : Predicate} (asked : r.data = some data) (everywhere : data.table = none)
    (restricted : e.dataPredicate? ctx data none none = .ok (some p)) {sql : String} {list : List Statement}
    {result : Rewritten} (s : σ) (parsed : Sql.parse e.config.dialect sql = some list)
    (rewritten : ((rewrite e.config.dialect (e.predicates ctx r) sql).run.run s).1 = .ok result) :
    (∃ list', Adds.statements (additions (.ofDialect e.config.dialect) p.condition) list list' ∧
      result.sql = if result.isChanged then renderStatements list' else sql) ∧
    ∀ operation relations before after,
      Placed p.condition (.filter operation relations) before after →
      (Due p.condition (.filter operation relations) before after ↔
        ¬ Missed p.condition relations before ∧ ¬ Doubled p.condition relations before) ∧
      (isConjunction p.condition = false → ¬ Doubled p.condition relations before ∧
        ((∃ t ∈ PlainTable.ofList relations, t.reshaped = false) →
          after.any (hasConjunct p.condition.render) = true)) := by
  constructor
  · exact Enforcer.rewrite_sites (agrees asked everywhere restricted _) parsed rewritten
  · intro operation relations before after placed
    refine ⟨due_iff placed, fun single => ⟨?_, fun read => ?_⟩⟩
    · rintro ⟨-, present, absent⟩
      rw [isPresent_single single, absent] at present
      cases present
    · rw [Placed, if_pos read] at placed
      rw [placed]
      exact Rewrite.any_withTerms_of_mem before (by simpa using single) _ (.head _)

/-! ## A query of pivoted orders -/

namespace PivotedOrders

/-- A query of a pivoted table. -/
def text : String := "SELECT * FROM orders PIVOT(sum(x) FOR y IN ('a', 'b')) AS p"

/-- All queries are restricted by data permissions. -/
def enforcer : Enforcer Memory where
  config := { dataPermission := { enabled := true }, operations := [("report", { data := some {} })] }
  tenants := .ofTenancy {} .memory
  directory := Departments.directory ⟨[], []⟩

def rule : Rule := ⟨"report", false, some {}⟩

/-- Somebody without any role. -/
def clerk : Context := .start (.user ⟨"clerk", none, none, [], false⟩)

/-- Whether statements are a single `SELECT` without a condition, of one table that is pivoted. -/
def isPivoted (table : Table) : List Statement → Bool
  | [.query (.mk false [] (.select s) [] [])] =>
    s.selection.isNone && PlainTable.ofList s.relations == [⟨table, true⟩]
  | _ => false

/-- The clerk, who may see no order, reads them all in a pivoted table: the query gets no condition. -/
theorem orders_missed : ∃ (s : Select) (p : Predicate) (result : Rewritten),
    Sql.parse enforcer.config.dialect text = some [.query (.ofBody (.select s))] ∧
      enforcer.dataPredicate? clerk {} none none = .ok (some p) ∧ p.condition.render = "1 = 0" ∧
      ((rewrite enforcer.config.dialect (enforcer.predicates clerk rule) text).run.run .empty).1 = .ok result ∧
      result.sql = text ∧ PlainTable.ofList s.relations = [⟨⟨"orders", none⟩, true⟩] ∧
      (∃ list', Adds.statements (WholeQuery.additions (.ofDialect enforcer.config.dialect) p.condition)
        [.query (.ofBody (.select s))] list') ∧
      ¬ WholeQuery.Due p.condition (.filter .select s.relations) s.selection s.selection := by
  have read : (Sql.parse enforcer.config.dialect text).any (isPivoted ⟨"orders", none⟩) = true := by
    decide +kernel
  have restricted : (enforcer.dataPredicate? clerk {} none none).toOption.any
      (Option.any fun p => p.condition.render == "1 = 0") = true := by decide +kernel
  have unchanged : ((rewrite enforcer.config.dialect (enforcer.predicates clerk rule) text).run.run
      Memory.empty).1.toOption.any (·.sql == text) = true := by decide +kernel
  obtain ⟨list, parsed, pivoted⟩ := Option.any_eq_true _ _ |>.mp read
  obtain ⟨_, _, found, written⟩ := ok_of_any (x := (enforcer.dataPredicate? clerk {} none none, ())) restricted
  obtain ⟨p, rfl, written⟩ := Option.any_eq_true _ _ |>.mp written
  obtain ⟨result, store, ran, same⟩ := ok_of_any unchanged
  have restricted := congrArg Prod.fst found
  have rewritten := congrArg Prod.fst ran
  unfold isPivoted at pivoted
  split at pivoted
  · next s =>
    obtain ⟨unconditional, plain⟩ := Bool.and_eq_true _ _ |>.mp pivoted
    have plain := beq_iff_eq.mp plain
    obtain ⟨sites, due⟩ := condition_of_whole_queries enforcer clerk (r := rule) rfl rfl restricted .empty parsed
      rewritten
    refine ⟨s, p, result, parsed, restricted, beq_iff_eq.mp written, rewritten, beq_iff_eq.mp same, plain,
      sites.imp fun _ => And.left, ?_⟩
    have absent : isPresent p.condition s.selection = false := by
      rw [Option.isNone_iff_eq_none.mp unconditional, isPresent_none]
    rw [(due .select s.relations s.selection s.selection (by simp [WholeQuery.Placed, plain])).1]
    rintro ⟨reads, -⟩
    exact reads ⟨by simp [plain], by simp [plain], absent⟩
  · cases pivoted

end PivotedOrders

end RowAccess
