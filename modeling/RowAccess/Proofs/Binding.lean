import RowAccess.Proofs.Additions
import RowAccess.Proofs.Isolation
import RowAccess.Proofs.Targets
/-!
# What the columns of predicates belong to

A predicate is written with a qualifier, or with a bare column, and placed where the walk over the relations finds a
place. Whether its columns then belong to the table that it is for depends on the names in sight there. They do
exactly if the table is in sight, and a bare column has no other relation beside its table (`columns_bound_iff`).
What puts a table out of sight is an alias for joins in parentheses, and a `SEMI` or `ANTI` join.
-/

namespace RowAccess

open Sql Semantics

variable {σ : Type}

/-! ## Relations in sight -/

/-- A relation whose columns a condition can refer to. -/
inductive Shown where
  | table (r : Ref)
  /-- A query, a function, joins with an alias or whatever else; it may have no name. -/
  | other (name : Option Ident)
deriving DecidableEq, Repr, Inhabited

namespace Shown

/-- What the relation is called. -/
def name : Shown → Name
  | table r => r.aliased.elim r.name ([·])
  | other name => name.toList

/-- The table that the relation is, if it is one. -/
def table? : Shown → Option Table
  | table r => some r.table
  | other _ => none

/-- Whether columns with this qualifier can belong to the relation: it ends its name, which may say more. -/
def answers (x : Shown) (qualifier : Name) : Bool :=
  !qualifier.isEmpty && (qualifier.map Ident.folded).isSuffixOf (x.name.map Ident.folded)

theorem render_name (r : Ref) : Name.render (table r).name = r.table.qualifier := by
  obtain ⟨name, _ | a⟩ := r
  · rfl
  · exact String.intercalate_singleton

end Shown

/-- The side of a join whose relations are out of sight after it: of that side it only asks whether there are rows. -/
def Sql.JoinKind.hidden? : JoinKind → Option Rewrite.NullableSide
  | .semi | .leftSemi | .anti | .leftAnti => some .joined
  | .rightSemi | .rightAnti => some .preceding
  | _ => none

namespace Shown

/-- What is in sight after a join. -/
def after (kind : JoinKind) (before new : List Shown) : List Shown :=
  match kind.hidden? with
  | some .joined => before
  | some .preceding => new
  | none => before ++ new

mutual

/-- What is in sight of a relation and its joins. -/
def joined : Joined → List Shown
  | .mk r js => joins (relation r) js

/-- What is in sight of joins after what is in sight before them. -/
def joins (before : List Shown) : List Join → List Shown
  | [] => before
  | .mk _ kind r _ _ :: rest => joins (after kind before (relation r)) rest

/-- What is in sight of a relation. Joins in parentheses are out of sight behind an alias. -/
def relation : Relation → List Shown
  | .table name _ _ _ aliased _ => [table ⟨name, aliased.map (·.name)⟩]
  | .nested j none => joined j
  | .nested _ (some a) => [other (some a.name)]
  | .derived _ _ aliased | .reshaped _ _ aliased | .function _ aliased | .special _ aliased _ =>
    [other (aliased.map (·.name))]

end

/-- Whether no relation can be taken for another one by its name. -/
def Apart (shown : List Shown) : Prop := shown.Pairwise fun x y => ¬ x.answers y.name ∧ ¬ y.answers x.name

/-- Whether a column with this qualifier, or a bare one, belongs to the table and to nothing else in sight. -/
def Denotes (shown : List Shown) (t : Table) : Option String → Prop
  | none => ∃ x, shown = [x] ∧ x.table? = some t
  | some qualifier => ∃ before x rest, shown = before ++ x :: rest ∧ x.table? = some t ∧
      Name.render x.name = qualifier ∧ ∀ y ∈ before ++ rest, ¬ y.answers x.name

/-- Where names are apart, a qualifier denotes each table in sight. -/
theorem denotes_qualifier {shown : List Shown} (apart : Apart shown) {t : Table} {x : Shown} (mem : x ∈ shown)
    (isTable : x.table? = some t) : Denotes shown t (some t.qualifier) := by
  obtain ⟨before, rest, rfl⟩ := List.append_of_mem mem
  obtain ⟨-, after, across⟩ := List.pairwise_append.mp apart
  refine ⟨before, x, rest, rfl, isTable, ?_, fun y other => ?_⟩
  · cases x with
    | table r =>
      obtain rfl := Option.some.inj isTable
      exact render_name r
    | other name => cases isTable
  · rcases List.mem_append.mp other with earlier | later
    · exact (across y earlier x (.head _)).1
    · exact ((List.pairwise_cons.mp after).1 y later).2

/-- Where a table is in sight, a bare column belongs to it exactly if there is nothing else. -/
theorem denotes_bare {shown : List Shown} {t : Table} {x : Shown} (mem : x ∈ shown) (isTable : x.table? = some t) :
    Denotes shown t none ↔ shown.length = 1 := by
  constructor
  · rintro ⟨y, rfl, -⟩
    rfl
  · intro single
    obtain ⟨y, rfl⟩ := List.length_eq_one_iff.mp single
    obtain rfl := List.mem_singleton.mp mem
    exact ⟨x, rfl, isTable⟩

end Shown

/-! ## Tables whose predicates are to be placed -/

/-- A table in a `FROM` list, as it stands outside of the relations around it. -/
structure Seat where
  table : Table
  /-- Whether its predicates are still to be placed. -/
  pending : Bool
  /-- Whether it is in sight. -/
  visible : Bool
deriving DecidableEq, Repr, Inhabited

namespace Seat

/-- The side of a join whose predicates are placed in its condition. -/
def placed? (kind : JoinKind) : JoinConstraint → Option Rewrite.NullableSide
  | .on _ => Rewrite.nullableSide? kind
  | _ => none

/-- A table on one side of a join, after it. -/
def passJoin (placed hidden : Option Rewrite.NullableSide) (side : Rewrite.NullableSide) (s : Seat) : Seat where
  table := s.table
  pending := s.pending && placed != some side
  visible := s.visible && hidden != some side

/-- A table behind an alias. -/
def hide (s : Seat) : Seat := { s with visible := false }

/-- The tables of both sides of a join after it. -/
def after (kind : JoinKind) (constraint : JoinConstraint) (before new : List Seat) : List Seat :=
  before.map (passJoin (placed? kind constraint) kind.hidden? .preceding) ++
    new.map (passJoin (placed? kind constraint) kind.hidden? .joined)

mutual

/-- The tables of a relation and its joins. -/
def joined (wrapped : Bool) : Joined → List Seat
  | .mk r js =>
    joins (wrapped || js.any Rewrite.Join.needsWrapping) (relation (wrapped || js.any Rewrite.Join.needsWrapping) r) js

/-- The tables of joins after those before them. -/
def joins (wrapped : Bool) (before : List Seat) : List Join → List Seat
  | [] => before
  | .mk _ kind r _ constraint :: rest => joins wrapped (after kind constraint before (relation wrapped r)) rest

/-- The tables of a relation. The predicates of a wrapped table are placed. -/
def relation (wrapped : Bool) : Relation → List Seat
  | .table name _ _ _ aliased _ => [⟨⟨Name.render name, aliased.map (·.name.render)⟩, !wrapped, true⟩]
  | .nested j none => joined wrapped j
  | .nested j (some _) => (joined wrapped j).map hide
  | .reshaped r _ _ => (relation true r).map hide
  | .derived .. | .function .. | .special .. => []

end

/-- The tables that precede a join in a chain. -/
def soFar (wrapped : Bool) : Joined → List Seat
  | .mk r js => joins wrapped (relation wrapped r) js

/-- The tables whose flag is set. -/
def flagged (flag : Seat → Bool) (seats : List Seat) : List Table := (seats.filter flag).map table

theorem flagged_append (flag : Seat → Bool) (seats more : List Seat) :
    flagged flag (seats ++ more) = flagged flag seats ++ flagged flag more := by
  rw [flagged, List.filter_append, List.map_append]
  rfl

/-- A join takes a flag from the tables on one side, or from none. -/
theorem flagged_passJoin {flag : Seat → Bool} {placed hidden cleared : Option Rewrite.NullableSide}
    {side : Rewrite.NullableSide} (own : ∀ s, flag (passJoin placed hidden side s) = (flag s && cleared != some side))
    (seats : List Seat) :
    flagged flag (seats.map (passJoin placed hidden side)) =
      if cleared = some side then [] else flagged flag seats := by
  rw [flagged, List.filter_map, List.map_map]
  split
  · next same =>
    have none : seats.filter (flag ∘ passJoin placed hidden side) = [] := by
      simp [List.filter_eq_nil_iff, own, same]
    rw [none, List.map_nil]
  · next other =>
    have kept : flag ∘ passJoin placed hidden side = flag := by
      funext s
      simp [own, other]
    rw [kept]
    rfl

/-! ### Tables still to be restricted -/

theorem pending_hide (seats : List Seat) : flagged pending (seats.map hide) = flagged pending seats := by
  rw [flagged, List.filter_map, List.map_map]
  rfl

theorem pending_after (kind : JoinKind) (constraint : JoinConstraint) (before new : List Seat) :
    flagged pending (after kind constraint before new) =
      Outer.joinConstraint kind (flagged pending before) (flagged pending new) constraint := by
  rw [after, flagged_append, flagged_passJoin fun _ => rfl, flagged_passJoin fun _ => rfl]
  cases constraint with
  | on e =>
    rw [placed?, Outer.joinConstraint]
    rcases Rewrite.nullableSide? kind with _ | _ | _ <;> simp
  | columns | natural | none => rfl

mutual

theorem pending_joined (wrapped : Bool) : ∀ j : Joined,
    flagged pending (joined wrapped j) = Outer.joined wrapped j
  | .mk r js => by rw [joined, pending_joins, pending_relation, Outer.joined]

theorem pending_joins (wrapped : Bool) (before : List Seat) : ∀ js : List Join,
    flagged pending (joins wrapped before js) = Outer.joins wrapped (flagged pending before) js
  | [] => rfl
  | .mk _ kind r _ constraint :: rest => by
    rw [joins, pending_joins, pending_after, pending_relation, Outer.joins]

theorem pending_relation (wrapped : Bool) : ∀ r : Relation,
    flagged pending (relation wrapped r) = Outer.relation wrapped r
  | .table .. => by cases wrapped <;> rfl
  | .nested j none => pending_joined wrapped j
  | .nested j (some _) => by rw [relation, pending_hide, pending_joined, Outer.relation]
  | .reshaped r _ _ => by rw [relation, pending_hide, pending_relation, Outer.relation]
  | .derived .. | .function .. | .special .. => rfl

end

theorem pending_soFar (wrapped : Bool) (j : Joined) :
    flagged pending (soFar wrapped j) = Outer.soFar wrapped j := by
  obtain ⟨r, js⟩ := j
  rw [soFar, pending_joins, pending_relation, Outer.soFar]

/-! ### Tables in sight -/

theorem visible_hide (seats : List Seat) : flagged visible (seats.map hide) = [] := by
  rw [flagged, List.filter_map, List.map_map, List.map_eq_nil_iff, List.filter_eq_nil_iff]
  exact fun _ _ => Bool.false_ne_true

theorem visible_after {kind : JoinKind} {before new : List Seat} {shown shown' : List Shown}
    (earlier : flagged visible before = shown.filterMap Shown.table?)
    (later : flagged visible new = shown'.filterMap Shown.table?) (constraint : JoinConstraint) :
    flagged visible (after kind constraint before new) = (Shown.after kind shown shown').filterMap Shown.table? := by
  rw [after, flagged_append, flagged_passJoin fun _ => rfl, flagged_passJoin fun _ => rfl, earlier,
    later, Shown.after]
  rcases kind.hidden? with _ | _ | _ <;> simp

mutual

theorem visible_joined (wrapped : Bool) : ∀ j : Joined,
    flagged visible (joined wrapped j) = (Shown.joined j).filterMap Shown.table?
  | .mk r js => visible_joins _ (visible_relation _ r) js

theorem visible_joins (wrapped : Bool) {before : List Seat} {shown : List Shown}
    (earlier : flagged visible before = shown.filterMap Shown.table?) : ∀ js : List Join,
    flagged visible (joins wrapped before js) = (Shown.joins shown js).filterMap Shown.table?
  | [] => earlier
  | .mk _ _ r _ constraint :: rest =>
    visible_joins wrapped (visible_after earlier (visible_relation wrapped r) constraint) rest

theorem visible_relation (wrapped : Bool) : ∀ r : Relation,
    flagged visible (relation wrapped r) = (Shown.relation r).filterMap Shown.table?
  | .table _ _ _ _ aliased _ => by cases aliased <;> rfl
  | .nested j none => visible_joined wrapped j
  | .nested j (some _) => visible_hide (joined wrapped j)
  | .reshaped r _ _ => visible_hide (relation true r)
  | .derived .. | .function .. | .special .. => rfl

end

theorem visible_soFar (wrapped : Bool) (j : Joined) :
    flagged visible (soFar wrapped j) = (Shown.joined j).filterMap Shown.table? := by
  obtain ⟨r, js⟩ := j
  exact visible_joins wrapped (visible_relation wrapped r) js

end Seat

/-! ## Where predicates are placed -/

namespace Site

/-- The relations that a condition at a site can refer to. -/
def shown : Site → List Shown
  | .filter _ relations => relations.flatMap Shown.joined
  | .join _ _ _ preceding _ r => Shown.joined preceding ++ Shown.relation r

/-- The tables whose predicates a site may be the place for, and others beside them. -/
def seats : Site → List Seat
  | .filter _ relations => relations.flatMap (Seat.joined false)
  | .join _ _ wrapped preceding kind r =>
    match Rewrite.nullableSide? kind with
    | some .joined => Seat.relation wrapped r
    | some .preceding => Seat.soFar wrapped preceding
    | none => []

/-- The tables whose predicates are placed at a site. -/
def asked (site : Site) : List Seat := site.seats.filter Seat.pending

theorem scope_tables {site : Site} {scope : Scope} (asks : site.scope? = some scope) :
    scope.tables = site.asked.map Seat.table := by
  change _ = Seat.flagged Seat.pending site.seats
  cases site with
  | filter operation relations =>
    obtain rfl := Option.some.inj asks
    change relations.flatMap (Outer.joined false) = Seat.flagged Seat.pending (relations.flatMap (Seat.joined false))
    induction relations with
    | nil => rfl
    | cons j js ih =>
      rw [List.flatMap_cons, List.flatMap_cons, Seat.flagged_append, ih rfl]
      exact congrArg (· ++ _) (Seat.pending_joined false j).symm
  | join operation visible wrapped preceding kind r =>
    obtain ⟨-, made⟩ := Option.ite_none_left_eq_some.mp asks
    obtain rfl := Option.some.inj made
    rw [seats]
    rcases Rewrite.nullableSide? kind with _ | _ | _
    · rfl
    · exact (Seat.pending_relation wrapped r).symm
    · exact (Seat.pending_soFar wrapped preceding).symm

theorem visible_seats (site : Site) :
    Seat.flagged Seat.visible site.seats ⊆ site.shown.filterMap Shown.table? := by
  cases site with
  | filter operation relations =>
    rw [seats, shown]
    induction relations with
    | nil => exact List.Subset.refl _
    | cons j js ih =>
      rw [List.flatMap_cons, List.flatMap_cons, Seat.flagged_append, List.filterMap_append,
        ← Seat.visible_joined false j]
      exact List.append_subset.mpr ⟨List.subset_append_left _ _, List.Subset.trans ih (List.subset_append_right _ _)⟩
  | join operation visible wrapped preceding kind r =>
    rw [seats, shown, List.filterMap_append]
    rcases Rewrite.nullableSide? kind with _ | _ | _
    · exact List.nil_subset _
    · rw [Seat.visible_relation]
      exact List.subset_append_right _ _
    · rw [Seat.visible_soFar]
      exact List.subset_append_left _ _

/-- A table in sight is one of the relations that are. -/
theorem shown_of_visible {site : Site} {seat : Seat} (mem : seat ∈ site.asked) (visible : seat.visible = true) :
    ∃ x ∈ site.shown, x.table? = some seat.table := by
  have own : seat.table ∈ Seat.flagged Seat.visible site.seats :=
    List.mem_map_of_mem (List.mem_filter.mpr ⟨(List.mem_filter.mp mem).1, visible⟩)
  exact List.mem_filterMap.mp (site.visible_seats own)

/-- The columns of predicates for a table, as a scope qualifies them, belong to the table where they are placed. -/
def Binds (site : Site) (scope : Scope) (seat : Seat) : Prop :=
  seat.visible = true ∧ Shown.Denotes site.shown seat.table (scope.qualifierFor seat.table)

/-- Where names are apart, columns belong to their table exactly if it is in sight, and alone if they are bare. -/
theorem binds_iff {site : Site} (apart : Shown.Apart site.shown) {seat : Seat} (mem : seat ∈ site.asked)
    (scope : Scope) :
    site.Binds scope seat ↔
      seat.visible = true ∧ (scope.qualifierFor seat.table = none → site.shown.length = 1) := by
  refine and_congr_right fun visible => ?_
  obtain ⟨x, inSight, isTable⟩ := shown_of_visible mem visible
  rw [Scope.qualifierFor]
  split
  · exact (Shown.denotes_bare inSight isTable).trans ⟨fun single _ => single, fun single => single rfl⟩
  · have qualified : some seat.table.qualifier ≠ none := Option.some_ne_none _
    exact ⟨fun _ none => absurd none qualified, fun _ => Shown.denotes_qualifier apart inSight isTable⟩

end Site

/-- The columns of a predicate for a wrapped table belong to it, where they are placed. -/
theorem denotes_wrapped {r : Relation} {t : Table} (named : r.table? = some t) (operation : Operation) :
    Shown.Denotes (Shown.relation r) t (Scope.qualifierFor ⟨operation, .join, [t], 1⟩ t) := by
  have qualified : Scope.qualifierFor ⟨operation, .join, [t], 1⟩ t = some t.qualifier := by
    rw [Scope.qualifierFor, Scope.bareColumns]
    simp
  rw [qualified]
  cases r with
  | table name partitions args ordinality aliased after =>
    obtain rfl := Option.some.inj named
    refine Shown.denotes_qualifier (List.pairwise_singleton _ _) (.head _) ?_
    cases aliased <;> rfl
  | _ => cases named

namespace Binding

variable (e : Enforcer σ) (ctx : Context) (r : Rule)

/-- The predicate is for this table, which the rule restricts for some concern. -/
def IsFor (scope : Scope) (t : Table) (p : Predicate) : Prop :=
  ∃ c, e.restrictsTable ctx r t c = true ∧ e.BuiltFor ctx r scope c t p

/-- What becomes of the condition of a site: it gets predicates for tables whose predicates are placed there, and for
the query as a whole. -/
def Placed (site : Site) (before after : Option Expr) : Prop :=
  match site.scope? with
  | none => after = before
  | some scope => ∃ ps : List Predicate, after = withTerms before (ps.map (·.condition)) ∧
      ∀ p ∈ ps, p.table.isSome → ∃ seat ∈ site.asked, IsFor e ctx r scope seat.table p

/-- All that is added are predicates for tables at the places for them, and for queries as a whole. -/
def additions (codec : Codec) : Additions where
  condition := Placed e ctx r
  table operation T T' := ∃ (t : Table) (ps : List Predicate), T.table? = some t ∧
    Rewrite.wrapped codec T t (withTerms none (ps.map (·.condition))) = .ok T' ∧
      ∀ p ∈ ps, p.table.isSome → IsFor e ctx r ⟨operation, .join, [t], 1⟩ t p
  failure _ := True

variable {e : Enforcer σ} {ctx : Context} {r : Rule}

theorem isFor_of_answered {scope : Scope} {ps : List Predicate} (answered : e.CanAnswer ctx r scope ps) :
    ∀ p ∈ ps, p.table.isSome → ∃ t ∈ scope.tables, IsFor e ctx r scope t p := by
  obtain ⟨s, s', run⟩ := answered
  obtain ⟨forTenant, forData, whole, rfl, tenant, data, unnamed⟩ := Enforcer.predicates_of_tables run
  intro p mem named
  rcases List.mem_append.mp mem with mem | mem
  · have built : ∃ c, ∃ t ∈ scope.tables.filter (e.restrictsTable ctx r · c), e.BuiltFor ctx r scope c t p := by
      rcases List.mem_append.mp mem with mem | mem
      · exact ⟨_, Enforcer.exists_builtFor tenant p mem⟩
      · exact ⟨_, Enforcer.exists_builtFor data p mem⟩
    obtain ⟨c, t, listed, own⟩ := built
    obtain ⟨listed, restricted⟩ := List.mem_filter.mp listed
    exact ⟨t, listed, c, restricted, own⟩
  · rw [unnamed p mem] at named
    cases named

theorem agrees (codec : Codec) : (additions e ctx r codec).Agrees codec (e.CanAnswer ctx r) where
  unasked site none condition := by
    change Placed e ctx r site condition condition
    rw [Placed, none]
  asked site scope asks ps answered condition := by
    change Placed e ctx r site condition _
    rw [Placed, asks]
    refine ⟨ps, rfl, fun p mem named => ?_⟩
    obtain ⟨t, listed, own⟩ := isFor_of_answered answered p mem named
    rw [Site.scope_tables asks] at listed
    obtain ⟨seat, mem, rfl⟩ := List.mem_map.mp listed
    exact ⟨seat, mem, own⟩
  table operation T t named ps answered := by
    split
    · next T' made =>
      refine ⟨t, ps, named, made, fun p mem isSome => ?_⟩
      obtain ⟨t', listed, own⟩ := isFor_of_answered answered p mem isSome
      obtain rfl := List.mem_singleton.mp listed
      exact own
    · trivial

end Binding

/-- A rewritten statement has the predicates for its tables at the places for these tables. The columns of a
predicate that is wrapped with its table belong to the table. At any other place, where names are apart, they
belong to it exactly if the table is in sight, and a bare column has no other relation beside its table. -/
theorem columns_bound_iff (e : Enforcer σ) (ctx : Context) (r : Rule) {sql : String} {list : List Statement}
    {result : Rewritten} {s : σ} (parsed : Sql.parse e.config.dialect sql = some list)
    (rewritten : ((rewrite e.config.dialect (e.predicates ctx r) sql).run.run s).1 = .ok result) :
    (∃ list', Adds.statements (Binding.additions e ctx r (.ofDialect e.config.dialect)) list list' ∧
      result.sql = if result.isChanged then renderStatements list' else sql) ∧
    (∀ operation T t, T.table? = some t →
      Shown.Denotes (Shown.relation T) t (Scope.qualifierFor ⟨operation, .join, [t], 1⟩ t)) ∧
    ∀ (site : Site) (scope : Scope), site.scope? = some scope → Shown.Apart site.shown → ∀ seat ∈ site.asked,
      (site.Binds scope seat ↔
        seat.visible = true ∧ (scope.qualifierFor seat.table = none → site.shown.length = 1)) :=
  ⟨Enforcer.rewrite_sites (Binding.agrees _) parsed rewritten,
    fun operation _ _ named => denotes_wrapped named operation,
    fun _ scope _ apart _ mem => Site.binds_iff apart mem scope⟩

/-! ## A deletion by constant rows -/

namespace ConstantTenant

/-- A deletion of orders beside a query whose column has the name of the one for tenants. -/
def text : String := "DELETE FROM orders USING (SELECT 1 AS tenant_id) AS d"

/-- What becomes of it. -/
def restricted : String := "DELETE FROM orders USING (SELECT 1 AS tenant_id) AS d WHERE tenant_id = 'T1'"

/-- The orders, whose predicates are placed in the `WHERE`. -/
def orders : Seat := ⟨⟨"orders", none⟩, true, true⟩

/-- The site of the `WHERE` of a deletion. -/
def filter (r : Delete) : Site := .filter .delete (r.relations ++ r.others)

def rule : Rule := ⟨"report", true, none⟩

/-- Whether statements are a single deletion, of the orders beside a query. -/
def isDeletion : List Statement → Bool
  | [.delete r] => (filter r).shown == [.table ⟨[⟨"orders", none⟩], none⟩, .other (some ⟨"d", none⟩)] &&
      (filter r).asked == [orders] && Rewrite.countTables (r.relations ++ r.others) == 1
  | _ => false

/-- The bare column of the predicate does not belong to the orders: there is the query beside them. -/
theorem column_unbound : ∃ (r : Delete) (scope : Scope) (result : Rewritten) (list' : List Statement),
    Sql.parse tenantRules.config.dialect text = some [.delete r] ∧
      ((rewrite tenantRules.config.dialect (tenantRules.predicates (contextOf "T1") rule) text).run.run .empty).1 =
        .ok result ∧
      result.sql = restricted ∧ result.sql = renderStatements list' ∧
      Adds.statements (Binding.additions tenantRules (contextOf "T1") rule (.ofDialect .postgres))
        [.delete r] list' ∧
      (filter r).scope? = some scope ∧ orders ∈ (filter r).asked ∧
      tenantRules.restrictsTable (contextOf "T1") rule orders.table .tenant = true ∧
      ¬ (filter r).Binds scope orders := by
  have read : (Sql.parse tenantRules.config.dialect text).any isDeletion = true := by decide +kernel
  have answered : ((rewrite tenantRules.config.dialect (tenantRules.predicates (contextOf "T1") rule) text).run.run
      Memory.empty).1.toOption.any (fun result => result.sql == restricted && result.isChanged) = true := by
    decide +kernel
  obtain ⟨list, parsed, deletes⟩ := Option.any_eq_true _ _ |>.mp read
  obtain ⟨result, store, ran, same⟩ := ok_of_any answered
  obtain ⟨written, changed⟩ := Bool.and_eq_true _ _ |>.mp same
  have rewritten := congrArg Prod.fst ran
  obtain ⟨⟨list', adds, sql⟩, -, bound⟩ := columns_bound_iff tenantRules (contextOf "T1") rule parsed rewritten
  rw [changed, if_pos rfl] at sql
  unfold isDeletion at deletes
  split at deletes
  · next r =>
    simp only [Bool.and_eq_true, beq_iff_eq] at deletes
    obtain ⟨⟨shown, asked⟩, counted⟩ := deletes
    have mem : orders ∈ (filter r).asked := by
      rw [asked]
      exact .head _
    have apart : Shown.Apart (filter r).shown := by
      rw [shown, Shown.Apart]
      decide
    refine ⟨r, _, result, list', parsed, rewritten, beq_iff_eq.mp written, sql, adds, rfl, mem, by decide, ?_⟩
    rw [bound (filter r) _ rfl apart orders mem, shown]
    rintro ⟨-, alone⟩
    rw [counted] at alone
    exact absurd (alone rfl) (by decide)
  · cases deletes

end ConstantTenant

end RowAccess
