import RowAccess.Proofs.FromLists
import RowAccess.Proofs.Homes
/-!
# Tables are placed once

The tables of a `FROM` list are restricted at their homes (`Home`), which depend on nothing but what each table
stands in. The walk over the list knows less: it hands tables on from join to join, keeps some of them back for a
condition, and learns on its way down whether to wrap. Both come to the same (`relation_homed`, `joins_homed`): what
is handed on are the tables that have no home yet, and what is asked about are the homes with their tables.

So each table is in exactly one scope, that of its home, and the scopes have their tables in the order of the list
(`rewriteWith_places`).
-/

namespace RowAccess

open Sql Rewrite

/-! ## One join -/

/-- A join with a nullable side has a condition, or else its tables are wrapped. -/
theorem Rewrite.Join.restricts (global : Bool) (kind : JoinKind) (r : Relation) (matchCondition : Option Expr)
    (c : JoinConstraint) :
    nullableSide? kind = none ∨ Join.needsWrapping (.mk global kind r matchCondition c) = true ∨ ∃ e, c = .on e := by
  cases kind <;> first
    | exact .inl rfl
    | cases c <;> first
      | exact .inr (.inl rfl)
      | exact .inr (.inr ⟨_, rfl⟩)

/-- The scope for a home, if tables are at home there. -/
def scopeAt (operation : Operation) (visible : Nat) (xs : List Homed) (h : Home) : Option Scope :=
  if (tablesAt xs h).isEmpty then none
  else some ⟨operation, h.placement, tablesAt xs h, h.visible visible⟩

section

variable {n : Nat} {kind : JoinKind} {c : JoinConstraint} {before joined : List Homed}

theorem afterJoin_filter
    (placed : nullableSide? kind = none ∨ (tablesAt before .filter = [] ∧ tablesAt joined .filter = []) ∨
      ∃ e, c = .on e) :
    tablesAt (afterJoin n kind before joined) .filter =
      Outer.joinConstraint kind (tablesAt before .filter) (tablesAt joined .filter) c := by
  rw [afterJoin, tablesAt_append, tablesAt_beside_filter, tablesAt_beside_filter, tablesAt_under_filter]
  rcases side : nullableSide? kind with _ | _ | _ <;> cases c <;> simp_all [Outer.joinConstraint]

theorem afterJoin_join (operation : Operation) (visible : Nat)
    (placed : nullableSide? kind = none ∨ (tablesAt before .filter = [] ∧ tablesAt joined .filter = []) ∨
      ∃ e, c = .on e) (fresh : ∀ x ∈ before, x.1 ≠ .join [] n) :
    FromList.joinConstraint operation visible kind (tablesAt before .filter) (tablesAt joined .filter) c =
      (scopeAt operation visible (afterJoin n kind before joined) (.join [] n)).toList := by
  have apart : ∀ x ∈ rehome (Home.under n) joined, x.1 ≠ .join [] n := by
    intro x mem
    obtain ⟨y, -, rfl⟩ := List.mem_map.mp mem
    exact Home.under_ne_join y.1 n
  rw [scopeAt, afterJoin, tablesAt_append, tablesAt_beside_join fresh, tablesAt_beside_join apart,
    tablesAt_under_filter]
  rcases side : nullableSide? kind with _ | _ | _ <;> cases c <;>
    simp_all [FromList.joinConstraint, Outline.joinScope, Home.placement, Home.visible]

end

/-! ## Chains of joins -/

/-- The home does not belong to the `n`th relation or join of a chain, nor to a later one. -/
def Home.Before (n : Nat) (h : Home) : Prop := ∀ m, h.seat? = some m → m < n

namespace Home

variable {n : Nat} {h : Home}

theorem before_under (h : Home) (n : Nat) : (h.under n).Before (n + 1) := by
  intro m seat
  by_cases filter : h = .filter
  · rw [filter] at seat
    cases seat
  · rw [seat?_under h n filter] at seat
    cases seat
    exact Nat.lt_succ_self n

theorem Before.beside (earlier : h.Before (n + 1)) (kind : JoinKind) (side : NullableSide) :
    (h.beside n kind side).Before (n + 1) := by
  cases h with
  | filter =>
    intro m seat
    rw [Home.beside] at seat
    split at seat
    · cases seat
      exact Nat.lt_succ_self n
    · cases seat
  | _ => exact earlier

end Home

section

variable {n : Nat} {kind : JoinKind} {before joined : List Homed} {h : Home}

theorem tablesAt_afterJoin (other : h ≠ .filter) (elsewhere : h ≠ .join [] n) :
    tablesAt (afterJoin n kind before joined) h =
      tablesAt before h ++ tablesAt (rehome (Home.under n) joined) h := by
  rw [afterJoin, tablesAt_append, tablesAt_beside_of_ne _ other elsewhere, tablesAt_beside_of_ne _ other elsewhere]

theorem tablesAt_of_before (earlier : ∀ x ∈ before, x.1.Before n) (seat : h.seat? = some n) :
    tablesAt before h = [] := by
  rw [tablesAt, List.map_eq_nil_iff, List.filter_eq_nil_iff]
  intro x mem same
  obtain rfl := of_decide_eq_true same
  exact absurd (earlier x mem n seat) (lt_irrefl n)

theorem before_afterJoin (earlier : ∀ x ∈ before, x.1.Before n) :
    ∀ x ∈ afterJoin n kind before joined, x.1.Before (n + 1) := by
  intro x mem
  rcases List.mem_append.mp mem with mem | mem
  · obtain ⟨y, there, rfl⟩ := List.mem_map.mp mem
    exact Home.Before.beside (fun m seat => Nat.lt_succ_of_lt (earlier y there m seat)) kind _
  · obtain ⟨_, there, rfl⟩ := List.mem_map.mp mem
    obtain ⟨y, -, rfl⟩ := List.mem_map.mp there
    exact (y.1.before_under n).beside kind _

end

/-- Joins leave alone the homes before them. -/
theorem tablesAt_ofJoins (wrapped : Bool) {h : Home} (other : h ≠ .filter) :
    ∀ (js : List Join) (n : Nat) (before : List Occurrence), h.Before n →
      tablesAt (Occurrence.homed wrapped (Occurrence.ofJoins n js before)) h =
        tablesAt (Occurrence.homed wrapped before) h
  | [], _, _, _ => rfl
  | .mk _ kind r _ _ :: rest, n, before, earlier => by
    have elsewhere : h.seat? ≠ some n := fun seat => absurd (earlier n seat) (lt_irrefl n)
    have noJoin : h ≠ .join [] n := fun same => elsewhere (same ▸ rfl)
    have later : h.Before (n + 1) := fun m seat => Nat.lt_succ_of_lt (earlier m seat)
    rw [Occurrence.ofJoins, tablesAt_ofJoins wrapped other rest (n + 1) _ later, Occurrence.homed_join,
      tablesAt_afterJoin other noJoin, tablesAt_under_of_ne _ other elsewhere, List.append_nil]

theorem filterMap_under {operation : Operation} {visible n : Nat} {xs ys : List Homed} {hs : List Home}
    (same : ∀ h ∈ hs, tablesAt ys (h.under n) = tablesAt xs h) :
    (hs.map (Home.under n)).filterMap (scopeAt operation visible ys) =
      hs.filterMap (scopeAt operation visible xs) := by
  rw [List.filterMap_map]
  refine List.filterMap_congr fun h mem => ?_
  simp [scopeAt, same h mem]

section

variable (operation : Operation) (visible : Nat)

mutual

/-- A relation hands on the tables without a home in it, and the source is asked about the homes that have tables. -/
theorem relation_homed (wrapped : Bool) : ∀ r : Relation,
    Outer.relation wrapped r = tablesAt (Occurrence.homed wrapped (Occurrence.ofRelation r)) .filter ∧
      FromList.relation operation visible wrapped r = (Home.ofRelation r).filterMap
        (scopeAt operation visible (Occurrence.homed wrapped (Occurrence.ofRelation r)))
  | .table name _ _ _ aliased _ => by
    cases wrapped with
    | true => exact ⟨rfl, rfl⟩
    | false => exact ⟨rfl, rfl⟩
  | .derived .. | .function .. | .special .. => ⟨rfl, rfl⟩
  | .nested j _ => joined_homed wrapped j
  | .reshaped r _ _ => by
    rw [Occurrence.ofRelation, Occurrence.homed_reshaped]
    exact relation_homed true r

theorem joined_homed (wrapped : Bool) : ∀ j : Joined,
    Outer.joined wrapped j = tablesAt (Occurrence.homed wrapped (Occurrence.ofJoined j)) .filter ∧
      FromList.joined operation visible wrapped j = (Home.ofJoined j).filterMap
        (scopeAt operation visible (Occurrence.homed wrapped (Occurrence.ofJoined j)))
  | .mk r js => by
    have inside := relation_homed (wrapped || js.any Join.needsWrapping) r
    rw [Occurrence.ofJoined, Occurrence.homed_chain, Outer.joined, FromList.joined, Home.ofJoined,
      List.filterMap_append]
    -- From here on it only matters whether the tables of the chain are wrapped, not why.
    generalize wraps : (wrapped || js.any Join.needsWrapping) = wrapped' at inside ⊢
    have first : Occurrence.homed wrapped' ((Occurrence.ofRelation r).map (.under 0)) =
        rehome (Home.under 0) (Occurrence.homed wrapped' (Occurrence.ofRelation r)) :=
      Occurrence.homed_under wrapped' _ 0
    have earlier : ∀ x ∈ Occurrence.homed wrapped' ((Occurrence.ofRelation r).map (.under 0)),
        x.1.Before 1 := by
      rw [first]
      intro x mem
      obtain ⟨y, -, rfl⟩ := List.mem_map.mp mem
      exact y.1.before_under 0
    obtain ⟨outer, scopes⟩ := joins_homed wrapped' js 1 _ (fun needs => by simp [← wraps, needs]) earlier
    rw [first, tablesAt_under_filter, ← inside.1] at outer scopes
    refine ⟨outer, congrArg₂ _ (inside.2.trans (filterMap_under fun h mem => ?_).symm) scopes⟩
    have other := Home.ofRelation_ne_filter r h mem
    rw [tablesAt_ofJoins wrapped' (Home.under_ne_filter other) js 1 _ (h.before_under 0), first, tablesAt_under]

theorem joins_homed (wrapped : Bool) : ∀ (js : List Join) (n : Nat) (before : List Occurrence),
    (js.any Join.needsWrapping = true → wrapped = true) →
    (∀ x ∈ Occurrence.homed wrapped before, x.1.Before n) →
    Outer.joins wrapped (tablesAt (Occurrence.homed wrapped before) .filter) js =
        tablesAt (Occurrence.homed wrapped (Occurrence.ofJoins n js before)) .filter ∧
      FromList.joins operation visible wrapped (tablesAt (Occurrence.homed wrapped before) .filter) js =
        (Home.ofJoins n js).filterMap
          (scopeAt operation visible (Occurrence.homed wrapped (Occurrence.ofJoins n js before)))
  | [], _, _, _, _ => ⟨rfl, rfl⟩
  | .mk global kind r matchCondition c :: rest, n, before, wraps, earlier => by
    have inside := relation_homed wrapped r
    -- Where a nullable side comes without a condition, all tables are wrapped and none is left to place.
    have placed : nullableSide? kind = none ∨
        (tablesAt (Occurrence.homed wrapped before) .filter = [] ∧
          tablesAt (Occurrence.homed wrapped (Occurrence.ofRelation r)) .filter = []) ∨ ∃ e, c = .on e := by
      rcases Join.restricts global kind r matchCondition c with inner | needs | on
      · exact .inl inner
      · obtain rfl := wraps (by simp [needs])
        exact .inr (.inl ⟨Occurrence.tablesAt_homed_true _, Occurrence.tablesAt_homed_true _⟩)
      · exact .inr (.inr on)
    have fresh : ∀ x ∈ Occurrence.homed wrapped before, x.1 ≠ .join [] n := fun x mem same =>
      absurd (earlier x mem n (same ▸ rfl)) (lt_irrefl n)
    obtain ⟨outer, scopes⟩ := joins_homed wrapped rest (n + 1)
      (Occurrence.join n kind before (Occurrence.ofRelation r))
      (fun needs => wraps (by simp [needs])) (by rw [Occurrence.homed_join]; exact before_afterJoin earlier)
    rw [Occurrence.homed_join, afterJoin_filter placed, ← inside.1] at outer scopes
    have here := afterJoin_join operation visible placed fresh
    rw [← inside.1] at here
    rw [Outer.joins, FromList.joins, Home.ofJoins, Occurrence.ofJoins, List.filterMap_append]
    refine ⟨outer, congrArg₂ _ (inside.2.trans (filterMap_under fun h mem => ?_).symm) ?_⟩
    · have other := Home.under_ne_filter (n := n) (Home.ofRelation_ne_filter r h mem)
      rw [tablesAt_ofJoins wrapped other rest (n + 1) _ (h.before_under n), Occurrence.homed_join,
        tablesAt_afterJoin other (h.under_ne_join n), tablesAt_under,
        tablesAt_of_before earlier (h.seat?_under n (Home.ofRelation_ne_filter r h mem)), List.nil_append]
    · -- The joins after this one do not add to its tables.
      have later : (Home.join [] n).Before (n + 1) := by
        rintro m ⟨⟩
        exact Nat.lt_succ_self n
      have same := tablesAt_ofJoins wrapped (h := .join [] n) Home.noConfusion rest (n + 1)
        (Occurrence.join n kind before (Occurrence.ofRelation r)) later
      rw [Occurrence.homed_join] at same
      rw [here, scopes, List.filterMap_cons, scopeAt, scopeAt, same]
      split <;> rfl

end

/-! ## Lists -/

/-- The items of a list have no home in those before them. -/
theorem tablesAt_ofItems {h : Home} (other : h ≠ .filter) : ∀ (js : List Joined) (n : Nat), h.Before n →
    tablesAt (Occurrence.homed false (Occurrence.ofItems n js)) h = []
  | [], _, _ => rfl
  | j :: js, n, earlier => by
    have elsewhere : h.seat? ≠ some n := fun seat => absurd (earlier n seat) (lt_irrefl n)
    rw [Occurrence.homed_ofItems, tablesAt_append, tablesAt_under_of_ne _ other elsewhere,
      tablesAt_ofItems other js (n + 1) fun m seat => Nat.lt_succ_of_lt (earlier m seat)]
    rfl

theorem items_homed : ∀ (js : List Joined) (n : Nat),
    Outer.joinedList js = tablesAt (Occurrence.homed false (Occurrence.ofItems n js)) .filter ∧
      FromList.joinedList operation visible js = (Home.ofItems n js).filterMap
        (scopeAt operation visible (Occurrence.homed false (Occurrence.ofItems n js)))
  | [], _ => ⟨rfl, rfl⟩
  | j :: js, n => by
    obtain ⟨outer, scopes⟩ := joined_homed operation visible false j
    obtain ⟨outers, more⟩ := items_homed js (n + 1)
    rw [Occurrence.homed_ofItems, tablesAt_append, tablesAt_under_filter, ← outer, ← outers, Home.ofItems,
      FromList.joinedList, List.filterMap_append]
    refine ⟨rfl, congrArg₂ _ (scopes.trans (filterMap_under fun h mem => ?_).symm)
      (more.trans (List.filterMap_congr fun h mem => ?_))⟩
    · have other := Home.under_ne_filter (n := n) (Home.ofJoined_ne_filter j h mem)
      rw [tablesAt_append, tablesAt_under, tablesAt_ofItems other js (n + 1) (h.before_under n), List.append_nil]
    · obtain ⟨m, later, seat⟩ := Home.seat?_of_mem_ofItems (n + 1) js h mem
      have elsewhere : h.seat? ≠ some n := by
        rw [seat]
        rintro ⟨⟩
        omega
      rw [scopeAt, scopeAt, tablesAt_append, tablesAt_under_of_ne _ (Home.ne_filter_of_seat seat) elsewhere,
        List.nil_append]

end

/-! ## What the source is asked -/

namespace FromList

/-- The tables of a list. -/
def occurrences (l : FromList) : List Occurrence := Occurrence.ofItems 0 l.relations

/-- The tables at home somewhere. -/
def tablesAt (l : FromList) (h : Home) : List Table :=
  (l.occurrences.filter fun o => o.home = h).map Occurrence.table

/-- The scope for a home. -/
def scopeOf (l : FromList) (h : Home) : Scope := ⟨l.operation, h.placement, l.tablesAt h, h.visible l.visible⟩

/-- Where the predicates of a list go: to where tables are at home, and last into the `WHERE`. -/
def homes (l : FromList) : List Home :=
  (Home.ofItems 0 l.relations).filter (fun h => !(l.tablesAt h).isEmpty) ++ [.filter]

variable (l : FromList) {h : Home}

theorem tablesAt_eq (h : Home) :
    l.tablesAt h = RowAccess.tablesAt (Occurrence.homed false l.occurrences) h := by
  simp only [FromList.tablesAt, RowAccess.tablesAt, Occurrence.homed, List.filter_map, List.map_map,
    Function.comp_def]
  rfl

/-- The scopes for a list are those for its homes, in this order. -/
theorem strand_eq : l.strand = l.homes.map l.scopeOf := by
  obtain ⟨outer, scopes⟩ := items_homed l.operation l.visible l.relations 0
  have some (h : Home) : scopeAt l.operation l.visible (Occurrence.homed false l.occurrences) h =
      (Option.guard (fun h => !(l.tablesAt h).isEmpty) h).map l.scopeOf := by
    rw [scopeAt, ← tablesAt_eq, Option.guard]
    cases (l.tablesAt h).isEmpty <;> rfl
  rw [strand, homes, List.map_append, outer, scopes, ← List.filterMap_eq_filter, List.map_filterMap]
  refine congrArg₂ _ (List.filterMap_congr fun h _ => some h) ?_
  rw [List.map_singleton, scopeOf, tablesAt_eq]
  rfl

theorem mem_homes : h ∈ l.homes ↔
    h ∈ Home.ofItems 0 l.relations ∧ (∃ o ∈ l.occurrences, o.home = h) ∨ h = .filter := by
  simp [homes, FromList.tablesAt]

end FromList

/-- The scopes of a list place each table once. The scope of a home has the tables at home there, in the order of the
list. -/
structure FromList.Placed (l : FromList) : Prop where
  /-- There is one scope for each home. -/
  once : l.homes.Nodup
  /-- Every table has its home among them. -/
  every : ∀ o ∈ l.occurrences, o.home ∈ l.homes
  /-- There is no scope without tables, except for that of the `WHERE`. -/
  occupied : ∀ h ∈ l.homes, h ≠ .filter → ∃ o ∈ l.occurrences, o.home = h
  /-- A wrapped table is alone in its scope. -/
  alone : ∀ o ∈ l.occurrences, o.isWrapped = true → l.scopeOf o.home = ⟨l.operation, .join, [o.table], 1⟩
  /-- The scope of the `WHERE` comes last. -/
  last : l.homes.getLast? = some .filter

theorem FromList.placed (l : FromList) : l.Placed where
  once := by
    refine ((Home.nodup_ofItems 0 l.relations).filter _).append (List.nodup_singleton _) fun h mem filter => ?_
    obtain ⟨m, -, seat⟩ := Home.seat?_of_mem_ofItems 0 l.relations h (List.mem_of_mem_filter mem)
    exact Home.ne_filter_of_seat seat (List.mem_singleton.mp filter)
  every o mem := by
    rcases possible_items l.relations 0 _ (List.mem_map_of_mem mem) with filter | here
    · exact l.mem_homes.mpr (.inr filter)
    · exact l.mem_homes.mpr (.inl ⟨here, o, mem, rfl⟩)
  occupied h mem other := ((l.mem_homes.mp mem).resolve_right other).2
  alone o mem wrapped := by
    have home : o.home = .own o.address := by
      rw [Occurrence.home, Occurrence.homeIn, wrapped]
      rfl
    have addresses : (l.occurrences.map Occurrence.address).Nodup := Occurrence.nodup_address l.relations 0
    -- Addresses are not repeated, so no other table is at home in its filter.
    have single (o' : Occurrence) (mem' : o' ∈ l.occurrences) (same : o'.home = .own o.address) : o' = o :=
      List.inj_on_of_nodup_map addresses mem' mem (o'.address_of_home same)
    have only : l.occurrences.filter (fun o' => o'.home = .own o.address) = [o] := by
      rw [← List.perm_singleton]
      refine (List.perm_ext_iff_of_nodup (addresses.of_map.filter _) (List.nodup_singleton o)).mpr fun o' => ?_
      rw [List.mem_filter, List.mem_singleton, decide_eq_true_iff]
      constructor
      · rintro ⟨mem', same⟩
        exact single o' mem' same
      · rintro rfl
        exact ⟨mem, home⟩
    rw [home, FromList.scopeOf, FromList.tablesAt, only]
    rfl
  last := List.getLast?_concat

/-- Rewriting asks the source about the scopes of the `FROM` lists that it reaches, those of each list in their order,
and these place each table once. If it fails, it has asked about the first of them. -/
theorem rewriteWith_places {σ : Type} (codec : Codec) (source : Source σ) {sql : String} {list : List Statement}
    (parsed : codec.parse sql = some list) (s : σ) :
    ∃ asked rest, (rewriteWith codec (recording source) sql).run.run (s, []) =
        (((rewriteWith codec source sql).run.run s).1, (((rewriteWith codec source sql).run.run s).2, asked)) ∧
      Woven ((FromLists.statements list).map fun l => l.homes.map l.scopeOf) (asked ++ rest) ∧
      (((rewriteWith codec source sql).run.run s).1.isOk = true → rest = []) ∧
      ∀ l ∈ FromLists.statements list, l.Placed := by
  obtain ⟨asked, rest, same, woven, answered⟩ := rewriteWith_asks codec source parsed s
  rw [funext FromList.strand_eq] at woven
  exact ⟨asked, rest, same, woven, answered, fun l _ => l.placed⟩

/-- Joins of each kind, one of them in parentheses, with a query in a condition. -/
def mixedJoins : String :=
  "SELECT * FROM a LEFT JOIN (b RIGHT JOIN c ON b.x = c.x) ON a.x IN (SELECT x FROM d), e FULL JOIN f USING (x), a AS g"

/-- The one condition restricts `b`, the other one `c`; `e` and `f` are wrapped, and the `WHERE` is left with both
mentions of `a`. The query in the condition has a list of its own. -/
theorem mixedJoins_places :
    ∃ lists asked, (Sql.parse .postgres mixedJoins).map FromLists.statements = some lists ∧
      lists.map (fun l => l.homes.map fun h => (h, (l.tablesAt h).map Table.qualifier)) =
        [[(.join [0, 1] 1, ["b"]), (.join [0] 1, ["c"]), (.own [1, 0], ["e"]), (.own [1, 1], ["f"]),
          (.filter, ["a", "g"])], [(.filter, ["d"])]] ∧
      ((rewriteWith (.ofDialect .postgres) (recording oneTenant) mixedJoins).run.run ((), [])).2.2 = asked ∧
      Woven (lists.map fun l => l.homes.map l.scopeOf) asked ∧ ∀ l ∈ lists, l.Placed := by
  have read : ((Sql.parse .postgres mixedJoins).map FromLists.statements).map
      (fun lists => lists.map fun l => l.homes.map fun h => (h, (l.tablesAt h).map Table.qualifier)) =
        some [[(.join [0, 1] 1, ["b"]), (.join [0] 1, ["c"]), (.own [1, 0], ["e"]), (.own [1, 1], ["f"]),
          (.filter, ["a", "g"])], [(.filter, ["d"])]] := by
    decide +kernel
  have answered : ((rewriteWith (.ofDialect .postgres) oneTenant mixedJoins).run.run ()).1.isOk = true := by
    decide +kernel
  obtain ⟨lists, parsed, homes⟩ := Option.map_eq_some_iff.mp read
  obtain ⟨list, parsed', rfl⟩ := Option.map_eq_some_iff.mp parsed
  obtain ⟨asked, rest, same, woven, all, placed⟩ :=
    rewriteWith_places (.ofDialect .postgres) oneTenant parsed' ()
  rw [all answered, List.append_nil] at woven
  exact ⟨_, asked, parsed, homes, by rw [same], woven, placed⟩

end RowAccess
