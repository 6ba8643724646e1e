import RowAccess.Proofs.Semantics.Simulation
import RowAccess.Proofs.Semantics.Texts
/-!
# Outer joins keep the rows they extend with nulls

Every `SELECT`, `UPDATE` and `DELETE` has its relations and its `WHERE` restricted by the same steps,
`scopeFrom`. If each predicate speaks of the row of its own table, what they make of the relations and the
`WHERE` selects the rows that these select where tables have no other rows than those on which all their
predicates are true: no such row is lost in a join, and no other row is shown.
-/

namespace RowAccess

open Sql

namespace Rewrite

variable {σ : Type} (codec : Codec) (source : Source σ)

/-! ## The relations and the condition of a statement -/

/-- The relations and the `WHERE` of a statement, restricted. -/
def scopeFrom (operation : Operation) (relations : List Joined) (selection : Option Expr) :
    Rewriting σ (List Joined × Option Expr) := do
  let selection ← expr? codec source selection
  let visible := countTables relations
  let (relations, tables) ← joinedList codec source operation visible relations
  let selection ← addPredicates source ⟨operation, .filter, tables, visible⟩ selection
  return (relations, selection)

variable {codec source}

theorem runs_joinedList_append {operation : Operation} {visible : Nat} {more more' : List Joined}
    {u : List Table} :
    ∀ {js js' : List Joined} {t : List Table} {a a' a'' : Added} {s s' s'' : σ},
      Runs (joinedList codec source operation visible js) a s (js', t) a' s' →
      Runs (joinedList codec source operation visible more) a' s' (more', u) a'' s'' →
      Runs (joinedList codec source operation visible (js ++ more)) a s (js' ++ more', t ++ u) a'' s''
  | [], _, _, _, _, _, _, _, _, first, second => by
    obtain ⟨none, rfl, rfl⟩ := runs_pure.mp first
    cases none
    exact second
  | j :: js, _, _, _, _, _, _, _, _, first, second => by
    obtain ⟨⟨j', t⟩, a₁, s₁, one, first⟩ := runs_bind.mp first
    obtain ⟨⟨js', t'⟩, a₂, s₂, others, first⟩ := runs_bind.mp first
    obtain ⟨both, rfl, rfl⟩ := runs_pure.mp first
    cases both
    refine runs_bind.mpr ⟨_, _, _, one, runs_bind.mpr ⟨_, _, _, runs_joinedList_append others second, ?_⟩⟩
    rw [runs_pure, List.append_assoc]
    exact ⟨rfl, rfl, rfl⟩

theorem countTables_append (js more : List Joined) :
    countTables (js ++ more) = countTables js + countTables more := by
  induction js with
  | nil => rw [List.nil_append, countTables, Nat.zero_add]
  | cons j js ih =>
    obtain ⟨r, joins⟩ := j
    rw [List.cons_append, countTables, countTables, ih, Nat.add_assoc _ (countTables js)]

/-- A `SELECT` has its relations and its `WHERE` restricted so. -/
theorem answers_select {s s' : Select} (h : Answers (select codec source s) s') :
    Answers (scopeFrom codec source .select s.relations s.selection) (s'.relations, s'.selection) := by
  obtain ⟨form, distinct, projection, into, relations, views, prewhere, selection, groupBy, options,
    clustering, having, windows, early, qualify, hierarchy⟩ := s
  obtain ⟨_, _, _, _, h⟩ := h
  obtain ⟨_, _, _, -, h⟩ := runs_bind.mp h
  obtain ⟨_, _, _, -, h⟩ := runs_bind.mp h
  obtain ⟨_, _, _, -, h⟩ := runs_bind.mp h
  obtain ⟨_, _, _, -, h⟩ := runs_bind.mp h
  obtain ⟨_, _, _, -, h⟩ := runs_bind.mp h
  obtain ⟨condition, a₁, s₁, condition_run, h⟩ := runs_bind.mp h
  obtain ⟨⟨relations', tables⟩, a₂, s₂, relations_run, h⟩ := runs_bind.mp h
  obtain ⟨selection', a₃, s₃, predicates_run, h⟩ := runs_bind.mp h
  obtain ⟨rfl, -, -⟩ := runs_pure.mp h
  exact ⟨_, _, _, _, runs_bind.mpr ⟨_, _, _, condition_run, runs_bind.mpr ⟨_, _, _, relations_run,
    runs_bind.mpr ⟨_, _, _, predicates_run, runs_pure.mpr ⟨rfl, rfl, rfl⟩⟩⟩⟩⟩

/-- An `UPDATE` has its target, its relations and its `WHERE` restricted so. -/
theorem answers_update {u u' : Update} (h : Answers (update codec source u) u') :
    Answers (scopeFrom codec source .update (u.target :: u.relations) u.selection)
      (u'.target :: u'.relations, u'.selection) := by
  obtain ⟨conflict, target, assigned, first, relations, selection, tail⟩ := u
  have visible : countTables (target :: relations) = countTables [target] + countTables relations :=
    countTables_append [target] relations
  obtain ⟨_, _, _, _, h⟩ := h
  obtain ⟨_, _, _, -, h⟩ := runs_bind.mp h
  obtain ⟨condition, a₁, s₁, condition_run, h⟩ := runs_bind.mp h
  obtain ⟨⟨target', tables⟩, a₂, s₂, target_run, h⟩ := runs_bind.mp h
  obtain ⟨⟨relations', more⟩, a₃, s₃, relations_run, h⟩ := runs_bind.mp h
  obtain ⟨selection', a₄, s₄, predicates_run, h⟩ := runs_bind.mp h
  obtain ⟨rfl, -, -⟩ := runs_pure.mp h
  rw [← visible] at target_run relations_run predicates_run
  have both : Runs (joinedList codec source .update (countTables (target :: relations))
      (target :: relations)) a₁ s₁ (target' :: relations', tables ++ more) a₃ s₃ :=
    runs_bind.mpr ⟨_, _, _, target_run, runs_bind.mpr ⟨_, _, _, relations_run,
      runs_pure.mpr ⟨rfl, rfl, rfl⟩⟩⟩
  exact ⟨_, _, _, _, runs_bind.mpr ⟨_, _, _, condition_run, runs_bind.mpr ⟨_, _, _, both,
    runs_bind.mpr ⟨_, _, _, predicates_run, runs_pure.mpr ⟨rfl, rfl, rfl⟩⟩⟩⟩⟩

/-- A `DELETE` has its relations and its `WHERE` restricted so. -/
theorem answers_delete {r r' : Delete} (h : Answers (delete codec source r) r') :
    Answers (scopeFrom codec source .delete (r.relations ++ r.others) r.selection)
      (r'.relations ++ r'.others, r'.selection) := by
  obtain ⟨named, word, relations, others, selection, tail⟩ := r
  obtain ⟨_, _, _, _, h⟩ := h
  obtain ⟨condition, a₁, s₁, condition_run, h⟩ := runs_bind.mp h
  obtain ⟨⟨relations', tables⟩, a₂, s₂, relations_run, h⟩ := runs_bind.mp h
  obtain ⟨⟨others', more⟩, a₃, s₃, others_run, h⟩ := runs_bind.mp h
  obtain ⟨selection', a₄, s₄, predicates_run, h⟩ := runs_bind.mp h
  obtain ⟨rfl, -, -⟩ := runs_pure.mp h
  rw [← countTables_append] at relations_run others_run predicates_run
  exact ⟨_, _, _, _, runs_bind.mpr ⟨_, _, _, condition_run, runs_bind.mpr ⟨_, _, _,
    runs_joinedList_append relations_run others_run, runs_bind.mpr ⟨_, _, _, predicates_run,
      runs_pure.mpr ⟨rfl, rfl, rfl⟩⟩⟩⟩⟩

end Rewrite

namespace Semantics

variable {V σ : Type} [DecidableEq V] (I : Interpretation V) (W : World V)

/-! ## Predicates of tables -/

/-- At a row of a table alone. -/
def alone (r : Ref) (row : Row V) : Env V :=
  (⟨[], []⟩ : Env V).row ⟨[(I.fold r.shown, row)], row⟩

/-- Whether the predicate is true depends on nothing but the row of its table. -/
def SpeaksOf (r : Ref) (p : Expr) : Prop :=
  ∀ (env : Env V) (l : Level V) (row : Row V), l.tuple.part? (I.fold r.shown) = some row →
    isTrueAt I W (env.push l) p = isTrueAt I W (alone I r row) p

/-- Whether all predicates of a table are true on its row. -/
def satisfiesAll (predicates : Table → List Expr) (r : Ref) (row : Row V) : Bool :=
  (predicates r.table).all (isTrueAt I W (alone I r row))

/-- The world in which a table has no other rows than those on which all its predicates are true. -/
def restrictedTo (predicates : Table → List Expr) : World V := fun named r =>
  (W named r).filter (satisfiesAll I W predicates r)

/-- The rewriting that restricts tables by predicates, whatever the statement does. -/
def restricting (codec : Codec) (source : Source σ) (predicates : Table → List Expr)
    (ref : Ref → Prop) : Enforcement V σ where
  codec := codec
  source := source
  interpretation := I
  predicates := predicates
  keep := satisfiesAll I W predicates
  ref := ref
  operation _ := True

omit [DecidableEq V] in
theorem part?_alone (q : String) (row : Row V) : Tuple.part? ⟨[(q, row)], row⟩ q = some row := by
  rw [Tuple.part?, List.lookup_cons_self]

/-- A comparison of a column with a literal speaks of the table that qualifies the column. -/
theorem speaksOf_equal {r : Ref} {q : Ident} (same : I.fold q = I.fold r.shown) (c : Ident)
    (value : Literal) : SpeaksOf I W r (.binary .eq (.name [q, c]) (.literal value)) := by
  intro env l row found
  rw [← same] at found
  have value_eq (env : Env V) : isTrueAt I W env (.binary .eq (.name [q, c]) (.literal value)) =
      I.isTrue (I.binary .eq (env.lookup I [q, c]) (I.literal value)) := rfl
  rw [value_eq, value_eq, Env.lookup_push I env found, alone, Env.row, ← same,
    Env.lookup_push I _ (part?_alone _ row)]

variable {I W} {codec : Codec} {source : Source σ} {predicates : Table → List Expr} {ref : Ref → Prop}

theorem restricting_sound (supplied : Supplies source (fun _ => True) predicates)
    (own : ∀ r, ref r → ∀ p ∈ predicates r.table, SpeaksOf I W r p)
    (among : ∀ r, ref r → ∀ r', ref r' → ∀ p ∈ predicates r.table, ∀ q ∈ predicates r'.table,
      Genuine p q)
    (reads : ReadsWrapped codec predicates ref) :
    (restricting I W codec source predicates ref).Sound W (restrictedTo I W predicates) where
  select := trivial
  asks := supplied
  among := among
  decides r known env l row found := by
    change (predicates r.table).all _ = (predicates r.table).all _
    rw [Bool.eq_iff_iff, List.all_eq_true, List.all_eq_true]
    exact forall₂_congr fun p mem => Bool.eq_iff_iff.mp (own r known p mem env l row found)
  reads := reads
  worlds _ _ _ := rfl

end Semantics

/-! ## The rows that are selected -/

open Semantics in
/-- The relations and the `WHERE` of a statement select, once they are restricted, the rows that they
select where each table has no other rows than those on which all its predicates are true. Each predicate
speaks of the row of its own table, and no term of a condition, nor another predicate, is written like it
without being it. -/
theorem Rewrite.scopeFrom_selects {V σ : Type} [DecidableEq V] (I : Interpretation V) (W : World V)
    {codec : Codec} {source : Source σ} {predicates : Table → List Expr} {ref : Ref → Prop}
    (supplied : Supplies source (fun _ => True) predicates)
    (own : ∀ r, ref r → ∀ p ∈ predicates r.table, SpeaksOf I W r p)
    (among : ∀ r, ref r → ∀ r', ref r' → ∀ p ∈ predicates r.table, ∀ q ∈ predicates r'.table,
      Genuine p q)
    (reads : ReadsWrapped codec predicates ref) {relations : List Joined} {selection : Option Expr}
    (inRelations : (restricting I W codec source predicates ref).fragment.joinedList relations)
    (apart : (namesOfList I relations).Nodup)
    (inSelection : (restricting I W codec source predicates ref).fragment.expr? selection)
    (genuine : ∀ e ∈ selection, (restricting I W codec source predicates ref).fragment.condition e)
    {operation : Operation} {relations' : List Joined} {selection' : Option Expr}
    (answered : Answers (scopeFrom codec source operation relations selection) (relations', selection'))
    (env : Env V) :
    I.selected (Semantics.joinedList I W relations' env) (Semantics.expr? I W selection') env =
      I.selected (Semantics.joinedList I (restrictedTo I W predicates) relations env)
        (Semantics.expr? I (restrictedTo I W predicates) selection) env := by
  have S := restricting_sound supplied own among reads
  obtain ⟨condition, hc, h⟩ := answers_bind answered
  obtain ⟨⟨relations'', tables⟩, hr, h⟩ := answers_bind h
  obtain ⟨selection'', hs, h⟩ := answers_bind h
  cases answers_pure h
  have left := S.joinedList_leaves relations inRelations apart trivial hr
  have rows := left.selected S ⟨operation, .filter, tables, countTables relations⟩ trivial
    (Enforcement.Sound.genuine_of_fragment genuine hc) hs env
  rw [S.expr?_same selection inSelection hc] at rows
  exact rows

/-! ## A left join -/

/-- The source that answers the predicates of tables, one table after the other. -/
def Source.ofTables {σ : Type} (predicates : Table → List Expr) : Source σ := fun scope =>
  pure (scope.tables.flatMap fun t => (predicates t).map fun e => ⟨.tenant, some t.baseName, e⟩)

theorem Semantics.supplies_ofTables {σ : Type} (operation : Operation → Prop)
    (predicates : Table → List Expr) :
    Supplies (Source.ofTables (σ := σ) predicates) operation predicates := by
  rintro scope - s ps s' ⟨⟩
  simp [List.map_flatMap, List.map_map, Function.comp_def]

namespace LeftJoin

open Semantics

/-- Orders and users are restricted to one tenant. -/
def predicates (t : Table) : List Expr := [columnIs t.qualifier "tenant_id" "t1"]

/-- An order is owned by a user. -/
def isOwner : Expr :=
  .binary .eq (.name [⟨"orders", none⟩, ⟨"owner", none⟩]) (.name [⟨"users", none⟩, ⟨"id", none⟩])

/-- Orders with the users who own them, if there are any. -/
def relations : List Joined :=
  [.mk (.table [⟨"orders", none⟩] [] .none false none [])
    [.mk false .left (.table [⟨"users", none⟩] [] .none false none []) none (.on isOwner)]]

/-- Two orders of a tenant, one of them owned by a user of another, who has an order as well. -/
def database : Database (Option String)
  | ["orders"] => ⟨["tenant_id", "owner"],
      {[some "t1", some "ann"], [some "t1", some "bob"], [some "t2", some "bob"]}⟩
  | ["users"] => ⟨["tenant_id", "id"], {[some "t1", some "ann"], [some "t2", some "bob"]}⟩
  | _ => ⟨[], 0⟩

/-- An order with its owner. -/
def joinedRow (owner : Option String) (user : Row (Option String)) : Tuple (Option String) where
  parts := [("orders", [("tenant_id", some "t1"), ("owner", owner)]), ("users", user)]
  shown := [("tenant_id", some "t1"), ("owner", owner)] ++ user

/-- The tables that are joined. -/
def IsJoined (r : Ref) : Prop := r = plainRef "orders" ∨ r = plainRef "users"

theorem predicates_of_joined {r : Ref} (h : IsJoined r) :
    ∃ table ∈ ["orders", "users"], r = plainRef table ∧
      predicates r.table = [columnIs table "tenant_id" "t1"] := by
  have qualifier : ∀ table ∈ ["orders", "users"], (plainRef table).table.qualifier = table := by
    decide
  rcases h with rfl | rfl
  · exact ⟨"orders", .head _, rfl, by rw [predicates, qualifier "orders" (.head _)]⟩
  · exact ⟨"users", .tail _ (.head _), rfl, by rw [predicates, qualifier "users" (.tail _ (.head _))]⟩

theorem genuine_columnIs {table table' : String} (h : table ∈ ["orders", "users"])
    (h' : table' ∈ ["orders", "users"]) :
    Genuine (columnIs table "tenant_id" "t1") (columnIs table' "tenant_id" "t1") := by
  have written : ∀ table ∈ ["orders", "users"], ∀ table' ∈ ["orders", "users"],
      (columnIs table "tenant_id" "t1").render = (columnIs table' "tenant_id" "t1").render →
        table = table' := by
    decide
  intro t mem same
  obtain rfl := List.mem_singleton.mp mem
  rw [written table h table' h' same]
  rfl

/-- No term of the condition of the join is written like a predicate. -/
theorem genuine_isOwner {σ : Type} {codec : Codec} {source : Source σ} {e : Expr}
    (h : Rewrite.Answers (Rewrite.expr codec source isOwner) e) {table : String}
    (known : table ∈ ["orders", "users"]) :
    Genuine e (columnIs table "tenant_id" "t1") := by
  have differs : ∀ table ∈ ["orders", "users"],
      isOwner.render ≠ (columnIs table "tenant_id" "t1").render := by
    decide
  obtain ⟨left, first, h⟩ := Rewrite.answers_bind h
  obtain rfl := Rewrite.answers_pure first
  obtain ⟨right, second, h⟩ := Rewrite.answers_bind h
  obtain rfl := Rewrite.answers_pure second
  obtain rfl := Rewrite.answers_pure h
  intro t mem same
  obtain rfl := List.mem_singleton.mp mem
  exact absurd same (differs table known)

theorem reads_wrapped : ReadsWrapped (.ofDialect .postgres) predicates IsJoined := by
  have read : ∀ table ∈ ["orders", "users"], ((Sql.parse .postgres
      (Rewrite.wrappedText ⟨table, none⟩ (columnIs table "tenant_id" "t1"))).bind fun list =>
        list.getLast?.bind Rewrite.firstRelation?).all (isWrapped table "tenant_id" "t1") = true := by
    decide +kernel
  have named : ∀ table ∈ ["orders", "users"], (plainRef table).table = ⟨table, none⟩ := by decide
  intro r joined filter made list wrapped parsed first
  obtain ⟨table, mem, rfl, single⟩ := predicates_of_joined joined
  obtain rfl : columnIs table "tenant_id" "t1" = filter := by
    rw [single] at made
    exact Option.some.inj made
  have wraps := read table mem
  rw [← named table mem] at wraps
  change ((Codec.ofDialect .postgres).parse _ |>.bind _).all _ = true at wraps
  rw [parsed, Option.bind_some, first, Option.all_some] at wraps
  exact eq_of_isWrapped wraps

/-- The order that a user of another tenant owns is shown, and its owner is missing. -/
theorem owner_missing :
    ∃ relations' selection', Rewrite.Answers (Rewrite.scopeFrom (.ofDialect .postgres)
        (Source.ofTables (σ := Unit) predicates) .select relations none) (relations', selection') ∧
      texts.selected (joinedList texts (database.world texts) relations' ⟨[], []⟩)
          (expr? texts (database.world texts) selection') ⟨[], []⟩ =
        {joinedRow (some "ann") [("tenant_id", some "t1"), ("id", some "ann")],
          joinedRow (some "bob") [("tenant_id", none), ("id", none)]} := by
  have runs : (Rewrite.outcome (Rewrite.scopeFrom (.ofDialect .postgres)
      (Source.ofTables (σ := Unit) predicates) .select relations none) .nothing ()).1.isOk = true := by
    decide +kernel
  obtain ⟨⟨relations', selection'⟩, answered⟩ := Rewrite.exists_answers runs
  refine ⟨relations', selection', answered, ?_⟩
  have selects := Rewrite.scopeFrom_selects texts (database.world texts)
    (supplies_ofTables _ predicates) ?_ ?_ reads_wrapped ?_ (by decide +kernel) ?_ ?_ answered ⟨[], []⟩
  · rw [selects]
    decide +kernel
  · intro r joined p mem
    obtain ⟨table, -, rfl, single⟩ := predicates_of_joined joined
    rw [single] at mem
    obtain rfl := List.mem_singleton.mp mem
    exact speaksOf_equal texts _ rfl _ _
  · intro r joined r' joined' p mem q mem'
    obtain ⟨table, known, rfl, single⟩ := predicates_of_joined joined
    obtain ⟨table', known', rfl, single'⟩ := predicates_of_joined joined'
    rw [single] at mem
    rw [single'] at mem'
    obtain rfl := List.mem_singleton.mp mem
    obtain rfl := List.mem_singleton.mp mem'
    exact genuine_columnIs known known'
  · refine ⟨⟨⟨.inl rfl, rfl, rfl, rfl, nofun, rfl⟩, rfl, ⟨.inr rfl, rfl, rfl, rfl, nofun, rfl⟩, rfl,
      ⟨⟨trivial, trivial⟩, fun _ e' h r joined p mem => ?_⟩, trivial⟩, trivial⟩
    obtain ⟨table, known, rfl, single⟩ := predicates_of_joined joined
    change p ∈ predicates (plainRef table).table at mem
    rw [single] at mem
    obtain rfl := List.mem_singleton.mp mem
    exact genuine_isOwner h known
  · exact trivial
  · exact nofun

end LeftJoin

namespace Quotes

open Semantics

/-- Tables are restricted to the rows whose name is one quote. -/
def predicates (t : Table) : List Expr := [columnIs t.qualifier "name" "'"]

/-- The orders. -/
def relations : List Joined := [.mk (.table [⟨"orders", none⟩] [] .none false none []) []]

/-- An order whose name is two quotes. -/
def database : Database (Option String) := fun _ => ⟨["name"], {[some "''"]}⟩

/-- A literal of two quotes is written like one of a single quote. The predicate counts as a term of the
condition already, and a row is shown on which it is not true. -/
theorem hidden_row_shown :
    (columnIs "orders" "name" "''").render = (columnIs "orders" "name" "'").render ∧
      (Rewrite.outcome (Rewrite.scopeFrom (.ofDialect .postgres) (Source.ofTables (σ := Unit) predicates)
          .select relations (some (columnIs "orders" "name" "''"))) .nothing ()).1.toOption.map
        (fun x => texts.selected (joinedList texts (database.world texts) x.1.1 ⟨[], []⟩)
          (expr? texts (database.world texts) x.1.2) ⟨[], []⟩) =
        some {⟨[("orders", [("name", some "''")])], [("name", some "''")]⟩} ∧
      texts.selected (joinedList texts (restrictedTo texts (database.world texts) predicates) relations
          ⟨[], []⟩)
        (expr? texts (restrictedTo texts (database.world texts) predicates)
          (some (columnIs "orders" "name" "''"))) ⟨[], []⟩ = 0 := by
  refine ⟨?_, ?_, ?_⟩ <;> decide +kernel

end Quotes

end RowAccess
