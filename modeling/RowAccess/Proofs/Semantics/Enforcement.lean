import RowAccess.Proofs.Runs
import RowAccess.Proofs.Semantics.Fragment
import RowAccess.Proofs.Semantics.Terms
/-!
# Predicates and the rows they keep

A source of predicates is `Sound` if what it answers for a scope are the predicates of its tables, one
after the other, and the predicates of a table say which of its rows are kept, wherever they are
evaluated. Rewriting then filters tables: those it wraps at once, those of an outer join in the condition
of the join, and the others in the condition of the query.
-/

namespace RowAccess

open Sql Rewrite

namespace Rewrite

variable {σ : Type}

theorem runs_ask {source : Source σ} {scope : Scope} {ps : List Predicate} {a a' : Added} {s s' : σ}
    (h : Runs (liftM (source scope)) a s ps a' s') : (source scope).run.run s = (.ok ps, s') := by
  rw [Runs, outcome_ask] at h
  split at h
  · next answered =>
    cases h
    exact answered
  · cases h

/-- What predicates are added to a condition. -/
theorem answers_addPredicates {source : Source σ} {scope : Scope} {condition condition' : Option Expr}
    (h : Answers (addPredicates source scope condition) condition') :
    ∃ ps s s', (source scope).run.run s = (.ok ps, s') ∧
      condition' = Semantics.withTerms condition (ps.map (·.condition)) := by
  obtain ⟨a, s, a', s', h⟩ := h
  obtain ⟨ps, a₁, s₁, asked, h⟩ := runs_bind.mp h
  refine ⟨ps, s, s₁, runs_ask asked, ?_⟩
  have made : restrict condition ps a₁ = (condition', a') := Except.ok.inj (Prod.mk.inj h).1
  rw [← Semantics.restrict_fst condition ps a₁, made]

end Rewrite

namespace Semantics

/-! ## Enforcement -/

/-- A rewriting, and the rows of tables that it is meant to keep. -/
structure Enforcement (V σ : Type) where
  codec : Codec
  source : Source σ
  interpretation : Interpretation V
  /-- The predicates of a table. -/
  predicates : Table → List Expr
  /-- The rows of a table that are kept. -/
  keep : Ref → Row V → Bool
  /-- The tables that may be read. -/
  ref : Ref → Prop
  /-- What the statements may do. -/
  operation : Operation → Prop

/-- The rows of a table that satisfy a condition, as a `SELECT`. -/
def wrappedSelect (r : Ref) (filter : Expr) : Select where
  form := .standard
  distinct := []
  projection := [.mk (.wildcard []) none []]
  into := ""
  relations := [.mk (.table r.name [] .none false (r.aliased.map fun a => ⟨true, a, []⟩) []) []]
  views := []
  prewhere := none
  selection := some filter
  groupBy := []
  groupOptions := []
  clustering := []
  having := none
  windows := []
  windowsFirst := false
  qualify := none
  hierarchy := []

/-- The query that stands for a filtered table. -/
def wrappedRelation (r : Ref) (filter : Expr) : Relation :=
  .derived false (.ofBody (.select (wrappedSelect r filter))) (some ⟨true, r.shown, []⟩)

/-- A table with a plain name. -/
def plainRef (table : String) : Ref := ⟨[⟨table, none⟩], none⟩

/-- The condition that a column of a table has a value. -/
def columnIs (table column value : String) : Expr :=
  .binary .eq (.name [⟨table, none⟩, ⟨column, none⟩]) (.literal (.string value))

/-- Whether the relation is the query for the rows of a table that have a value in a column. -/
def isWrapped (table column value : String) : Relation → Bool
  | .derived false (.mk false [] (.select ⟨.standard, [], [.mk (.wildcard []) none []], "",
      [.mk (.table [t] [] .none false none []) []], [], none,
      some (.binary .eq (.name [q, c]) (.literal (.string v))), [], [], [], none, [], false, none, []⟩)
      [] []) (some ⟨true, shown, []⟩) =>
    t == ⟨table, none⟩ && q == ⟨table, none⟩ && c == ⟨column, none⟩ && v == value &&
      shown == ⟨table, none⟩
  | _ => false

theorem eq_of_isWrapped {table column value : String} {r : Relation}
    (h : isWrapped table column value r = true) :
    r = wrappedRelation (plainRef table) (columnIs table column value) := by
  unfold isWrapped at h
  split at h
  · simp only [Bool.and_eq_true, beq_iff_eq] at h
    obtain ⟨⟨⟨⟨rfl, rfl⟩, rfl⟩, rfl⟩, rfl⟩ := h
    rfl
  · cases h

/-- For statements that do one of these, the source answers the predicates of the tables that it is asked
about, one table after the other. -/
def Supplies {σ : Type} (source : Source σ) (operation : Operation → Prop)
    (predicates : Table → List Expr) : Prop :=
  ∀ scope : Scope, operation scope.operation → ∀ (s : σ) (ps : List Predicate) (s' : σ),
    (source scope).run.run s = (.ok ps, s') → ps.map (·.condition) = scope.tables.flatMap predicates

/-- What is read from the text of a wrapped table is the query that the text spells. -/
def ReadsWrapped (codec : Codec) (predicates : Table → List Expr) (ref : Ref → Prop) : Prop :=
  ∀ r, ref r → ∀ filter, withTerms none (predicates r.table) = some filter →
    ∀ list wrapped, codec.parse (wrappedText r.table filter) = some list →
      list.getLast?.bind firstRelation? = some wrapped → wrapped = wrappedRelation r filter

namespace Enforcement

variable {V σ : Type} (E : Enforcement V σ)

/-- The filters of the tables. -/
def filters : Filters V := ⟨fun r => E.interpretation.fold r.shown, E.keep⟩

/-- The queries that are evaluated: no term of a condition, as it is rewritten, is written like a
predicate without being it. -/
def fragment : Fragment V where
  interpretation := E.interpretation
  ref := E.ref
  condition e := ∀ e', Answers (Rewrite.expr E.codec E.source e) e' →
    ∀ r, E.ref r → ∀ p ∈ E.predicates r.table, Genuine e' p

/-- The rewriting keeps the rows it is meant to keep: the tables of the world `B` are those of the world
`A` without the other rows. -/
structure Sound [DecidableEq V] (A B : World V) : Prop where
  select : E.operation .select
  asks : Supplies E.source E.operation E.predicates
  /-- Predicates differ if they are written differently. -/
  among : ∀ r, E.ref r → ∀ r', E.ref r' → ∀ p ∈ E.predicates r.table,
    ∀ q ∈ E.predicates r'.table, Genuine p q
  /-- Wherever the predicates of a table are evaluated, they say which of its rows are kept. -/
  decides : ∀ r, E.ref r → ∀ (env : Env V) (l : Level V) (row : Row V),
    l.tuple.part? (E.interpretation.fold r.shown) = some row →
    (E.predicates r.table).all (isTrueAt E.interpretation A (env.push l)) = E.keep r row
  reads : ReadsWrapped E.codec E.predicates E.ref
  worlds : ∀ r, E.ref r → ∀ named, B named r = (A named r).filter (E.keep r)

variable {E} [DecidableEq V] {A B : World V}

namespace Sound

variable (S : E.Sound A B)

include S

/-- The condition with the predicates of the tables of a scope. -/
theorem addPredicates (scope : Scope) (op : E.operation scope.operation)
    {condition condition' : Option Expr}
    (h : Answers (Rewrite.addPredicates E.source scope condition) condition') :
    condition' = withTerms condition (scope.tables.flatMap E.predicates) := by
  obtain ⟨ps, s, s', asked, rfl⟩ := answers_addPredicates h
  rw [S.asks scope op s ps s' asked]

theorem genuine {refs : List Ref} (known : ∀ r ∈ refs, E.ref r) :
    ∀ p ∈ (refs.map Ref.table).flatMap E.predicates, ∀ q ∈ (refs.map Ref.table).flatMap E.predicates,
      Genuine p q := by
  intro p hp q hq
  simp only [List.mem_flatMap, List.mem_map, exists_exists_and_eq_and] at hp hq
  obtain ⟨r, hr, hp⟩ := hp
  obtain ⟨r', hr', hq⟩ := hq
  exact S.among r (known r hr) r' (known r' hr') p hp q hq

/-- The predicates of tables are true at a row if the rows of the tables are kept that it is joined
of. -/
theorem all_predicates {refs : List Ref} (known : ∀ r ∈ refs, E.ref r) {t : Tuple V}
    (within : ∀ r ∈ refs, E.interpretation.fold r.shown ∈ t.names) (env : Env V) :
    ((refs.map Ref.table).flatMap E.predicates).all (isTrueAt E.interpretation A (env.row t)) =
      E.filters.passes refs t := by
  rw [List.all_flatMap, List.all_map, Filters.passes, Bool.eq_iff_iff, List.all_eq_true,
    List.all_eq_true]
  refine forall₂_congr fun r mem => ?_
  obtain ⟨row, found⟩ := Tuple.exists_part (within r mem)
  change (E.predicates r.table).all (isTrueAt E.interpretation A (env.row t)) = true ↔
    (t.part? (E.interpretation.fold r.shown)).any (E.keep r) = true
  rw [found, Option.any_some, Env.row, S.decides r (known r mem) env ⟨t, {t}⟩ row found]

/-- A condition of a query that has the predicates of tables added is true where the condition is and the
rows of the tables are kept. -/
theorem all_withTerms {refs : List Ref} (known : ∀ r ∈ refs, E.ref r) {t : Tuple V}
    (within : ∀ r ∈ refs, E.interpretation.fold r.shown ∈ t.names) (env : Env V)
    (condition : Option Expr) (genuine : ∀ e ∈ condition, ∀ r, E.ref r → ∀ p ∈ E.predicates r.table,
      Genuine e p) :
    (withTerms condition ((refs.map Ref.table).flatMap E.predicates)).all
        (isTrueAt E.interpretation A (env.row t)) =
      (condition.all (isTrueAt E.interpretation A (env.row t)) && E.filters.passes refs t) := by
  rw [Semantics.all_withTerms _ _ _ _ ?_ (S.genuine known), S.all_predicates known within]
  intro e mem p hp
  simp only [List.mem_flatMap, List.mem_map, exists_exists_and_eq_and] at hp
  obtain ⟨r, hr, hp⟩ := hp
  exact genuine e mem r (known r hr) p hp

omit [DecidableEq V] S in
theorem withTerms_some (e : Expr) (ps : List Expr) : ∃ e', withTerms (some e) ps = some e' := by
  induction ps generalizing e with
  | nil => exact ⟨e, rfl⟩
  | cons p ps ih =>
    rw [withTerms]
    split
    · exact ih e
    · exact ih _

/-- The condition of an outer join, where the tables of the side that may be missing are filtered. -/
theorem restrictJoin {operation : Operation} (op : E.operation operation) {visible : Nat}
    {refs : List Ref} (known : ∀ r ∈ refs, E.ref r) {condition condition' : Expr}
    (genuine : ∀ r, E.ref r → ∀ p ∈ E.predicates r.table, Genuine condition p)
    (h : Answers (Rewrite.restrictJoin E.source operation visible (refs.map Ref.table) condition)
      condition') {t : Tuple V}
    (within : ∀ r ∈ refs, E.interpretation.fold r.shown ∈ t.names) (env : Env V) :
    isTrueAt E.interpretation A (env.row t) condition' =
      (isTrueAt E.interpretation A (env.row t) condition && E.filters.passes refs t) := by
  have whole := S.all_withTerms known within env (some condition)
    (by rintro _ ⟨⟩; exact genuine)
  obtain ⟨e, made⟩ := withTerms_some condition ((refs.map Ref.table).flatMap E.predicates)
  rw [made, Option.all_some, Option.all_some] at whole
  rw [Rewrite.restrictJoin] at h
  split at h
  · next none =>
    obtain rfl := answers_pure h
    rw [List.isEmpty_iff] at none
    rw [List.map_eq_nil_iff.mp none, Filters.passes, List.all_nil, Bool.and_true]
  · obtain ⟨added, answered, h⟩ := answers_bind h
    obtain rfl := answers_pure h
    rw [S.addPredicates ⟨operation, .join, refs.map Ref.table, visible⟩ op answered]
    dsimp only
    rw [made, Option.getD_some, whole]

end Sound

/-! ## Wrapped tables -/

omit [DecidableEq V] in
/-- What a query for the rows of a table that satisfy a filter answers, under a qualifier again. -/
theorem named_selected (I : Interpretation V) (q : String) (r : Rel V) (condition : Valuation V)
    (keep : Row V → Bool) (env : Env V)
    (decides : ∀ row : Row V, I.isTrue (condition.value (env.row ⟨[(q, row)], row⟩)) = keep row) :
    Joint.named q ⟨r.columns, (I.selected (.named q r) (some condition) env).map
      fun t => t.shown.map Prod.snd⟩ = .named q (r.filter keep) := by
  have kept : I.selected (.named q r) (some condition) env =
      (r.filter keep).rows.map fun values => ⟨[(q, r.columns.zip values)], r.columns.zip values⟩ := by
    rw [Interpretation.selected, Joint.named, Multiset.filter_map]
    refine congrArg _ (Multiset.filter_congr fun values _ => ?_)
    rw [← decides]
    rfl
  rw [kept, Multiset.map_map]
  simp only [Joint.named, Multiset.map_map, Function.comp_def, Rel.zip_map_snd]
  rfl

/-- What a wrapped table stands for: its rows that satisfy the filter. -/
theorem relation_wrapped (I : Interpretation V) (W : World V) (r : Ref) (filter : Expr)
    (keep : Row V → Bool) (env : Env V)
    (decides : ∀ row : Row V, isTrueAt I W (env.row ⟨[(I.fold r.shown, row)], row⟩) filter = keep row) :
    relation I W (wrappedRelation r filter) env =
      .named (I.fold r.shown) ((W (env.query? I r.name) r).filter keep) := by
  have inner : joinedList I W (wrappedSelect r filter).relations env =
      .named (I.fold r.shown) (W (env.query? I r.name) r) := by
    have named : (r.aliased.map fun a => (⟨true, a, []⟩ : Alias)).map (·.name) = r.aliased := by
      cases r.aliased <;> rfl
    change Joint.join I.toNulls .cross (I.pairingOf fun _ _ => [])
      (I.table W ⟨r.name, (r.aliased.map fun a => (⟨true, a, []⟩ : Alias)).map (·.name)⟩ env) .unit = _
    rw [named, Interpretation.join_unit]
    rfl
  have rows : (query I W (.ofBody (.select (wrappedSelect r filter))) env).rel =
      ⟨(joinedList I W (wrappedSelect r filter).relations env).frame.shown,
        (I.selected (joinedList I W (wrappedSelect r filter).relations env) (some (expr I W filter))
          env).map fun t => t.shown.map Prod.snd⟩ :=
    I.rel_star (joinedList I W (wrappedSelect r filter).relations) (some (expr I W filter)) env
      fun _ => []
  rw [inner] at rows
  change Joint.named (I.fold r.shown) (query I W (.ofBody (.select (wrappedSelect r filter))) env).rel = _
  rw [rows]
  exact named_selected I _ _ _ keep env decides

namespace Sound

variable (S : E.Sound A B) {r : Ref} (known : E.ref r)

include S known

/-- The row of a table satisfies its predicates if it is kept. -/
theorem decides_row (env : Env V) (row : Row V) :
    (E.predicates r.table).all
        (isTrueAt E.interpretation A (env.row ⟨[(E.interpretation.fold r.shown, row)], row⟩)) =
      E.keep r row :=
  S.decides r known env ⟨_, _⟩ row (by rw [Tuple.part?, List.lookup_cons_self])

/-- A table without predicates is the same in both worlds. -/
theorem table_unfiltered (none : E.predicates r.table = []) (env : Env V) :
    E.interpretation.table A r env = E.interpretation.table B r env := by
  have all (row : Row V) : E.keep r row = true := by
    rw [← S.decides_row known env row, none, List.all_nil]
  have same (named : Option (Rel V)) : (A named r).filter (E.keep r) = A named r := by
    simp only [Rel.filter, all, Multiset.filter_true]
  rw [Interpretation.table, Interpretation.table, S.worlds r known, same]

/-- A wrapped table has the rows that are kept. -/
theorem wrap {operation : Operation} (op : E.operation operation) {whole relation' : Relation}
    (h : Answers (Rewrite.wrap E.codec E.source operation whole r.table) relation')
    (meaning : ∀ env, relation E.interpretation A whole env = E.interpretation.table A r env)
    (env : Env V) :
    relation E.interpretation A relation' env = E.interpretation.table B r env := by
  obtain ⟨condition, answered, h⟩ := answers_bind h
  have made := S.addPredicates ⟨operation, .join, [r.table], 1⟩ op answered
  rw [List.flatMap_singleton] at made
  have true_iff (env : Env V) := Semantics.all_withTerms E.interpretation A env none
    (fun _ mem => absurd mem (Option.not_mem_none _))
    (S.among r known r known)
  simp only [← made, Option.all_none, Bool.true_and] at true_iff
  cases condition with
  | none =>
    obtain rfl := answers_pure h
    have nothing : E.predicates r.table = [] := by
      cases ps : E.predicates r.table with
      | nil => rfl
      | cons p ps' =>
        obtain ⟨e, some⟩ := withTerms_some p ps'
        rw [ps] at made
        exact absurd (made.trans some).symm (Option.some_ne_none e)
    rw [meaning, S.table_unfiltered known nothing]
  | some filter =>
    dsimp only at h
    split at h
    · exact absurd h answers_fail
    · next list parsed =>
      split at h
      · next wrapped first =>
        obtain rfl := answers_pure h
        rw [S.reads r known filter made.symm list relation' parsed first,
          relation_wrapped _ _ _ _ (E.keep r), Interpretation.table, S.worlds r known]
        intro row
        have decided := true_iff (env.row ⟨[(E.interpretation.fold r.shown, row)], row⟩)
        rw [S.decides_row known] at decided
        exact decided
      · exact absurd h answers_fail

end Sound

end Enforcement

end Semantics

end RowAccess
