import RowAccess.Proofs.Semantics.Enforcement
/-!
# Where the predicates of joined tables are placed

Walking through the joins of a `FROM` list, rewriting carries along the tables that it still has to
filter. `Leaves` says that filtering them is all that is left to do, and holds again after each join: the
tables of a side that may be missing are filtered in the condition of the join, and where there is no
such condition, all tables are wrapped and none is left.
-/

namespace RowAccess.Semantics

open Sql Rewrite

/-! ## Qualifiers of what is evaluated -/

section

variable {V : Type} [DecidableEq V] (I : Interpretation V) (W : World V)

mutual

theorem hasNames_joined : ∀ (j : Joined) (env : Env V), (joined I W j env).HasNames (namesOf I j)
  | .mk r js, env => hasNames_joins js env (hasNames_relation r env)

theorem hasNames_joins : ∀ (js : List Join) (env : Env V) {before : Joint V} {names : List String},
    before.HasNames names → (joins I W js env before).HasNames (names ++ namesOfJoins I js)
  | [], _, _, names, h => by
    rw [namesOfJoins, List.append_nil]
    exact h
  | .mk _ _ r _ _ :: rest, env, _, names, h => by
    rw [namesOfJoins, ← List.append_assoc]
    exact hasNames_joins rest env (Joint.hasNames_join h (hasNames_relation r env))

theorem hasNames_relation : ∀ (r : Relation) (env : Env V),
    (relation I W r env).HasNames (namesOfRelation I r)
  | .table .., _ => Joint.hasNames_named _ _
  | .derived .., _ => Joint.hasNames_named _ _
  | .nested j _, env => hasNames_joined j env
  | .reshaped .., _ => ⟨rfl, nofun⟩
  | .function .., _ => ⟨rfl, nofun⟩
  | .special .., _ => ⟨rfl, nofun⟩

end

theorem hasNames_joinedList : ∀ (js : List Joined) (env : Env V),
    (joinedList I W js env).HasNames (namesOfList I js)
  | [], _ => Joint.hasNames_unit
  | j :: js, env => Joint.hasNames_join (hasNames_joined I W j env) (hasNames_joinedList js env)

end

/-! ## Joins and the rows they keep -/

/-- A join whose unmatched rows are kept has a condition that predicates can be put in, or all tables of
its chain are wrapped. -/
theorem needsWrapping_of_keeps {global : Bool} {kind : JoinKind} {r : Relation}
    {matchCondition : Option Expr} {c : JoinConstraint}
    (noPlace : nullableSide? kind = none ∨ condition? c = none)
    (keeps : (keepsLeft kind || keepsRight kind) = true) :
    Join.needsWrapping (.mk global kind r matchCondition c) = true := by
  cases kind with
  | full => rfl
  | left | leftOuter | right | rightOuter =>
    cases c with
    | on e => exact noPlace.elim nofun nofun
    | columns names => rfl
    | natural => rfl
    | none => rfl
  | _ => exact absurd keeps nofun

theorem keepsRight_of_joined {kind : JoinKind} (h : nullableSide? kind = some .joined) :
    keepsRight kind = false := by
  cases kind <;> first | rfl | exact absurd h nofun

theorem keepsLeft_of_preceding {kind : JoinKind} (h : nullableSide? kind = some .preceding) :
    keepsLeft kind = false := by
  cases kind <;> first | rfl | exact absurd h nofun

/-! ## Tables left to be filtered -/

namespace Enforcement

variable {V σ : Type} (E : Enforcement V σ)

/-- Filtering the tables `outer` turns `j'` into `j`. No table is left if all were wrapped. -/
def Leaves (wrapped : Bool) (outer : List Table) (j' j : Env V → Joint V) : Prop :=
  ∃ refs : List Ref, outer = refs.map Ref.table ∧ (∀ r ∈ refs, E.ref r) ∧ (wrapped = true → refs = []) ∧
    ∀ env, Filtered E.filters refs (j' env) (j env)

variable {E} {wrapped : Bool} {outer tables : List Table} {l' l r' r : Env V → Joint V}

theorem Leaves.weaken {all : Bool} (h : E.Leaves all outer l' l) (le : wrapped = true → all = true) :
    E.Leaves wrapped outer l' l := by
  obtain ⟨refs, same, known, none, filtered⟩ := h
  exact ⟨refs, same, known, fun wraps => none (le wraps), filtered⟩

/-- The columns are the same. -/
theorem Leaves.frame (h : E.Leaves wrapped outer l' l) (env : Env V) : (l' env).frame = (l env).frame := by
  obtain ⟨refs, -, -, -, filtered⟩ := h
  exact (filtered env).frame

/-- Nothing is left to be filtered where both are the same. -/
theorem leaves_refl (same : ∀ env, l' env = l env) (h : ∀ env, ∃ names, (l env).HasNames names) :
    E.Leaves wrapped [] l' l := by
  refine ⟨[], rfl, nofun, fun _ => rfl, fun env => ?_⟩
  obtain ⟨names, named⟩ := h env
  rw [same]
  exact .refl named

variable (E) in
/-- The two sides of a join, with the tables of each that are left. -/
structure Sides (wrapped : Bool) (outer tables : List Table) (l' l r' r : Env V → Joint V) : Prop where
  left : E.Leaves wrapped outer l' l
  right : E.Leaves wrapped tables r' r
  named : ∀ env, ∃ names, (l env).HasNames names
  named' : ∀ env, ∃ names, (r env).HasNames names
  apart : ∀ env, ∀ q ∈ (l env).frame.names, q ∉ (r env).frame.names

namespace Sides

variable (h : E.Sides wrapped outer tables l' l r' r) {kind : JoinKind}

section

variable {p' p : Env V → Pairing V} (same : ∀ env, p' env = p env)

include h same

/-- Where no rows may be missing, the tables of both sides may be filtered later. -/
theorem both (noLeft : keepsLeft kind = false) (noRight : keepsRight kind = false) :
    E.Leaves wrapped (outer ++ tables)
      (fun env => .join E.interpretation.toNulls kind (p' env) (l' env) (r' env))
      (fun env => .join E.interpretation.toNulls kind (p env) (l env) (r env)) := by
  obtain ⟨refs, rfl, known, none, filtered⟩ := h.left
  obtain ⟨refs', rfl, known', none', filtered'⟩ := h.right
  refine ⟨refs ++ refs', List.map_append.symm, fun x mem => ?_, fun all => ?_, fun env => ?_⟩
  · exact (List.mem_append.mp mem).elim (known x) (known' x)
  · rw [none all, none' all, List.append_nil]
  · dsimp only
    rw [same]
    exact (filtered env).join_both (filtered' env) (h.apart env) noLeft noRight

/-- Where all tables are wrapped, none is left. -/
theorem all_wrapped (all : wrapped = true) :
    E.Leaves wrapped (outer ++ tables)
      (fun env => .join E.interpretation.toNulls kind (p' env) (l' env) (r' env))
      (fun env => .join E.interpretation.toNulls kind (p env) (l env) (r env)) := by
  obtain ⟨refs, rfl, -, none, filtered⟩ := h.left
  obtain ⟨refs', rfl, -, none', filtered'⟩ := h.right
  obtain rfl := none all
  obtain rfl := none' all
  refine leaves_refl (fun env => ?_) fun env => ?_
  · rw [same, (filtered env).eq, (filtered' env).eq]
  · obtain ⟨names, named⟩ := h.named env
    obtain ⟨names', named'⟩ := h.named' env
    exact ⟨_, Joint.hasNames_join named named'⟩

/-- Where a join has no condition to put predicates in, all tables are wrapped if rows may be
missing. -/
theorem unconditional (needs : (keepsLeft kind || keepsRight kind) = true → wrapped = true) :
    E.Leaves wrapped (outer ++ tables)
      (fun env => .join E.interpretation.toNulls kind (p' env) (l' env) (r' env))
      (fun env => .join E.interpretation.toNulls kind (p env) (l env) (r env)) := by
  by_cases keeps : (keepsLeft kind || keepsRight kind) = true
  · exact h.all_wrapped same (needs keeps)
  · obtain ⟨noLeft, noRight⟩ := Bool.or_eq_false_iff.mp (Bool.eq_false_of_not_eq_true keeps)
    exact h.both same noLeft noRight

end

variable [DecidableEq V] {A B : World V} (S : E.Sound A B) {operation : Operation}
  (op : E.operation operation) {visible : Nat} {condition condition' : Expr}
  (genuine : ∀ r, E.ref r → ∀ p ∈ E.predicates r.table, Genuine condition p)

include h S op genuine

/-- Where rows of the right side may be missing, its tables are filtered in the condition. -/
theorem joined (noRight : keepsRight kind = false)
    (answered : Answers (Rewrite.restrictJoin E.source operation visible tables condition) condition') :
    E.Leaves wrapped outer
      (fun env => .join E.interpretation.toNulls kind
        (E.interpretation.pairingOn (expr E.interpretation A condition') env) (l' env) (r' env))
      (fun env => .join E.interpretation.toNulls kind
        (E.interpretation.pairingOn (expr E.interpretation A condition) env) (l env) (r env)) := by
  obtain ⟨refs, rfl, known, none, filtered⟩ := h.left
  obtain ⟨refs', rfl, known', none', filtered'⟩ := h.right
  refine ⟨refs, rfl, known, none, fun env => ?_⟩
  refine (filtered env).join_left (filtered' env) (h.apart env) noRight rfl ?_
  intro shared a _ b hb
  refine S.restrictJoin op known' genuine answered (fun x mem => ?_) env
  rw [Nulls.names_merge, (filtered' env).names b hb]
  exact List.mem_append_right _ ((filtered' env).within x mem)

/-- Where rows of the left side may be missing, its tables are filtered in the condition. -/
theorem preceding (noLeft : keepsLeft kind = false)
    (answered : Answers (Rewrite.restrictJoin E.source operation visible outer condition) condition') :
    E.Leaves wrapped tables
      (fun env => .join E.interpretation.toNulls kind
        (E.interpretation.pairingOn (expr E.interpretation A condition') env) (l' env) (r' env))
      (fun env => .join E.interpretation.toNulls kind
        (E.interpretation.pairingOn (expr E.interpretation A condition) env) (l env) (r env)) := by
  obtain ⟨refs, rfl, known, none, filtered⟩ := h.left
  obtain ⟨refs', rfl, known', none', filtered'⟩ := h.right
  refine ⟨refs', rfl, known', none', fun env => ?_⟩
  refine (filtered env).join_right (filtered' env) (h.apart env) noLeft rfl ?_
  intro shared a ha b _
  refine S.restrictJoin op known genuine answered (fun x mem => ?_) env
  rw [Nulls.names_merge, (filtered env).names a ha]
  exact List.mem_append_left _ ((filtered env).within x mem)

end Sides

variable [DecidableEq V] {A B : World V}

/-- The rows of a `FROM` list that satisfy the condition of a query, with the predicates of the tables
that are left. -/
theorem Leaves.selected (S : E.Sound A B) (scope : Scope) (op : E.operation scope.operation)
    (h : E.Leaves wrapped scope.tables l' l) {condition condition' : Option Expr}
    (genuine : ∀ e ∈ condition, ∀ r, E.ref r → ∀ p ∈ E.predicates r.table, Genuine e p)
    (answered : Answers (Rewrite.addPredicates E.source scope condition) condition') (env : Env V) :
    E.interpretation.selected (l' env) (expr? E.interpretation A condition') env =
      E.interpretation.selected (l env) (expr? E.interpretation A condition) env := by
  obtain ⟨refs, tables, known, -, filtered⟩ := h
  obtain rfl := S.addPredicates _ op answered
  have satisfies (e : Option Expr) (t : Tuple V) : E.interpretation.satisfies (expr? E.interpretation A e)
      env t = e.all (isTrueAt E.interpretation A (env.row t)) := by
    cases e <;> rfl
  rw [Interpretation.selected, Interpretation.selected, ← (filtered env).rows, Multiset.filter_filter]
  refine Multiset.filter_congr fun t mem => ?_
  have within : ∀ r ∈ refs, E.interpretation.fold r.shown ∈ t.names := by
    rw [(filtered env).names t mem]
    exact (filtered env).within
  rw [satisfies, tables, S.all_withTerms known within env _ genuine, satisfies, Bool.and_eq_true]

end Enforcement

end RowAccess.Semantics
