import RowAccess.Proofs.Semantics.Enforcement
import RowAccess.Proofs.Transcript
import RowAccess.Proofs.Unchanged
/-!
# Rewriting comes to rest

What rewriting answers rests: rewriting it again adds no predicate and leaves it as it is. The second time
the source is asked about the same tables in the same order, save that a wrapped table is now read by a
query of its own; it must then not answer more than before, and every predicate must be found among the
terms of the condition that it was added to.
-/

namespace RowAccess

open Sql Sql.Parser Semantics

namespace Rewrite

variable {σ α β : Type}

/-! ## Steps that rest -/

/-- From the state, whatever was added before, the step answers `x`, adds nothing and leaves the state. -/
def Rests (s : σ) (m : Rewriting σ α) (x : α) : Prop := ∀ a, Runs m a s x a s

namespace Rests

variable {s : σ} {m : Rewriting σ α} {f : α → Rewriting σ β} {x : α} {y : β}

theorem pure (x : α) : Rests s (Pure.pure x : Rewriting σ α) x := fun _ => runs_pure.mpr ⟨rfl, rfl, rfl⟩

theorem bind (first : Rests s m x) (next : Rests s (f x) y) : Rests s (m >>= f) y := fun a =>
  runs_bind.mpr ⟨x, a, s, first a, next a⟩

theorem map (first : Rests s m x) (g : α → β) : Rests s (m >>= fun x => Pure.pure (g x)) (g x) :=
  first.bind (.pure _)

end Rests

/-! ## Conditions that have their predicates -/

theorem hasConjunct_conjoin {text : String} {condition : Option Expr} {p : Expr}
    (h : condition.any (hasConjunct text) = true) : hasConjunct text (conjoin condition p) = true := by
  cases condition with
  | none => cases h
  | some e =>
    obtain ⟨t, mem, written⟩ := (hasConjunct_iff text e).mp h
    exact (hasConjunct_iff text _).mpr ⟨t, List.mem_append_left _ (terms_subset e t mem), written⟩

/-- A predicate that is no conjunction is one of its own terms. -/
theorem mem_terms_self {p : Expr} (single : isConjunction p = false) : p ∈ terms p := by
  unfold terms
  split
  · cases single
  · exact .head _
  · exact .head _

theorem hasConjunct_conjoin_self (condition : Option Expr) {p : Expr} (single : isConjunction p = false) :
    hasConjunct p.render (conjoin condition p) = true := by
  have own := mem_terms_self single
  cases condition with
  | none => exact (hasConjunct_iff _ _).mpr ⟨p, own, rfl⟩
  | some e => exact (hasConjunct_iff _ _).mpr ⟨p, List.mem_append_right _ (terms_subset p p own), rfl⟩

/-- What a condition has it still has once predicates are added. -/
theorem any_withTerms {text : String} {condition : Option Expr} (ps : List Expr)
    (h : condition.any (hasConjunct text) = true) :
    (withTerms condition ps).any (hasConjunct text) = true := by
  induction ps generalizing condition with
  | nil => exact h
  | cons p ps ih =>
    rw [withTerms]
    split
    · exact ih h
    · exact ih (hasConjunct_conjoin h)

/-- A condition has a predicate that was added to it. -/
theorem any_withTerms_mem (condition : Option Expr) {ps : List Expr} {q : Expr} (mem : q ∈ ps)
    (single : isConjunction q = false) : (withTerms condition ps).any (hasConjunct q.render) = true := by
  induction ps generalizing condition with
  | nil => cases mem
  | cons p ps ih =>
    rw [withTerms]
    rcases List.mem_cons.mp mem with rfl | mem
    · split
      · next found => exact any_withTerms ps found
      · exact any_withTerms ps (hasConjunct_conjoin_self condition single)
    · split
      · exact ih condition mem
      · exact ih _ mem

/-- A condition has the predicates that were added to it. -/
theorem any_withTerms_of_mem (condition : Option Expr) {ps : List Expr}
    (single : ∀ p ∈ ps, isConjunction p = false) :
    ∀ p ∈ ps, (withTerms condition ps).any (hasConjunct p.render) = true :=
  fun p mem => any_withTerms_mem condition mem (single p mem)

/-- Predicates that a condition has are not added again. -/
theorem restrict_of_any {condition : Option Expr} {ps : List Predicate}
    (has : ∀ p ∈ ps, condition.any (hasConjunct p.condition.render) = true) (added : Added) :
    restrict condition ps added = (condition, added) := by
  induction ps with
  | nil => rfl
  | cons p ps ih =>
    rw [restrict, if_pos (has p (.head _))]
    exact ih fun p mem => has p (.tail _ mem)

/-! ## Entries of a transcript -/

/-- The source answers the scope, without a change of its state, with predicates that are written like
some of these. -/
def AnswersAmong (source : Source σ) (s : σ) (ps : List Predicate) (scope : Scope) : Prop :=
  ∃ ps', (source scope).run.run s = (.ok ps', s) ∧
    ∀ p ∈ ps', ∃ q ∈ ps, q.condition.render = p.condition.render

/-- The scope can be asked about once more in place of another one: some tables that were visible may by
now be wrapped, though not in an update or a delete. -/
structure Narrows (scope scope' : Scope) : Prop where
  operation : scope'.operation = scope.operation
  placement : scope'.placement = scope.placement
  tables : scope'.tables = scope.tables
  visible : scope'.visible ≤ scope.visible
  same : scope.operation ≠ .select → scope.placement = .filter → scope'.visible = scope.visible

/-- A table that is wrapped is asked about alone. -/
def MayWrap (scope : Scope) : Prop := scope.placement = .join ∧ scope.visible = 1

/-- What the source answered for a scope can be asked for again. -/
structure Repeats (codec : Codec) (source : Source σ) (s : σ) (scope : Scope) (ps : List Predicate) :
    Prop where
  /-- No predicate is a conjunction, and none holds a query. -/
  single : ∀ p ∈ ps, isConjunction p.condition = false
  rests : ∀ p ∈ ps, Rests s (expr codec source p.condition) p.condition
  again : ∀ scope', Narrows scope scope' → AnswersAmong source s ps scope'
  /-- A wrapped table is read by a query of its own. -/
  wrapped : MayWrap scope → ps ≠ [] → scope.operation = .select ∧ ∀ t, scope.tables = [t] →
    AnswersAmong source s ps ⟨.select, .filter, [t], 1⟩
  reads : MayWrap scope → ∀ t, scope.tables = [t] → ∀ filter,
    withTerms none (ps.map (·.condition)) = some filter → ∀ list r,
      codec.parse (wrappedText t filter) = some list → list.getLast?.bind firstRelation? = some r →
      ∃ named : Ref, named.table = t ∧ r = wrappedRelation named filter

/-- Whatever the source answered can be asked for again. -/
def Repeatable (codec : Codec) (source : Source σ) (s : σ) (t : Transcript) : Prop :=
  ∀ scope ps, (scope, .ok ps) ∈ t → Repeats codec source s scope ps

/-- If the transcript at the end can be repeated, then so can the one at the start, and the answer
satisfies `p` where the source started from `s`, which it then leaves as it is. -/
def Ends (codec : Codec) (source : Source σ) (s : σ) (m : Rewriting (σ × Transcript) α) (p : α → Prop) :
    Prop :=
  ∀ a s₀ t x a' s' t', Runs m a (s₀, t) x a' (s', t') → Repeatable codec source s t' →
    Repeatable codec source s t ∧ (s₀ = s → s' = s ∧ p x)

namespace Ends

variable {codec : Codec} {source : Source σ} {s : σ} {m : Rewriting (σ × Transcript) α}
  {f : α → Rewriting (σ × Transcript) β} {p : α → Prop} {q : β → Prop}

theorem pure {x : α} (h : p x) : Ends codec source s (Pure.pure x) p := by
  intro a s₀ t y a' s' t' run good
  obtain ⟨rfl, rfl, same⟩ := runs_pure.mp run
  cases same
  exact ⟨good, fun start => ⟨start, h⟩⟩

theorem fail (e : Error) : Ends codec source s (Rewrite.fail e) p := by
  intro a s₀ t x a' s' t' run
  cases run

theorem bind (first : Ends codec source s m p)
    (next : ∀ x, Ends codec source s (f x) fun y => p x → q y) : Ends codec source s (m >>= f) q := by
  intro a s₀ t y a'' s'' t'' run good
  obtain ⟨x, a', ⟨s', t'⟩, one, two⟩ := runs_bind.mp run
  obtain ⟨good', rest⟩ := next x a' s' t' y a'' s'' t'' two good
  obtain ⟨good₀, holds⟩ := first a s₀ t x a' s' t' one good'
  refine ⟨good₀, fun start => ?_⟩
  obtain ⟨start', px⟩ := holds start
  obtain ⟨ends, qy⟩ := rest start'
  exact ⟨ends, qy px⟩

theorem weaken {p' : α → Prop} (h : Ends codec source s m p) (le : ∀ x, p x → p' x) :
    Ends codec source s m p' := by
  intro a s₀ t x a' s' t' run good
  obtain ⟨good₀, holds⟩ := h a s₀ t x a' s' t' run good
  exact ⟨good₀, fun start => ⟨(holds start).1, le x (holds start).2⟩⟩

/-- Adding predicates ends in the condition with what the source answered. -/
theorem add (quiet : ∀ scope, ((source scope).run.run s).2 = s) (scope : Scope) (condition : Option Expr) :
    Ends codec source s (addPredicates (transcribing source) scope condition) fun condition' =>
      ∃ ps, Repeats codec source s scope ps ∧ (source scope).run.run s = (.ok ps, s) ∧
        condition' = withTerms condition (ps.map (·.condition)) := by
  intro a s₀ t condition' a' s' t' run good
  obtain ⟨ps, a₁, ⟨s₁, t₁⟩, asked, run⟩ := runs_bind.mp run
  have written : (transcribing source scope).run.run (s₀, t) =
      (((source scope).run.run s₀).1, (((source scope).run.run s₀).2,
        t ++ [(scope, ((source scope).run.run s₀).1)])) := rfl
  have asked := runs_ask asked
  rw [written] at asked
  have answered : ((source scope).run.run s₀).1 = .ok ps := congrArg Prod.fst asked
  have state : ((source scope).run.run s₀).2 = s₁ := congrArg (·.2.1) asked
  have grown : t ++ [(scope, .ok ps)] = t₁ := by
    rw [← answered]
    exact congrArg (·.2.2) asked
  have made : restrict condition ps a₁ = (condition', a') := Except.ok.inj (Prod.mk.inj run).1
  have same : (s₁, t₁) = (s', t') := (Prod.mk.inj run).2
  cases same
  subst grown
  refine ⟨fun scope ps mem => good scope ps (List.mem_append_left _ mem), ?_⟩
  rintro rfl
  have start := quiet scope
  rw [state] at start
  subst start
  refine ⟨rfl, ps, good scope ps (List.mem_append_right _ (.head _)), Prod.ext answered state, ?_⟩
  rw [← restrict_fst condition ps a₁, made]

end Ends

section

variable {codec : Codec} {source : Source σ} {s : σ} {scope scope' : Scope} {ps : List Predicate}

/-- A condition with the answer added gets no more where the source answers no more. -/
theorem rests_add (entry : Repeats codec source s scope ps) (among : AnswersAmong source s ps scope')
    (condition : Option Expr) :
    Rests s (addPredicates source scope' (withTerms condition (ps.map (·.condition))))
      (withTerms condition (ps.map (·.condition))) := by
  obtain ⟨ps', answered, among⟩ := among
  have has : ∀ p ∈ ps', (withTerms condition (ps.map (·.condition))).any
      (hasConjunct p.condition.render) = true := by
    intro p mem
    obtain ⟨q, mem', same⟩ := among p mem
    rw [← same]
    refine any_withTerms_of_mem condition ?_ _ (List.mem_map_of_mem mem')
    simpa using entry.single
  intro a
  refine runs_bind.mpr ⟨ps', a, s, ?_, ?_⟩
  · rw [Runs, outcome_ask, answered]
  · change ((Except.ok (restrict _ ps' a) : Except Error _), s) = _
    rw [restrict_of_any has]

theorem rests_asConjunct {e : Expr} (h : Rests s (expr codec source e) e) :
    Rests s (expr codec source (asConjunct e)) (asConjunct e) := by
  unfold asConjunct
  split
  · rw [expr]
    exact h.map _
  · rw [expr]
    exact h.map _
  · exact h

theorem rests_expr? {condition : Option Expr} :
    Rests s (expr? codec source condition) condition ↔
      ∀ e ∈ condition, Rests s (expr codec source e) e := by
  cases condition with
  | none => exact ⟨fun _ => nofun, fun _ => .pure none⟩
  | some e =>
    constructor
    · rintro h _ ⟨⟩ a
      obtain ⟨e', a', s', run, made⟩ := runs_bind.mp (h a)
      obtain ⟨same, rfl, rfl⟩ := runs_pure.mp made
      obtain rfl := Option.some.inj same
      exact run
    · intro h
      exact (h e rfl).map some

/-- A condition that rests does so with predicates added that rest. -/
theorem rests_withTerms (condition : Option Expr) (terms : List Expr)
    (h : ∀ e ∈ condition, Rests s (expr codec source e) e)
    (each : ∀ p ∈ terms, Rests s (expr codec source p) p) :
    ∀ e ∈ withTerms condition terms, Rests s (expr codec source e) e := by
  induction terms generalizing condition with
  | nil => exact h
  | cons p ps ih =>
    have others : ∀ q ∈ ps, Rests s (expr codec source q) q := fun q mem => each q (.tail _ mem)
    rw [withTerms]
    split
    · exact ih _ h others
    · refine ih _ ?_ others
      rintro _ ⟨⟩
      cases condition with
      | none => exact each p (.head _)
      | some e =>
        rw [conjoin, expr]
        exact (rests_asConjunct (h e rfl)).bind ((rests_asConjunct (each p (.head _))).map _)

/-! ## Joins and wrapped tables -/

variable (quiet : ∀ scope, ((source scope).run.run s).2 = s)

include quiet in
/-- The condition of an outer join rests with the predicates of the tables, also where some tables have
been wrapped. -/
theorem restrictJoin_ends {operation : Operation} {visible : Nat} {tables : List Table} {condition : Expr} :
    Ends codec source s (restrictJoin (transcribing source) operation visible tables condition)
      fun condition' => Rests s (expr codec source condition) condition →
        Rests s (expr codec source condition') condition' ∧
        ∀ v ≤ visible, Rests s (restrictJoin source operation v tables condition') condition' := by
  rw [restrictJoin]
  split
  · next none =>
    refine .pure fun h => ⟨h, fun v _ => ?_⟩
    rw [restrictJoin, if_pos none]
    exact .pure _
  · next some =>
    refine (Ends.add quiet _ _).bind fun condition' => .pure ?_
    rintro ⟨ps, entry, -, rfl⟩ h
    obtain ⟨e, made⟩ := Enforcement.Sound.withTerms_some condition (ps.map (·.condition))
    rw [made, Option.getD_some]
    refine ⟨rests_withTerms (.some condition) _ (by rintro _ ⟨⟩; exact h) ?_ e made,
      fun v le => ?_⟩
    · simpa using entry.rests
    · rw [restrictJoin, if_neg some]
      have added := rests_add entry (entry.again ⟨operation, .join, tables, v⟩ ⟨rfl, rfl, rfl, le, by simp⟩)
        (Option.some condition)
      rw [made] at added
      exact added.map (·.getD e)

include quiet in
/-- The condition of a query or a statement rests with the predicates of its tables. -/
theorem filter_ends {operation : Operation} {visible : Nat} {tables : List Table}
    {condition : Option Expr} :
    Ends codec source s (addPredicates (transcribing source) ⟨operation, .filter, tables, visible⟩ condition)
      fun condition' => Rests s (expr? codec source condition) condition →
        ∀ v ≤ visible, (operation ≠ .select → v = visible) →
          Rests s (expr? codec source condition') condition' ∧
          Rests s (addPredicates source ⟨operation, .filter, tables, v⟩ condition') condition' :=
  (Ends.add quiet _ _).weaken fun condition' ⟨ps, entry, _, made⟩ h v le same => by
    rw [made]
    exact ⟨rests_expr?.mpr (rests_withTerms _ _ (rests_expr?.mp h) (by simpa using entry.rests)),
      rests_add entry
        (entry.again ⟨operation, .filter, tables, v⟩ ⟨rfl, rfl, rfl, le, fun other _ => same other⟩)
        condition⟩

theorem refuseHidden_ends (e : Expr) (passed : expr codec source e = refuseHidden e) :
    Ends codec source s (refuseHidden e) fun e' => Rests s (expr codec source e') e' := by
  rw [refuseHidden]
  split
  · exact .fail _
  · next plain =>
    refine .pure ?_
    rw [passed, refuseHidden, if_neg plain]
    exact .pure _

/-- The query that stands for a wrapped table rests. -/
theorem rests_wrappedRelation {operation : Operation} {visible : Nat} {wrapped : Bool} {named : Ref}
    {filter : Expr} (inner : Rests s (expr codec source filter) filter)
    (has : Rests s (addPredicates source ⟨.select, .filter, [named.table], 1⟩ (some filter)) (some filter)) :
    Rests s (relation codec source operation visible wrapped (wrappedRelation named filter))
      (wrappedRelation named filter, []) := by
  have table : (⟨Name.render named.name,
      (named.aliased.map fun a => (⟨true, a, []⟩ : Alias)).map (·.name.render)⟩ : Table) = named.table := by
    obtain ⟨name, aliased⟩ := named
    cases aliased <;> rfl
  have read : Rests s (joinedList codec source .select 1 (wrappedSelect named filter).relations)
      ((wrappedSelect named filter).relations, [named.table]) := by
    rw [← table]
    exact .bind (.bind (.pure _) (.bind (.pure _) (.pure _))) (.bind (.pure _) (.pure _))
  have selected : Rests s (select codec source (wrappedSelect named filter)) (wrappedSelect named filter) :=
    .bind (.bind (.pure _) (.bind (.pure _) (.pure _))) <| .bind (.pure _) <| .bind (.pure _) <|
      .bind (.pure _) <| .bind (.pure _) <| .bind (rests_expr?.mpr (by rintro _ ⟨⟩; exact inner)) <|
      .bind read <| .bind has <| .pure _
  exact .bind (.bind (.pure _) (.bind (selected.map _) (.bind (.pure _) (.pure _)))) (.pure _)

include quiet in
/-- A table that is wrapped rests as the query that stands for it, and one without predicates as it is. -/
theorem wrap_ends {operation : Operation} (r : Relation) (t : Table)
    (isTable : ∀ v,
      relation codec source operation v true r = do return (← wrap codec source operation r t, []))
    (counts : relationTables r = 1) :
    Ends codec source s (wrap codec (transcribing source) operation r t) fun r' =>
      relationTables r' ≤ relationTables r ∧ (operation ≠ .select → relationTables r' = relationTables r) ∧
        ∀ v, Rests s (relation codec source operation v true r') (r', []) := by
  rw [wrap]
  refine (Ends.add quiet _ none).bind fun condition => ?_
  cases condition with
  | none =>
    refine .pure ?_
    rintro ⟨ps, entry, answered, made⟩
    refine ⟨Nat.le_refl _, fun _ => rfl, fun v => ?_⟩
    have again := rests_add entry (entry.again ⟨operation, .join, [t], 1⟩
      ⟨rfl, rfl, rfl, Nat.le_refl _, by simp⟩) none
    rw [← made] at again
    rw [isTable, wrap]
    exact .bind (.bind again (.pure _)) (.pure _)
  | some filter =>
    dsimp only
    split
    · exact .fail _
    · next list parsed =>
      split
      · next wrapped first =>
        refine .pure ?_
        rintro ⟨ps, entry, answered, made⟩
        have some : ps ≠ [] := by
          rintro rfl
          cases made
        obtain ⟨select, among⟩ := entry.wrapped ⟨rfl, rfl⟩ some
        obtain ⟨named, rfl, rfl⟩ := entry.reads ⟨rfl, rfl⟩ t rfl filter made.symm list wrapped parsed first
        have inner := rests_withTerms none (ps.map (·.condition))
          (fun _ mem => absurd mem (Option.not_mem_none _))
          (by simpa using entry.rests) filter made.symm
        have has := rests_add entry (among _ rfl) none
        rw [← made] at has
        exact ⟨by rw [counts]; exact Nat.zero_le _, fun other => absurd select other, fun v =>
          rests_wrappedRelation inner has⟩
      · exact .fail _

end

/-! ## The walk -/

/-- How many tables a relation with its joins names. -/
def joinedTables : Joined → Nat
  | .mk r js => relationTables r + joinTables js

theorem countTables_cons (j : Joined) (js : List Joined) :
    countTables (j :: js) = joinedTables j + countTables js := by
  obtain ⟨r, joins⟩ := j
  rfl

theorem relationTables_nested (j : Joined) (aliased : Option Alias) :
    relationTables (.nested j aliased) = joinedTables j := by
  obtain ⟨r, joins⟩ := j
  rfl

/-- Whether a join needs wrapping depends on the kind of its constraint alone. -/
theorem needsWrapping_alike {global global' : Bool} {kind : JoinKind} {r r' : Relation}
    {m m' : Option Expr} {c c' : JoinConstraint} (h : (∃ e e', c = .on e ∧ c' = .on e') ∨ c' = c) :
    Join.needsWrapping (.mk global' kind r' m' c') = Join.needsWrapping (.mk global kind r m c) := by
  rcases h with ⟨e, e', rfl, rfl⟩ | rfl <;> rfl

section

variable (codec : Codec) (source : Source σ) (s : σ)

/-- Relations rest with the tables that are handed on. They name no more tables than before, and as many
in an update or a delete. -/
structure Settles {α : Type} (operation : Operation) (visible : Nat) (count : α → Nat) (before : α)
    (again : Nat → α → Rewriting σ (α × List Table)) (x : α × List Table) : Prop where
  fewer : count x.1 ≤ count before
  same : operation ≠ .select → count x.1 = count before
  rests : ∀ v ≤ visible, Rests s (again v x.1) x

variable (quiet : ∀ scope, ((source scope).run.run s).2 = s)

-- Where only calls of the block itself use the hypothesis, it counts as unused.
set_option linter.unusedSectionVars false

include quiet

mutual

theorem expr_ends : ∀ e : Expr, Ends codec source s (expr codec (transcribing source) e)
    fun e' => Rests s (expr codec source e') e'
  | .name _ | .literal _ | .typed .. | .wildcard _ => .pure (.pure _)
  | .unary _ operand => (expr_ends operand).bind fun _ => .pure fun h => h.map _
  | .binary _ left right | .quantified _ _ left right | .distinctness _ left right
  | .atTimeZone left right | .matching _ left right =>
    (expr_ends left).bind fun _ => (expr_ends right).bind fun _ => .pure fun h₂ h₁ => h₁.bind (h₂.map _)
  | .test _ _ operand | .nested operand | .cast _ operand _ | .collate operand _ | .extract _ _ operand =>
    (expr_ends operand).bind fun _ => .pure fun h => h.map _
  | .inList _ operand members =>
    (expr_ends operand).bind fun _ => (exprs_ends members).bind fun _ =>
      .pure fun h₂ h₁ => h₁.bind (h₂.map _)
  | .inQuery _ operand q =>
    (expr_ends operand).bind fun _ => (query_ends q).bind fun _ => .pure fun h₂ h₁ => h₁.bind (h₂.map _)
  | .between _ operand low high =>
    (expr_ends operand).bind fun _ => (expr_ends low).bind fun _ => (expr_ends high).bind fun _ =>
      .pure fun h₃ h₂ h₁ => h₁.bind (h₂.bind (h₃.map _))
  | .case operand conditions otherwise =>
    (expr?_ends operand).bind fun _ => (expr?_ends otherwise).bind fun _ =>
      (branches_ends conditions).bind fun _ => .pure fun h₃ h₂ h₁ => h₁.bind (h₂.bind (h₃.map _))
  | .tuple members => (exprs_ends members).bind fun _ => .pure fun h => h.map _
  | .call _ _ args _ filter _ =>
    (arguments_ends args).bind fun _ => (expr?_ends filter).bind fun _ =>
      .pure fun h₂ h₁ => h₁.bind (h₂.map _)
  | .exists _ q | .subquery q => (query_ends q).bind fun _ => .pure fun h => h.map _
  | .access root steps => refuseHidden_ends (.access root steps) rfl
  | .special pieces => refuseHidden_ends (.special pieces) rfl

theorem expr?_ends : ∀ e : Option Expr, Ends codec source s (expr? codec (transcribing source) e)
    fun e' => Rests s (expr? codec source e') e'
  | none => .pure (.pure _)
  | some e => (expr_ends e).bind fun _ => .pure fun h => h.map _

theorem exprs_ends : ∀ es : List Expr, Ends codec source s (exprs codec (transcribing source) es)
    fun es' => Rests s (exprs codec source es') es'
  | [] => .pure (.pure _)
  | e :: es => (expr_ends e).bind fun _ => (exprs_ends es).bind fun _ => .pure fun h₂ h₁ => h₁.bind (h₂.map _)

theorem branches_ends : ∀ bs : List Branch, Ends codec source s (branches codec (transcribing source) bs)
    fun bs' => Rests s (branches codec source bs') bs'
  | [] => .pure (.pure _)
  | .mk condition result :: rest =>
    (expr_ends condition).bind fun _ => (expr_ends result).bind fun _ =>
      (branches_ends rest).bind fun _ => .pure fun h₃ h₂ h₁ => h₁.bind (h₂.bind (h₃.map _))

theorem arguments_ends : ∀ args : Arguments,
    Ends codec source s (arguments codec (transcribing source) args)
      fun args' => Rests s (arguments codec source args') args'
  | .none => .pure (.pure _)
  | .query q => (query_ends q).bind fun _ => .pure fun h => h.map _
  | .list _ list _ => (argumentList_ends list).bind fun _ => .pure fun h => h.map _

theorem argumentList_ends : ∀ args : List Argument,
    Ends codec source s (argumentList codec (transcribing source) args)
      fun args' => Rests s (argumentList codec source args') args'
  | [] => .pure (.pure _)
  | .mk _ value :: rest =>
    (expr_ends value).bind fun _ => (argumentList_ends rest).bind fun _ =>
      .pure fun h₂ h₁ => h₁.bind (h₂.map _)

theorem items_ends : ∀ is : List Item, Ends codec source s (items codec (transcribing source) is)
    fun is' => Rests s (items codec source is') is'
  | [] => .pure (.pure _)
  | .mk e _ _ :: rest =>
    (expr_ends e).bind fun _ => (items_ends rest).bind fun _ => .pure fun h₂ h₁ => h₁.bind (h₂.map _)

theorem ctes_ends : ∀ cs : List Cte, Ends codec source s (ctes codec (transcribing source) cs)
    fun cs' => Rests s (ctes codec source cs') cs'
  | [] => .pure (.pure _)
  | .mk _ _ _ q _ :: rest =>
    (query_ends q).bind fun _ => (ctes_ends rest).bind fun _ => .pure fun h₂ h₁ => h₁.bind (h₂.map _)

theorem query_ends : ∀ q : Query, Ends codec source s (query codec (transcribing source) q)
    fun q' => Rests s (query codec source q') q'
  | .mk _ named b order _ =>
    (ctes_ends named).bind fun _ => (body_ends b).bind fun _ => (items_ends order).bind fun _ =>
      .pure fun h₃ h₂ h₁ => h₁.bind (h₂.bind (h₃.map _))

theorem body_ends : ∀ b : Body, Ends codec source s (body codec (transcribing source) b)
    fun b' => Rests s (body codec source b') b'
  | .select s => (select_ends s).bind fun _ => .pure fun h => h.map _
  | .query q => (query_ends q).bind fun _ => .pure fun h => h.map _
  | .combined _ _ left right =>
    (body_ends left).bind fun _ => (body_ends right).bind fun _ => .pure fun h₂ h₁ => h₁.bind (h₂.map _)
  | .values _ _ rows => (exprs_ends rows).bind fun _ => .pure fun h => h.map _
  | .statement (.update u) => (update_ends u).bind fun _ => .pure fun h => h.map _
  | .statement (.delete r) => (delete_ends r).bind fun _ => .pure fun h => h.map _
  | .statement (.insert ..) => .pure (.pure _)
  | .statement (.query _) => .pure (.pure _)
  | .statement (.other .export _) => .pure (.pure _)
  | .statement (.other .definition _) | .statement (.other .other _) => .fail _
  | .table _ => .fail _

theorem select_ends : ∀ q : Select, Ends codec source s (select codec (transcribing source) q)
    fun q' => Rests s (select codec source q') q'
  | ⟨_, _, projection, _, relations, _, prewhere, selection, groupBy, _, _, having, _, _, qualify, _⟩ =>
    (items_ends projection).bind fun _ => (expr?_ends prewhere).bind fun _ =>
      (expr?_ends having).bind fun _ => (expr?_ends qualify).bind fun _ =>
      (exprs_ends groupBy).bind fun _ => (expr?_ends selection).bind fun _ =>
      (joinedList_ends .select _ relations).bind fun _ => (filter_ends quiet).bind fun _ =>
      .pure fun hf hj h₆ h₅ h₄ h₃ h₂ h₁ =>
        h₁.bind <| h₂.bind <| h₃.bind <| h₄.bind <| h₅.bind <| (hf h₆ _ hj.fewer hj.same).1.bind <|
          (hj.rests _ hj.fewer).bind <| (hf h₆ _ hj.fewer hj.same).2.map _

theorem update_ends : ∀ u : Update, Ends codec source s (update codec (transcribing source) u)
    fun u' => Rests s (update codec source u') u'
  | ⟨_, target, assigned, _, relations, selection, _⟩ =>
    (assignments_ends assigned).bind fun _ => (expr?_ends selection).bind fun _ =>
      (joined_ends .update _ false target).bind fun (target', _) =>
      (joinedList_ends .update _ relations).bind fun (relations', _) => (filter_ends quiet).bind fun _ =>
      .pure fun hf hj ht h₂ h₁ => by
        have same : countTables [target'] + countTables relations' =
            countTables [target] + countTables relations := by
          rw [countTables_cons, countTables_cons, ht.same nofun, hj.same nofun]
        obtain ⟨settled, has⟩ := hf h₂ _ (Nat.le_of_eq same) fun _ => same
        exact h₁.bind <| settled.bind <| (ht.rests _ (Nat.le_of_eq same)).bind <|
          (hj.rests _ (Nat.le_of_eq same)).bind <| has.map _

theorem delete_ends : ∀ r : Delete, Ends codec source s (delete codec (transcribing source) r)
    fun r' => Rests s (delete codec source r') r'
  | ⟨_, _, relations, others, selection, _⟩ =>
    (expr?_ends selection).bind fun _ => (joinedList_ends .delete _ relations).bind fun (relations', _) =>
      (joinedList_ends .delete _ others).bind fun (others', _) => (filter_ends quiet).bind fun _ =>
      .pure fun hf ho hj h₁ => by
        have same : countTables relations' + countTables others' =
            countTables relations + countTables others := by
          rw [hj.same nofun, ho.same nofun]
        obtain ⟨settled, has⟩ := hf h₁ _ (Nat.le_of_eq same) fun _ => same
        exact settled.bind <| (hj.rests _ (Nat.le_of_eq same)).bind <|
          (ho.rests _ (Nat.le_of_eq same)).bind <| has.map _

theorem assignments_ends : ∀ list : List Assignment,
    Ends codec source s (assignments codec (transcribing source) list)
      fun list' => Rests s (assignments codec source list') list'
  | [] => .pure (.pure _)
  | .mk _ value :: rest =>
    (expr_ends value).bind fun _ => (assignments_ends rest).bind fun _ =>
      .pure fun h₂ h₁ => h₁.bind (h₂.map _)

theorem joinedList_ends (operation : Operation) (visible : Nat) : ∀ js : List Joined,
    Ends codec source s (joinedList codec (transcribing source) operation visible js)
      (Settles s operation visible countTables js (joinedList codec source operation))
  | [] => .pure ⟨Nat.le_refl _, fun _ => rfl, fun _ _ => .pure _⟩
  | j :: js =>
    (joined_ends operation visible false j).bind fun _ =>
      (joinedList_ends operation visible js).bind fun _ => .pure fun h₂ h₁ =>
        ⟨by
          rw [countTables_cons, countTables_cons]
          exact Nat.add_le_add h₁.fewer h₂.fewer, fun other => by
          rw [countTables_cons, countTables_cons, h₁.same other, h₂.same other], fun v le =>
          (h₁.rests v le).bind ((h₂.rests v le).map _)⟩

theorem joined_ends (operation : Operation) (visible : Nat) (wrapped : Bool) : ∀ j : Joined,
    Ends codec source s (joined codec (transcribing source) operation visible wrapped j)
      (Settles s operation visible joinedTables j fun v => joined codec source operation v wrapped)
  | .mk r js =>
    (relation_ends operation visible _ r).bind fun _ =>
      (joins_ends operation visible _ _ js).bind fun (js', outer) => .pure fun ⟨shape, h₂⟩ h₁ =>
        ⟨Nat.add_le_add h₁.fewer h₂.fewer, fun other => congrArg₂ _ (h₁.same other) (h₂.same other),
          fun v le => by
            rw [joined, shape]
            exact (h₁.rests v le).bind ((h₂.rests v le).map _)⟩

theorem joins_ends (operation : Operation) (visible : Nat) (wrapped : Bool) (outer : List Table) :
    ∀ js : List Join, Ends codec source s
      (joins codec (transcribing source) operation visible wrapped outer js) fun x =>
        x.1.any Join.needsWrapping = js.any Join.needsWrapping ∧
        Settles s operation visible joinTables js (fun v => joins codec source operation v wrapped outer) x
  | [] => .pure ⟨rfl, Nat.le_refl _, fun _ => rfl, fun _ _ => .pure _⟩
  | .mk _ kind r _ constraint :: rest =>
    (relation_ends operation visible wrapped r).bind fun _ =>
      (joinConstraint_ends operation visible kind outer _ constraint).bind fun _ =>
      (joins_ends operation visible wrapped _ rest).bind fun _ => .pure fun ⟨shape, h₃⟩ ⟨alike, h₂⟩ h₁ =>
        ⟨by rw [List.any_cons, List.any_cons, shape, needsWrapping_alike alike],
          Nat.add_le_add h₁.fewer h₃.fewer, fun other => congrArg₂ _ (h₁.same other) (h₃.same other),
          fun v le => (h₁.rests v le).bind ((h₂ v le).bind ((h₃.rests v le).map _))⟩

theorem joinConstraint_ends (operation : Operation) (visible : Nat) (kind : JoinKind)
    (outer tables : List Table) : ∀ c : JoinConstraint,
    Ends codec source s (joinConstraint codec (transcribing source) operation visible kind outer tables c)
      fun x => ((∃ e e', c = .on e ∧ x.1 = .on e') ∨ x.1 = c) ∧
        ∀ v ≤ visible, Rests s (joinConstraint codec source operation v kind outer tables x.1) x
  | .on condition => by
    refine (expr_ends condition).bind fun e => ?_
    split
    -- whichever side may be null, its tables' predicates are in the condition
    case h_1 side | h_2 side =>
      refine (restrictJoin_ends quiet).bind fun e' => .pure fun h' h =>
        ⟨.inl ⟨_, _, rfl, rfl⟩, fun v le => ?_⟩
      obtain ⟨settled, has⟩ := h' h
      rw [joinConstraint]
      refine settled.bind ?_
      rw [side]
      exact (has v le).map _
    case h_3 side =>
      refine .pure fun h => ⟨.inl ⟨_, _, rfl, rfl⟩, fun v le => ?_⟩
      rw [joinConstraint]
      refine h.bind ?_
      rw [side]
      exact .pure _
  | .columns _ | .natural | .none => .pure ⟨.inr rfl, fun _ _ => .pure _⟩

theorem relation_ends (operation : Operation) (visible : Nat) (wrapped : Bool) : ∀ r : Relation,
    Ends codec source s (relation codec (transcribing source) operation visible wrapped r)
      (Settles s operation visible relationTables r fun v => relation codec source operation v wrapped)
  | .table .. => by
    cases wrapped with
    | true =>
      exact (wrap_ends quiet _ _ (fun _ => rfl) rfl).bind fun r' => .pure fun ⟨fewer, same, rests⟩ =>
        ⟨fewer, same, fun v _ => rests v⟩
    | false => exact .pure ⟨Nat.le_refl _, fun _ => rfl, fun _ _ => .pure _⟩
  | .derived _ q _ => (query_ends q).bind fun _ => .pure fun h =>
    ⟨Nat.le_refl _, fun _ => rfl, fun _ _ => h.map _⟩
  | .nested j _ => (joined_ends operation visible wrapped j).bind fun _ => .pure fun h =>
    ⟨by
      rw [relationTables_nested, relationTables_nested]
      exact h.fewer, fun other => by
      rw [relationTables_nested, relationTables_nested]
      exact h.same other, fun v le => (h.rests v le).map _⟩
  | .reshaped r _ _ => (relation_ends operation visible true r).bind fun _ => .pure fun h =>
    ⟨Nat.le_refl _, fun _ => rfl, fun v le => (h.rests v le).map _⟩
  | .function call _ => (expr_ends call).bind fun _ => .pure fun h =>
    ⟨Nat.le_refl _, fun _ => rfl, fun _ _ => h.map _⟩
  | .special .. => .pure ⟨Nat.le_refl _, fun _ => rfl, fun _ _ => .pure _⟩

end

theorem statement_ends (stacked : Bool) (q : Statement) :
    Ends codec source s (statement codec (transcribing source) stacked q)
      fun q' => Rests s (statement codec source stacked q') q' := by
  cases q with
  | query q => exact (query_ends codec source s quiet q).bind fun _ => .pure fun h => h.map _
  | update u => exact (update_ends codec source s quiet u).bind fun _ => .pure fun h => h.map _
  | delete r => exact (delete_ends codec source s quiet r).bind fun _ => .pure fun h => h.map _
  | insert _ _ | other _ _ =>
    simp only [statement]
    split
    · exact .fail _
    · exact .pure (.pure _)

theorem statements_ends (stacked : Bool) : ∀ list : List Statement,
    Ends codec source s (statements codec (transcribing source) stacked list)
      fun list' => list'.length = list.length ∧ Rests s (statements codec source stacked list') list'
  | [] => .pure ⟨rfl, .pure _⟩
  | q :: rest =>
    (statement_ends codec source s quiet stacked q).bind fun _ => (statements_ends stacked rest).bind fun _ =>
      .pure fun ⟨length, h₂⟩ h₁ => ⟨congrArg (· + 1) length, h₁.bind (h₂.map _)⟩

end

end Rewrite

/-! ## A whole text -/

variable {σ : Type}

/-- A rewritten text is rewritten again to itself, and nothing is added: whatever the source answered for
the text can be asked for again, and what is written is read back. -/
theorem rewriteWith_again (codec : Codec) (source : Source σ) {sql : String} {s s' : σ} {result : Rewritten}
    (quiet : ∀ scope, ((source scope).run.run s).2 = s)
    (good : Rewrite.Repeatable codec source s
      ((rewriteWith codec (transcribing source) sql).run.run (s, [])).2.2)
    (readBack : ∀ list list' added s', codec.parse sql = some list →
      Rewrite.outcome (Rewrite.statements codec source (1 < list.length) list) .nothing s =
        (.ok (list', added), s') → added.isNothing = false → codec.parse (codec.render list') = some list')
    (rewritten : (rewriteWith codec source sql).run.run s = (.ok result, s')) :
    s' = s ∧ (rewriteWith codec source result.sql).run.run s = (.ok ⟨result.sql, .nothing⟩, s) := by
  cases parsed : codec.parse sql with
  | none =>
    rw [rewriteWith, parsed] at rewritten
    cases rewritten
  | some list =>
    rw [rewriteWith_run codec source parsed] at rewritten
    rw [rewriteWith_run codec _ parsed] at good
    rcases run : Rewrite.outcome (Rewrite.statements codec source (1 < list.length) list) .nothing s with
      ⟨_ | ⟨list', added⟩, s₁⟩
    · rw [run] at rewritten
      cases rewritten
    rw [run] at rewritten
    cases rewritten
    obtain ⟨asked, written, -, -⟩ := Rewrite.statements_related codec (Rewrite.related_transcribed source)
      (1 < list.length) list .nothing s []
    rw [written, run] at good
    rw [run] at written
    obtain ⟨-, ends⟩ := Rewrite.statements_ends codec source s quiet (1 < list.length) list .nothing s []
      list' added _ asked written good
    obtain ⟨same, length, rests⟩ := ends rfl
    obtain rfl : s' = s := same
    refine ⟨rfl, ?_⟩
    cases nothing : added.isNothing with
    | true =>
      obtain rfl := Rewrite.statements_unchanged run nothing
      obtain rfl : added = .nothing := by
        have again := (rests .nothing).symm.trans run
        cases again
        rfl
      change (rewriteWith codec source sql).run.run s' = (.ok ⟨sql, .nothing⟩, s')
      rw [rewriteWith_run codec source parsed, run]
      rfl
    | false =>
      have back := readBack list list' added s' parsed run nothing
      have again : Rewrite.outcome (Rewrite.statements codec source (1 < list.length) list') .nothing s' =
          (.ok (list', .nothing), s') := rests .nothing
      rw [if_neg Bool.false_ne_true, rewriteWith_run codec source back, length, again]
      rfl

end RowAccess
