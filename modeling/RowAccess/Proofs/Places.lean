import Mathlib.Data.Set.Basic
import RowAccess.Proofs.Semantics.Enforcement
/-!
# The places of a statement

Rewriting changes the conditions of a statement, and nothing else as long as it wraps no table. An outline
(`Outline`) takes a statement apart in this way: the statement without its conditions, and these
conditions, each with the scope that rewriting asks about there, where it asks about one. Two statements
are alike (`Alike`) if their outlines are, with the same conjuncts in each place.

Conditions are compared by their conjuncts, so it does not matter how the terms of a conjunction are
grouped. Inside of a conjunct the conditions of queries are left out, since they have places of their own.
-/

namespace RowAccess

open Sql Semantics

/-! ## Places -/

/-- Where rewriting may add predicates. -/
structure Place where
  /-- The scope that it asks about, if it does. -/
  scope : Option Scope
  /-- The condition in this place; none for a table that may be wrapped. -/
  condition : Option Expr
  /-- Whether the predicates, if there are any, wrap a table. -/
  wraps : Bool

/-- A part of a statement without its conditions, and the places of these. -/
structure Outline (α : Type) where
  blank : α
  places : List Place

/-! ## Tables that are handed on -/

namespace Outer

/-- The tables whose predicates belong outside of a join between `outer` and `tables`. -/
def joinConstraint (kind : JoinKind) (outer tables : List Table) : JoinConstraint → List Table
  | .on _ =>
    match Rewrite.nullableSide? kind with
    | some .joined => outer
    | some .preceding => tables
    | none => outer ++ tables
  | _ => outer ++ tables

mutual

/-- The tables whose predicates belong outside of a relation with its joins. -/
def joined (wrapped : Bool) : Joined → List Table
  | .mk r js =>
    joins (wrapped || js.any Rewrite.Join.needsWrapping)
      (relation (wrapped || js.any Rewrite.Join.needsWrapping) r) js

/-- The tables whose predicates belong outside of joins after `outer`. -/
def joins (wrapped : Bool) (outer : List Table) : List Join → List Table
  | [] => outer
  | .mk _ kind r _ constraint :: rest =>
    joins wrapped (joinConstraint kind outer (relation wrapped r) constraint) rest

/-- The tables whose predicates belong outside of a relation. -/
def relation (wrapped : Bool) : Relation → List Table
  | .table name _ _ _ aliased _ => if wrapped then [] else [⟨Name.render name, aliased.map (·.name.render)⟩]
  | .nested j _ => joined wrapped j
  | .reshaped r _ _ => relation true r
  | .derived .. | .function .. | .special .. => []

end

/-- The tables whose predicates belong in the `WHERE` after a list of relations. -/
def joinedList (js : List Joined) : List Table := js.flatMap (joined false)

end Outer

/-! ## Outlines -/

namespace Outline

variable {α β : Type}

/-- The outline of what rewriting does not look into. -/
def pure (x : α) : Outline α := ⟨x, []⟩

/-- The outline of a part with something around it. -/
def map (f : α → β) (x : Outline α) : Outline β := ⟨f x.blank, x.places⟩

/-- The outline of a part with another one after it. -/
def seq (f : Outline (α → β)) (x : Outline α) : Outline β := ⟨f.blank x.blank, f.places ++ x.places⟩

/-- The outline of a condition that is left out, after the places within it. -/
def condition (scope : Option Scope) (e : Option Expr) (within : Outline α) : Outline Unit :=
  ⟨(), within.places ++ [⟨scope, e, false⟩]⟩

/-- The terms of a conjunction. -/
def chain : Expr → List Expr
  | .binary .and left right => chain left ++ chain right
  | e => [e]

/-- An operation. The terms of conjunctions are grouped to the left. -/
def binary (op : BinaryOp) (left right : Expr) : Expr :=
  match op with
  | .and => (chain right).foldl (.binary .and) left
  | op => .binary op left right

/-- The scope that rewriting asks about for the condition of a join, if it does. -/
def joinScope (operation : Operation) (visible : Nat) (kind : JoinKind) (outer tables : List Table) :
    Option Scope :=
  let restricted := match Rewrite.nullableSide? kind with
    | some .joined => tables
    | some .preceding => outer
    | none => []
  if restricted.isEmpty then none else some ⟨operation, .join, restricted, visible⟩

mutual

/-- An expression without the conditions of its queries. -/
def expr : Expr → Outline Expr
  | .name parts => pure (.name parts)
  | .literal value => pure (.literal value)
  | .typed before value after => pure (.typed before value after)
  | .wildcard qualifier => pure (.wildcard qualifier)
  | .unary op operand => (expr operand).map (.unary op)
  | .binary op left right => (expr left).map (binary op) |>.seq (expr right)
  | .quantified op quantifier left right => (expr left).map (.quantified op quantifier) |>.seq (expr right)
  | .distinctness negated left right => (expr left).map (.distinctness negated) |>.seq (expr right)
  | .atTimeZone operand zone => (expr operand).map .atTimeZone |>.seq (expr zone)
  | .matching how operand pattern => (expr operand).map (.matching how) |>.seq (expr pattern)
  | .test negated property operand => (expr operand).map (.test negated property)
  | .nested inner => (expr inner).map .nested
  | .cast form operand type => (expr operand).map fun operand => .cast form operand type
  | .collate operand collation => (expr operand).map fun operand => .collate operand collation
  | .extract field comma operand => (expr operand).map (.extract field comma)
  | .inList negated operand members => (expr operand).map (.inList negated) |>.seq (exprs members)
  | .inQuery negated operand q => (expr operand).map (.inQuery negated) |>.seq (query q)
  | .between negated operand low high =>
    (expr operand).map (.between negated) |>.seq (expr low) |>.seq (expr high)
  | .case operand conditions otherwise =>
    (expr? operand).map .case |>.seq (branches conditions) |>.seq (expr? otherwise)
  | .tuple members => (exprs members).map .tuple
  | .call function parameters args grouping filter window =>
    (arguments args).map (fun args filter => .call function parameters args grouping filter window) |>.seq
      (expr? filter)
  | .exists negated q => (query q).map (.exists negated)
  | .subquery q => (query q).map .subquery
  | .access root steps => pure (.access root steps)
  | .special pieces => pure (.special pieces)

/-- An expression that may be absent. -/
def expr? : Option Expr → Outline (Option Expr)
  | none => pure none
  | some e => (expr e).map some

/-- Expressions, from left to right. -/
def exprs : List Expr → Outline (List Expr)
  | [] => pure []
  | e :: es => (expr e).map List.cons |>.seq (exprs es)

/-- The branches of a `CASE`. -/
def branches : List Branch → Outline (List Branch)
  | [] => pure []
  | .mk condition result :: rest =>
    (expr condition).map (fun condition result rest => .mk condition result :: rest) |>.seq (expr result)
      |>.seq (branches rest)

/-- The arguments of a call. -/
def arguments : Arguments → Outline Arguments
  | .none => pure .none
  | .query q => (query q).map .query
  | .list distinct list clauses => (argumentList list).map fun list => .list distinct list clauses

/-- Arguments, from left to right. -/
def argumentList : List Argument → Outline (List Argument)
  | [] => pure []
  | .mk label value :: rest =>
    (expr value).map (fun value rest => .mk label value :: rest) |>.seq (argumentList rest)

/-- Columns, or expressions to order by. -/
def items : List Item → Outline (List Item)
  | [] => pure []
  | .mk e aliased options :: rest =>
    (expr e).map (fun e rest => .mk e aliased options :: rest) |>.seq (items rest)

/-- Named queries. -/
def ctes : List Cte → Outline (List Cte)
  | [] => pure []
  | .mk name columns materialized q origin :: rest =>
    (query q).map (fun q rest => .mk name columns materialized q origin :: rest) |>.seq (ctes rest)

/-- A query: its named queries, its body, its order. -/
def query : Query → Outline Query
  | .mk recursive named b order tail =>
    (ctes named).map (fun named b order => .mk recursive named b order tail) |>.seq (body b) |>.seq
      (items order)

/-- The body of a query. -/
def body : Body → Outline Body
  | .select s => (select s).map .select
  | .query q => (query q).map .query
  | .combined op quantifier left right => (body left).map (.combined op quantifier) |>.seq (body right)
  | .values keyword rowWord rows => (exprs rows).map (.values keyword rowWord)
  | .statement s =>
    match s with
    | .update u => (update u).map fun u => .statement (.update u)
    | .delete r => (delete r).map fun r => .statement (.delete r)
    | .insert table pieces => pure (.statement (.insert table pieces))
    | .query q => pure (.statement (.query q))
    | .other kind pieces => pure (.statement (.other kind pieces))
  | .table name => pure (.table name)

/-- A `SELECT`. -/
def select : Select → Outline Select
  | ⟨form, distinct, projection, into, relations, views, prewhere, selection, groupBy, groupOptions,
      clustering, having, windows, windowsFirst, qualify, hierarchy⟩ =>
    (items projection).map (fun projection prewhere having qualify groupBy relations _ =>
        ⟨form, distinct, projection, into, relations, views, prewhere, none, groupBy, groupOptions,
          clustering, having, windows, windowsFirst, qualify, hierarchy⟩) |>.seq
      (expr? prewhere) |>.seq (expr? having) |>.seq (expr? qualify) |>.seq (exprs groupBy) |>.seq
      (joinedList .select (Rewrite.countTables relations) relations) |>.seq
      (condition (some ⟨.select, .filter, Outer.joinedList relations, Rewrite.countTables relations⟩)
        selection (expr? selection))

/-- An `UPDATE`. -/
def update : Update → Outline Update
  | ⟨conflict, target, assigned, relationsFirst, relations, selection, tail⟩ =>
    let visible := Rewrite.countTables [target] + Rewrite.countTables relations
    (assignments assigned).map (fun assigned target relations _ =>
        ⟨conflict, target, assigned, relationsFirst, relations, none, tail⟩) |>.seq
      (joined .update visible false target) |>.seq (joinedList .update visible relations) |>.seq
      (condition (some ⟨.update, .filter, Outer.joined false target ++ Outer.joinedList relations, visible⟩)
        selection (expr? selection))

/-- A `DELETE`. -/
def delete : Delete → Outline Delete
  | ⟨named, fromWord, relations, others, selection, tail⟩ =>
    let visible := Rewrite.countTables relations + Rewrite.countTables others
    (joinedList .delete visible relations).map (fun relations others _ =>
        ⟨named, fromWord, relations, others, none, tail⟩) |>.seq
      (joinedList .delete visible others) |>.seq
      (condition (some ⟨.delete, .filter, Outer.joinedList relations ++ Outer.joinedList others, visible⟩)
        selection (expr? selection))

/-- The assignments of an `UPDATE`. -/
def assignments : List Assignment → Outline (List Assignment)
  | [] => pure []
  | .mk target value :: rest =>
    (expr value).map (fun value rest => .mk target value :: rest) |>.seq (assignments rest)

/-- The relations of a list. -/
def joinedList (operation : Operation) (visible : Nat) : List Joined → Outline (List Joined)
  | [] => pure []
  | j :: js => (joined operation visible false j).map List.cons |>.seq (joinedList operation visible js)

/-- A relation with its joins. -/
def joined (operation : Operation) (visible : Nat) (wrapped : Bool) : Joined → Outline Joined
  | .mk r js =>
    let wrapped := wrapped || js.any Rewrite.Join.needsWrapping
    (relation operation visible wrapped r).map .mk |>.seq
      (joins operation visible wrapped (Outer.relation wrapped r) js)

/-- Joined relations after the tables `outer`. -/
def joins (operation : Operation) (visible : Nat) (wrapped : Bool) (outer : List Table) :
    List Join → Outline (List Join)
  | [] => pure []
  | .mk global kind r matchCondition constraint :: rest =>
    let tables := Outer.relation wrapped r
    (relation operation visible wrapped r).map (fun r constraint rest =>
        .mk global kind r matchCondition constraint :: rest) |>.seq
      (joinConstraint operation visible kind outer tables constraint) |>.seq
      (joins operation visible wrapped (Outer.joinConstraint kind outer tables constraint) rest)

/-- The constraint of a join between the tables `outer` and `tables`. -/
def joinConstraint (operation : Operation) (visible : Nat) (kind : JoinKind) (outer tables : List Table) :
    JoinConstraint → Outline JoinConstraint
  | .on e =>
    (condition (joinScope operation visible kind outer tables) (some e) (expr e)).map fun _ => .on (.tuple [])
  | .columns names => pure (.columns names)
  | .natural => pure .natural
  | .none => pure .none

/-- A relation. -/
def relation (operation : Operation) (visible : Nat) (wrapped : Bool) : Relation → Outline Relation
  | .table name partitions args ordinality aliased after =>
    let t : Table := ⟨Name.render name, aliased.map (·.name.render)⟩
    ⟨.table name partitions args ordinality aliased after,
      if wrapped then [⟨some ⟨operation, .join, [t], 1⟩, none, true⟩] else []⟩
  | .derived lateral q aliased => (query q).map fun q => .derived lateral q aliased
  | .nested j aliased => (joined operation visible wrapped j).map fun j => .nested j aliased
  | .reshaped r clause aliased =>
    (relation operation visible true r).map fun r => .reshaped r clause aliased
  | .function call aliased => (expr call).map fun call => .function call aliased
  | .special pieces aliased after => pure (.special pieces aliased after)

end

/-- A statement. -/
def statement : Statement → Outline Statement
  | .query q => (query q).map .query
  | .update u => (update u).map .update
  | .delete r => (delete r).map .delete
  | other => pure other

/-- Statements, one after the other. -/
def statements : List Statement → Outline (List Statement)
  | [] => pure []
  | s :: rest => (statement s).map List.cons |>.seq (statements rest)

/-! ## What an outline keeps -/

theorem chain_foldl (e : Expr) (ts : List Expr) :
    chain (ts.foldl (.binary .and) e) = chain e ++ ts.flatMap chain := by
  induction ts generalizing e with
  | nil => simp
  | cons t ts ih =>
    rw [List.foldl_cons, ih, chain, List.append_assoc]
    rfl

theorem flatMap_chain (e : Expr) : (chain e).flatMap chain = chain e := by
  fun_induction chain e with
  | case1 left right ihl ihr => rw [List.flatMap_append, ihl, ihr]
  | case2 e single => simp [chain.eq_2 e single]

/-- The grouping of a conjunction does not show in its outline. -/
theorem expr_assoc (a b c : Expr) :
    expr (.binary .and a (.binary .and b c)) = expr (.binary .and (.binary .and a b) c) := by
  have blank : binary .and (expr a).blank (binary .and (expr b).blank (expr c).blank) =
      binary .and (binary .and (expr a).blank (expr b).blank) (expr c).blank := by
    simp only [binary, chain_foldl, flatMap_chain, List.foldl_append]
  exact congrArg₂ Outline.mk blank (List.append_assoc _ _ _).symm

theorem outer_joinConstraint (operation : Operation) (visible : Nat) (kind kind' : JoinKind)
    (outer tables outer' tables' : List Table) (c : JoinConstraint) :
    Outer.joinConstraint kind outer tables (joinConstraint operation visible kind' outer' tables' c).blank =
      Outer.joinConstraint kind outer tables c := by
  cases c <;> rfl

theorem needsWrapping_joins (operation : Operation) (visible : Nat) (wrapped : Bool) (outer : List Table)
    (js : List Join) :
    (joins operation visible wrapped outer js).blank.any Rewrite.Join.needsWrapping =
      js.any Rewrite.Join.needsWrapping := by
  induction js generalizing outer with
  | nil => rfl
  | cons j js ih =>
    obtain ⟨global, kind, r, matchCondition, constraint⟩ := j
    have same : Rewrite.Join.needsWrapping (.mk global kind (relation operation visible wrapped r).blank
        matchCondition (joinConstraint operation visible kind outer (Outer.relation wrapped r) constraint).blank) =
        Rewrite.Join.needsWrapping (.mk global kind r matchCondition constraint) := by
      cases constraint <;> rfl
    exact congrArg₂ or same (ih _)

mutual

theorem outer_joined (operation : Operation) (visible : Nat) (w wrapped : Bool) : ∀ j : Joined,
    Outer.joined w (joined operation visible wrapped j).blank = Outer.joined w j
  | .mk r js => by
    have shape (v : Bool) : Outer.joined w (.mk (relation operation visible v r).blank
          (joins operation visible v (Outer.relation v r) js).blank) =
        Outer.joined w (.mk r js) := by
      rw [Outer.joined, Outer.joined, needsWrapping_joins, outer_relation operation visible _ v r,
        outer_joins operation visible _ v _ _ js]
    exact shape _

theorem outer_joins (operation : Operation) (visible : Nat) (w wrapped : Bool) (o outer : List Table) :
    ∀ js : List Join, Outer.joins w o (joins operation visible wrapped outer js).blank = Outer.joins w o js
  | [] => rfl
  | .mk global kind r matchCondition constraint :: rest => by
    have shape : Outer.joins w o (.mk global kind (relation operation visible wrapped r).blank matchCondition
          (joinConstraint operation visible kind outer (Outer.relation wrapped r) constraint).blank ::
          (joins operation visible wrapped (Outer.joinConstraint kind outer (Outer.relation wrapped r) constraint)
            rest).blank) = Outer.joins w o (.mk global kind r matchCondition constraint :: rest) := by
      rw [Outer.joins, Outer.joins, outer_joinConstraint, outer_relation operation visible w wrapped r,
        outer_joins operation visible w wrapped _ _ rest]
    exact shape

theorem outer_relation (operation : Operation) (visible : Nat) (w wrapped : Bool) : ∀ r : Relation,
    Outer.relation w (relation operation visible wrapped r).blank = Outer.relation w r
  | .table .. => rfl
  | .derived .. => rfl
  | .nested j _ => outer_joined operation visible w wrapped j
  | .reshaped r _ _ => outer_relation operation visible true true r
  | .function .. => rfl
  | .special .. => rfl

end

mutual

theorem countTables_relation (operation : Operation) (visible : Nat) (wrapped : Bool) : ∀ r : Relation,
    Rewrite.relationTables (relation operation visible wrapped r).blank = Rewrite.relationTables r
  | .nested (.mk r js) _ => congrArg₂ (· + ·) (countTables_relation operation visible _ r)
      (countTables_joins operation visible _ _ js)
  | .table .. | .derived .. | .reshaped .. | .function .. | .special .. => rfl

theorem countTables_joins (operation : Operation) (visible : Nat) (wrapped : Bool) (outer : List Table) :
    ∀ js : List Join, Rewrite.joinTables (joins operation visible wrapped outer js).blank = Rewrite.joinTables js
  | [] => rfl
  | .mk _ _ r _ _ :: rest => congrArg₂ (· + ·) (countTables_relation operation visible wrapped r)
      (countTables_joins operation visible wrapped _ rest)

end

theorem countTables_joined (operation : Operation) (visible : Nat) (wrapped : Bool) (j : Joined) :
    Rewrite.countTables [(joined operation visible wrapped j).blank] = Rewrite.countTables [j] := by
  obtain ⟨r, js⟩ := j
  exact congrArg₂ (fun m n => m + n + 0) (countTables_relation operation visible _ r)
    (countTables_joins operation visible _ _ js)

theorem outer_joinedList (operation : Operation) (visible : Nat) (js : List Joined) :
    Outer.joinedList (joinedList operation visible js).blank = Outer.joinedList js := by
  induction js with
  | nil => rfl
  | cons j js ih => exact congrArg₂ (· ++ ·) (outer_joined operation visible false false j) ih

theorem countTables_joinedList (operation : Operation) (visible : Nat) (js : List Joined) :
    Rewrite.countTables (joinedList operation visible js).blank = Rewrite.countTables js := by
  induction js with
  | nil => rfl
  | cons j js ih =>
    obtain ⟨r, joins⟩ := j
    exact congrArg₂ (· + ·) (congrArg₂ (· + ·) (countTables_relation operation visible _ r)
      (countTables_joins operation visible _ _ joins)) ih

end Outline

/-! ## Conjuncts -/

/-- The conjuncts of a condition. Parentheses around them do not count. -/
def conjuncts : Expr → List Expr
  | .binary .and left right => conjuncts left ++ conjuncts right
  | .nested inner => conjuncts inner
  | e => [e]

/-- The conjuncts of an expression, without the conditions of their queries. -/
def conjunctsOf (e : Expr) : Set Expr := {t | t ∈ conjuncts (Outline.expr e).blank}

theorem conjuncts_foldl (e : Expr) (ts : List Expr) :
    conjuncts (ts.foldl (.binary .and) e) = conjuncts e ++ ts.flatMap conjuncts := by
  induction ts generalizing e with
  | nil => simp
  | cons t ts ih =>
    rw [List.foldl_cons, ih, conjuncts, List.append_assoc]
    rfl

theorem flatMap_conjuncts (e : Expr) : (Outline.chain e).flatMap conjuncts = conjuncts e := by
  fun_induction Outline.chain e with
  | case1 left right ihl ihr => rw [List.flatMap_append, ihl, ihr, conjuncts]
  | case2 e single => simp

theorem conjunctsOf_and (left right : Expr) :
    conjunctsOf (.binary .and left right) = conjunctsOf left ∪ conjunctsOf right := by
  ext t
  change t ∈ conjuncts ((Outline.chain (Outline.expr right).blank).foldl (.binary .and) (Outline.expr left).blank) ↔
    t ∈ conjuncts (Outline.expr left).blank ∨ t ∈ conjuncts (Outline.expr right).blank
  rw [conjuncts_foldl, flatMap_conjuncts, List.mem_append]

theorem conjunctsOf_asConjunct (e : Expr) : conjunctsOf (asConjunct e) = conjunctsOf e := by
  unfold asConjunct
  split <;> rfl

theorem conjunctsOf_conjoin (condition : Option Expr) (p : Expr) :
    conjunctsOf (conjoin condition p) = {t | ∃ e ∈ condition, t ∈ conjunctsOf e} ∪ conjunctsOf p := by
  cases condition with
  | none => simp [conjoin]
  | some e => simp [conjoin, conjunctsOf_and, conjunctsOf_asConjunct]

/-- The terms of a condition, as they are compared with predicates, have no conjuncts but its own. -/
theorem conjunctsOf_term {e t : Expr} (mem : t ∈ terms e) : conjunctsOf t ⊆ conjunctsOf e := by
  fun_induction terms e with
  | case1 left right ihl ihr =>
    rw [conjunctsOf_and]
    rcases List.mem_append.mp mem with mem | mem
    · exact (ihl mem).trans Set.subset_union_left
    · exact (ihr mem).trans Set.subset_union_right
  | case2 inner ih =>
    rcases List.mem_cons.mp mem with rfl | mem
    · exact subset_rfl
    rcases List.mem_cons.mp mem with rfl | mem
    · exact subset_rfl
    split at mem
    · exact ih mem
    · cases mem
  | case3 e notAnd notNested => rw [List.mem_singleton.mp mem]

/-- The terms of a condition are among those of the condition with predicates added. -/
theorem terms_withTerms {e e' t : Expr} {ps : List Expr} (mem : t ∈ terms (asConjunct e))
    (made : withTerms (some e) ps = some e') : t ∈ terms (asConjunct e') := by
  induction ps generalizing e with
  | nil =>
    cases made
    exact mem
  | cons p ps ih =>
    rw [withTerms] at made
    split at made
    · exact ih mem made
    · exact ih (List.mem_append_left _ mem) made

/-- A condition has the conjuncts that it had and those of the predicates added to it, if a term that is written
like a predicate has the same conjuncts. -/
theorem conjunctsOf_withTerms {condition : Option Expr} {ps : List Expr}
    (apart : ∀ e ∈ withTerms condition ps, ∀ t ∈ terms (asConjunct e), ∀ p ∈ ps, t.render = p.render →
      conjunctsOf t = conjunctsOf p) :
    {t | ∃ e ∈ withTerms condition ps, t ∈ conjunctsOf e} =
      {t | ∃ e ∈ condition, t ∈ conjunctsOf e} ∪ {t | ∃ p ∈ ps, t ∈ conjunctsOf p} := by
  induction ps generalizing condition with
  | nil => simp [withTerms]
  | cons p ps ih =>
    have split : {t | ∃ q ∈ p :: ps, t ∈ conjunctsOf q} = conjunctsOf p ∪ {t | ∃ q ∈ ps, t ∈ conjunctsOf q} := by
      ext t
      simp
    rw [split]
    rw [withTerms] at apart ⊢
    by_cases written : condition.any (hasConjunct p.render) = true
    · rw [if_pos written] at apart ⊢
      rw [ih fun e mem t member q listed => apart e mem t member q (.tail _ listed), ← Set.union_assoc]
      obtain ⟨e, mem, found⟩ := Option.any_eq_true _ _ |>.mp written
      obtain rfl := Option.mem_def.mp mem
      obtain ⟨t, member, same⟩ := (hasConjunct_iff _ _).mp found
      obtain ⟨e', made⟩ := Enforcement.Sound.withTerms_some e ps
      -- the predicate is a term already
      have among : conjunctsOf p ⊆ conjunctsOf e := by
        rw [← apart e' made t (terms_withTerms (terms_subset e t member) made) p (.head _) same]
        exact conjunctsOf_term member
      congr 1
      refine (Set.union_eq_left.mpr ?_).symm
      intro t mem
      exact ⟨e, rfl, among mem⟩
    · rw [if_neg written] at apart ⊢
      rw [ih fun e mem t member q listed => apart e mem t member q (.tail _ listed), ← Set.union_assoc]
      congr 1
      rw [← conjunctsOf_conjoin]
      simp

/-! ## Statements that are alike -/

/-- What a place looks like: the scope, and the set of conjuncts. -/
structure Face where
  scope : Option Scope
  wraps : Bool
  conjuncts : Set Expr

/-- The look of a place. -/
def Place.face (p : Place) : Face := ⟨p.scope, p.wraps, {t | ∃ e ∈ p.condition, t ∈ conjunctsOf e}⟩

/-- The statements are the same without their conditions, and these have, place by place, the same
conjuncts. -/
structure Alike (list list' : List Statement) : Prop where
  blank : (Outline.statements list).blank = (Outline.statements list').blank
  faces : (Outline.statements list).places.map Place.face = (Outline.statements list').places.map Place.face

theorem conjuncts_ne_nil (e : Expr) : conjuncts e ≠ [] := by
  fun_induction conjuncts e with
  | case1 left right ihl ihr => exact List.append_ne_nil_of_left_ne_nil ihl _
  | case2 inner ih => exact ih
  | case3 e notAnd notNested => exact List.cons_ne_nil e []

/-- There is a condition exactly if there are conjuncts. -/
theorem Place.nonempty_face (p : Place) : p.face.conjuncts.Nonempty ↔ p.condition.isSome = true := by
  rw [Option.isSome_iff_exists]
  constructor
  · rintro ⟨t, e, mem, -⟩
    exact ⟨e, mem⟩
  · rintro ⟨e, mem⟩
    obtain ⟨t, listed⟩ := List.exists_mem_of_ne_nil _ (conjuncts_ne_nil (Outline.expr e).blank)
    exact ⟨t, e, mem, listed⟩

/-- Statements that are alike have conditions in the same places. -/
theorem Alike.conditions {list list' : List Statement} (h : Alike list list') :
    (Outline.statements list).places.map (·.condition.isSome) =
      (Outline.statements list').places.map (·.condition.isSome) := by
  have nonempty (places : List Place) : (places.map Place.face).map (·.conjuncts.Nonempty) =
      (places.map (·.condition.isSome)).map (· = true) := by
    rw [List.map_map, List.map_map]
    exact List.map_congr_left fun p _ => propext p.nonempty_face
  have same := congrArg (List.map (·.conjuncts.Nonempty)) h.faces
  rw [nonempty, nonempty] at same
  exact List.map_injective_iff.mpr (fun a b same => Bool.eq_iff_iff.mpr (iff_of_eq same)) same

end RowAccess
