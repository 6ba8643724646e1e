import Mathlib.Control.Monad.Basic
import RowAccess.Proofs.References
import RowAccess.Proofs.Runs
/-!
# Which tables the source is asked about

A source that writes down its scopes answers as before, and what it has written down after a run is
known: each table of a reached reference once, and nothing else. So every stored table that is read is
restricted exactly if none is read in a clause that rewriting passes over.

The walk is taken apart by `Lists`: after a step, the listings of a table have grown by the references
to it, up to the tables that the step hands on to be listed later.
-/

namespace RowAccess

open Sql

variable {σ α β : Type}

/-- The source, writing down the scopes it is asked about. -/
def recording (source : Source σ) : Source (σ × List Scope) := fun scope =>
  ExceptT.mk fun state =>
    let (answer, s) := (source scope).run.run state.1
    (answer, (s, state.2 ++ [scope]))

/-- The tables of scopes, each as often as it is listed. -/
def listings (scopes : List Scope) : List Table := scopes.flatMap Scope.tables

/-- The tables of the references that rewriting reaches. -/
def reachedTables (references : List Reference) : List Table :=
  (references.filter Reference.reached).map Reference.table

/-- Whether a name stands for a stored table in all the references to it. -/
def IsStored (references : List Reference) (t : Table) : Prop :=
  ∀ r ∈ references, r.table = t → r.meaning = .stored

/-- Whether the scopes list each stored table once for every reference to it. -/
def Covers (references : List Reference) (scopes : List Scope) : Prop :=
  ∀ t, IsStored references t → (listings scopes).count t = (references.map Reference.table).count t

/-- How often the references that rewriting reaches name a table. -/
def mentions (t : Table) (references : List Reference) : Nat := (reachedTables references).count t

namespace Rewrite

@[simp] theorem mentions_nil (t : Table) : mentions t [] = 0 := rfl

@[simp] theorem mentions_append (t : Table) (rs rs' : List Reference) :
    mentions t (rs ++ rs') = mentions t rs + mentions t rs' := by
  simp only [mentions, reachedTables, List.filter_append, List.map_append, List.count_append]

@[simp] theorem mentions_passedOver (t : Table) (rs : List Reference) :
    mentions t (passedOver rs) = 0 := by
  have none : (passedOver rs).filter Reference.reached = [] := by
    simp [passedOver]
  rw [mentions, reachedTables, none]
  rfl

@[simp] theorem mentions_reached (t t' : Table) (m : Meaning) (rs : List Reference) :
    mentions t (⟨t', m, true⟩ :: rs) = [t'].count t + mentions t rs := by
  simp only [mentions, reachedTables, List.filter_cons_of_pos, List.map_cons, ← List.count_append,
    List.singleton_append]

/-! ## What a step lists -/

/-- The step `m'` does what `m` does and writes down its scopes: then the listings of `t` have grown
by `n`, up to the `pending` ones. -/
def Lists (t : Table) (m : Rewriting σ α) (m' : Rewriting (σ × List Scope) α) (pending : α → Nat)
    (n : Nat) : Prop :=
  ∀ a s log, ∃ log', outcome m' a (s, log) = ((outcome m a s).1, ((outcome m a s).2, log')) ∧
    ∀ x a', (outcome m a s).1 = .ok (x, a') →
      (listings log').count t + pending x = (listings log).count t + n

namespace Lists

variable {t : Table} {m : Rewriting σ α} {m' : Rewriting (σ × List Scope) α} {n k : Nat}
  {pending : α → Nat} {pending' : β → Nat}
  {f : α → Rewriting σ β} {f' : α → Rewriting (σ × List Scope) β}

theorem pure (x : α) : Lists (σ := σ) t (Pure.pure x) (Pure.pure x) pending (pending x) := by
  intro a s log
  refine ⟨log, rfl, ?_⟩
  rintro _ _ ⟨⟩
  rfl

theorem fail (e : Error) : Lists (σ := σ) t (Rewrite.fail e) (Rewrite.fail e) pending n := by
  intro a s log
  refine ⟨log, rfl, ?_⟩
  rintro _ _ ⟨⟩

/-- What the first step leaves pending, the second step lists or hands on. -/
theorem bind (first : Lists t m m' pending n)
    (next : ∀ x, Lists t (f x) (f' x) pending' (pending x + k)) :
    Lists t (m >>= f) (m' >>= f') pending' (n + k) := by
  intro a s log
  obtain ⟨log₁, same₁, grown₁⟩ := first a s log
  rw [outcome_bind, outcome_bind, same₁]
  rcases h : outcome m a s with ⟨_ | ⟨x, a'⟩, s'⟩
  · exact ⟨log₁, rfl, by rintro _ _ ⟨⟩⟩
  · obtain ⟨log₂, same₂, grown₂⟩ := next x a' s' log₁
    refine ⟨log₂, same₂, fun y a'' answered => ?_⟩
    have one := grown₁ x a' (by rw [h])
    have two := grown₂ y a'' answered
    omega

/-- A step that leaves nothing pending, before others. -/
theorem step (first : Lists t m m' (fun _ => 0) n)
    (next : ∀ x, Lists t (f x) (f' x) pending' k) : Lists t (m >>= f) (m' >>= f') pending' (n + k) :=
  first.bind fun x => by simpa using next x

/-- What is done with an answer lists nothing. -/
theorem map (h : Lists t m m' (fun _ => 0) n) (g : α → β) :
    Lists t (m >>= fun x => Pure.pure (g x)) (m' >>= fun x => Pure.pure (g x)) (fun _ => 0) n :=
  h.step (k := 0) fun _ => pure _

theorem congr (h : Lists t m m' pending n) (same : n = k) : Lists t m m' pending k := same ▸ h

/-- More tables can be handed on beside those of a step. -/
theorem handOn (h : Lists t m m' pending n) (c : Nat) :
    Lists t m m' (fun x => c + pending x) (c + n) := by
  intro a s log
  obtain ⟨log', same, grown⟩ := h a s log
  refine ⟨log', same, fun x a' answered => ?_⟩
  have := grown x a' answered
  dsimp only
  omega

/-- The source is asked about a scope: its tables are listed. -/
theorem ask (source : Source σ) (scope : Scope) :
    Lists t (liftM (source scope) : Rewriting σ _) (liftM (recording source scope)) (fun _ => 0)
      (scope.tables.count t) := by
  intro a s log
  refine ⟨log ++ [scope], ?_, fun _ _ _ => ?_⟩
  · have recorded : (recording source scope).run.run (s, log) =
        (((source scope).run.run s).1, (((source scope).run.run s).2, log ++ [scope])) := rfl
    rw [outcome_ask, outcome_ask, recorded]
    rcases (source scope).run.run s with ⟨_ | answer, s'⟩ <;> rfl
  · simp [listings]

/-- Noting what is added lists nothing. -/
theorem note (g : Added → α × Added) :
    Lists (σ := σ) t (modifyGet g) (modifyGet g) (fun _ => 0) 0 :=
  fun _ _ log => ⟨log, rfl, fun _ _ _ => rfl⟩

theorem addPredicates (source : Source σ) (scope : Scope) (condition : Option Expr) :
    Lists t (Rewrite.addPredicates source scope condition)
      (Rewrite.addPredicates (recording source) scope condition) (fun _ => 0)
      (scope.tables.count t) := by
  rw [Rewrite.addPredicates, Rewrite.addPredicates]
  exact (ask source scope).step fun _ => note _

theorem restrictJoin (source : Source σ) (operation : Operation) (visible : Nat)
    (tables : List Table) (condition : Expr) :
    Lists t (Rewrite.restrictJoin source operation visible tables condition)
      (Rewrite.restrictJoin (recording source) operation visible tables condition) (fun _ => 0)
      (tables.count t) := by
  rw [Rewrite.restrictJoin, Rewrite.restrictJoin]
  cases tables with
  | nil => exact pure condition
  | cons first rest => exact (addPredicates source _ (some condition)).step (k := 0) fun _ => pure _

theorem wrap (codec : Codec) (source : Source σ) (operation : Operation) (r : Relation)
    (named : Table) :
    Lists t (Rewrite.wrap codec source operation r named)
      (Rewrite.wrap codec (recording source) operation r named) (fun _ => 0)
      ([named].count t) := by
  rw [Rewrite.wrap, Rewrite.wrap]
  refine (addPredicates source _ none).step (k := 0) fun filter => ?_
  cases filter with
  | none => exact pure r
  | some filter =>
    dsimp only
    split
    · exact fail _
    · split
      · exact pure _
      · exact fail _

/-- An expression that is not looked into is refused or left as it is. -/
theorem refuseHidden (e : Expr) :
    Lists (σ := σ) t (Rewrite.refuseHidden e) (Rewrite.refuseHidden e) (fun _ => 0) 0 := by
  rw [Rewrite.refuseHidden, Rewrite.refuseHidden]
  split
  · exact fail _
  · exact pure e

end Lists

/-! ## What the walk lists -/

section

variable (codec : Codec) (source : Source σ) (t : Table)

mutual

theorem expr_lists (named : List String) : ∀ e : Expr,
    Lists t (expr codec source e) (expr codec (recording source) e) (fun _ => 0)
      (mentions t (References.expr named e))
  | .name _ | .literal _ | .typed .. | .wildcard _ => .pure _
  | .unary _ operand | .test _ _ operand | .nested operand | .cast _ operand _ | .collate operand _
  | .extract _ _ operand => (expr_lists named operand).map _
  | .binary _ left right | .quantified _ _ left right | .distinctness _ left right
  | .atTimeZone left right | .matching _ left right => by
    rw [References.expr, mentions_append]
    exact (expr_lists named left).step fun _ => (expr_lists named right).map _
  | .inList _ operand members => by
    rw [References.expr, mentions_append]
    exact (expr_lists named operand).step fun _ => (exprs_lists named members).map _
  | .inQuery _ operand q => by
    rw [References.expr, mentions_append]
    exact (expr_lists named operand).step fun _ => (query_lists named q).map _
  | .between _ operand low high => by
    rw [References.expr, mentions_append, mentions_append, Nat.add_assoc]
    exact (expr_lists named operand).step fun _ => (expr_lists named low).step fun _ =>
      (expr_lists named high).map _
  | .case operand conditions otherwise => by
    rw [References.expr, mentions_append, mentions_append, Nat.add_assoc,
      Nat.add_comm (mentions t (References.branches named conditions))]
    exact (expr?_lists named operand).step fun _ => (expr?_lists named otherwise).step fun _ =>
      (branches_lists named conditions).map _
  | .tuple members => (exprs_lists named members).map _
  | .call _ _ args _ filter _ => by
    rw [References.expr]
    simp only [mentions_append, mentions_passedOver, Nat.zero_add, Nat.add_zero]
    exact (arguments_lists named args).step fun _ => (expr?_lists named filter).map _
  | .exists _ q | .subquery q => (query_lists named q).map _
  | .access root steps => by
    rw [References.expr, mentions_passedOver]
    exact .refuseHidden (.access root steps)
  | .special pieces => by
    rw [References.expr, mentions_passedOver]
    exact .refuseHidden (.special pieces)

theorem expr?_lists (named : List String) : ∀ e : Option Expr,
    Lists t (expr? codec source e) (expr? codec (recording source) e) (fun _ => 0)
      (mentions t (References.expr? named e))
  | none => .pure _
  | some e => (expr_lists named e).map _

theorem exprs_lists (named : List String) : ∀ es : List Expr,
    Lists t (exprs codec source es) (exprs codec (recording source) es) (fun _ => 0)
      (mentions t (References.exprs named es))
  | [] => .pure _
  | e :: es => by
    rw [References.exprs, mentions_append]
    exact (expr_lists named e).step fun _ => (exprs_lists named es).map _

theorem branches_lists (named : List String) : ∀ bs : List Branch,
    Lists t (branches codec source bs) (branches codec (recording source) bs) (fun _ => 0)
      (mentions t (References.branches named bs))
  | [] => .pure _
  | .mk condition result :: rest => by
    rw [References.branches, mentions_append, mentions_append, Nat.add_assoc]
    exact (expr_lists named condition).step fun _ => (expr_lists named result).step fun _ =>
      (branches_lists named rest).map _

theorem arguments_lists (named : List String) : ∀ args : Arguments,
    Lists t (arguments codec source args) (arguments codec (recording source) args) (fun _ => 0)
      (mentions t (References.arguments named args))
  | .none => .pure _
  | .query q => (query_lists named q).map _
  | .list distinct list clauses => by
    rw [References.arguments, mentions_append, mentions_passedOver,
      Nat.add_zero]
    exact (argumentList_lists named list).map _

theorem argumentList_lists (named : List String) : ∀ args : List Argument,
    Lists t (argumentList codec source args) (argumentList codec (recording source) args) (fun _ => 0)
      (mentions t (References.argumentList named args))
  | [] => .pure _
  | .mk label value :: rest => by
    rw [References.argumentList]
    simp only [mentions_append, mentions_passedOver, Nat.zero_add]
    exact (expr_lists named value).step fun _ => (argumentList_lists named rest).map _

theorem items_lists (named : List String) : ∀ list : List Item,
    Lists t (items codec source list) (items codec (recording source) list) (fun _ => 0)
      (mentions t (References.items named list))
  | [] => .pure _
  | .mk e aliased options :: rest => by
    rw [References.items]
    simp only [mentions_append, mentions_passedOver, Nat.add_zero]
    exact (expr_lists named e).step fun _ => (items_lists named rest).map _

theorem ctes_lists (named : List String) : ∀ list : List Cte,
    Lists t (ctes codec source list) (ctes codec (recording source) list) (fun _ => 0)
      (mentions t (References.ctes named list))
  | [] => .pure _
  | .mk name columns materialized q origin :: rest => by
    rw [References.ctes, mentions_append]
    exact (query_lists named q).step fun _ => (ctes_lists _ rest).map _

theorem query_lists (named : List String) : ∀ q : Query,
    Lists t (query codec source q) (query codec (recording source) q) (fun _ => 0)
      (mentions t (References.query named q))
  | .mk recursive list b order tail => by
    rw [References.query]
    simp only [mentions_append, mentions_passedOver, Nat.add_zero, Nat.add_assoc]
    exact (ctes_lists _ list).step fun _ => (body_lists _ b).step fun _ => (items_lists _ order).map _

theorem body_lists (named : List String) : ∀ b : Body,
    Lists t (body codec source b) (body codec (recording source) b) (fun _ => 0)
      (mentions t (References.body named b))
  | .select s => (select_lists named s).map _
  | .query q => (query_lists named q).map _
  | .combined op quantifier left right => by
    rw [References.body, mentions_append]
    exact (body_lists named left).step fun _ => (body_lists named right).map _
  | .values keyword rowWord rows => (exprs_lists named rows).map _
  | .statement (.update u) => (update_lists named u).map _
  | .statement (.delete r) => (delete_lists named r).map _
  | .statement (.insert table parts) => by
    rw [References.body, mentions_passedOver]
    exact .pure _
  | .statement (.query q) => by
    rw [References.body, mentions_passedOver]
    exact .pure _
  | .statement (.other kind parts) => by
    cases kind with
    | «export» =>
      rw [References.body, mentions_passedOver]
      exact .pure _
    | definition => simpa only [body] using .fail _
    | other => simpa only [body] using .fail _
  | .table name => by
    rw [body, body]
    exact .fail _

theorem select_lists (named : List String) : ∀ s : Select,
    Lists t (select codec source s) (select codec (recording source) s) (fun _ => 0)
      (mentions t (References.select named s))
  | ⟨form, distinct, projection, into, relations, views, prewhere, selection, groupBy, groupOptions,
      clustering, having, windows, windowsFirst, qualify, hierarchy⟩ => by
    rw [References.select]
    refine Lists.congr ((items_lists named projection).step fun _ =>
      (expr?_lists named prewhere).step fun _ => (expr?_lists named having).step fun _ =>
      (expr?_lists named qualify).step fun _ => (exprs_lists named groupBy).step fun _ =>
      (expr?_lists named selection).step fun _ => (joinedList_lists named _ _ relations).bind
        (k := 0) fun ⟨_, _⟩ => (Lists.addPredicates source _ _).map _) ?_
    simp only [mentions_append, mentions_passedOver]
    omega

theorem update_lists (named : List String) : ∀ u : Update,
    Lists t (update codec source u) (update codec (recording source) u) (fun _ => 0)
      (mentions t (References.update named u))
  | ⟨conflict, target, assigned, relationsFirst, relations, selection, tail⟩ => by
    rw [References.update]
    refine Lists.congr ((assignments_lists named assigned).step fun _ =>
      (expr?_lists named selection).step fun _ => (joined_lists named _ _ _ target).bind
        (k := mentions t (References.joinedList named relations)) fun ⟨_, tables⟩ => ?_) ?_
    · refine ((joinedList_lists named _ _ relations).handOn (tables.count t)).bind (k := 0)
        fun ⟨_, more⟩ => ?_
      exact Lists.congr ((Lists.addPredicates source _ _).map _) List.count_append
    · simp only [mentions_append, mentions_passedOver]
      omega

theorem delete_lists (named : List String) : ∀ r : Delete,
    Lists t (delete codec source r) (delete codec (recording source) r) (fun _ => 0)
      (mentions t (References.delete named r))
  | ⟨tables, fromWord, relations, others, selection, tail⟩ => by
    rw [References.delete]
    refine Lists.congr ((expr?_lists named selection).step fun _ =>
      (joinedList_lists named _ _ relations).bind
        (k := mentions t (References.joinedList named others)) fun ⟨_, tables⟩ => ?_) ?_
    · refine ((joinedList_lists named _ _ others).handOn (tables.count t)).bind (k := 0)
        fun ⟨_, more⟩ => ?_
      exact Lists.congr ((Lists.addPredicates source _ _).map _) List.count_append
    · simp only [mentions_append, mentions_passedOver]
      omega

theorem assignments_lists (named : List String) : ∀ list : List Assignment,
    Lists t (assignments codec source list) (assignments codec (recording source) list) (fun _ => 0)
      (mentions t (References.assignments named list))
  | [] => .pure _
  | .mk target value :: rest => by
    rw [References.assignments, mentions_append]
    exact (expr_lists named value).step fun _ => (assignments_lists named rest).map _

theorem joinedList_lists (named : List String) (operation : Operation) (visible : Nat) : ∀ js : List Joined,
    Lists t (joinedList codec source operation visible js)
      (joinedList codec (recording source) operation visible js) (fun x => x.2.count t)
      (mentions t (References.joinedList named js))
  | [] => .pure _
  | j :: js => by
    rw [References.joinedList, mentions_append]
    refine (joined_lists named _ _ _ j).bind fun ⟨_, tables⟩ => ?_
    refine ((joinedList_lists named _ _ js).handOn (tables.count t)).bind (k := 0) fun ⟨_, more⟩ => ?_
    exact Lists.congr (.pure _) List.count_append

theorem joined_lists (named : List String) (operation : Operation) (visible : Nat) (wrapped : Bool) :
    ∀ j : Joined,
    Lists t (joined codec source operation visible wrapped j)
      (joined codec (recording source) operation visible wrapped j) (fun x => x.2.count t)
      (mentions t (References.joined named j))
  | .mk r js => by
    rw [References.joined, mentions_append]
    refine (relation_lists named _ _ _ r).bind fun ⟨_, outer⟩ => ?_
    exact (joins_lists named _ _ _ outer js).bind (k := 0) fun ⟨_, _⟩ => .pure _

theorem joins_lists (named : List String) (operation : Operation) (visible : Nat) (wrapped : Bool)
    (outer : List Table) : ∀ js : List Join,
    Lists t (joins codec source operation visible wrapped outer js)
      (joins codec (recording source) operation visible wrapped outer js) (fun x => x.2.count t)
      (outer.count t + mentions t (References.joins named js))
  | [] => .pure _
  | .mk global kind r matchCondition constraint :: rest => by
    rw [References.joins]
    refine Lists.congr (((relation_lists named _ _ _ r).handOn (outer.count t)).bind
      (k := mentions t (References.joinConstraint named constraint) +
        mentions t (References.joins named rest)) fun ⟨_, tables⟩ => ?_) ?_
    · refine Lists.congr ((joinConstraint_lists named _ _ kind outer tables constraint).bind
        (k := mentions t (References.joins named rest)) fun ⟨_, outer'⟩ => ?_) ?_
      · exact (joins_lists named _ _ _ outer' rest).bind (k := 0) fun ⟨_, _⟩ => .pure _
      · exact Nat.add_assoc ..
    · simp only [mentions_append, mentions_passedOver]
      omega

theorem joinConstraint_lists (named : List String) (operation : Operation) (visible : Nat)
    (kind : JoinKind) (outer tables : List Table) : ∀ c : JoinConstraint,
    Lists t (joinConstraint codec source operation visible kind outer tables c)
      (joinConstraint codec (recording source) operation visible kind outer tables c) (fun x => x.2.count t)
      (outer.count t + tables.count t + mentions t (References.joinConstraint named c))
  | .on condition => by
    rw [References.joinConstraint,
      Nat.add_comm _ (mentions t _)]
    refine (expr_lists named condition).step fun condition => ?_
    cases nullableSide? kind with
    | none => exact Lists.congr (.pure _) List.count_append
    | some side =>
      cases side with
      | joined =>
        rw [Nat.add_comm]
        exact (Lists.restrictJoin source _ _ tables condition).step fun _ => .pure _
      | preceding => exact (Lists.restrictJoin source _ _ outer condition).step fun _ => .pure _
  | .columns names => by
    simp only [joinConstraint, References.joinConstraint]
    exact Lists.congr (.pure _) List.count_append
  | .natural => by
    simp only [joinConstraint, References.joinConstraint]
    exact Lists.congr (.pure _) List.count_append
  | .none => by
    simp only [joinConstraint, References.joinConstraint]
    exact Lists.congr (.pure _) List.count_append

theorem relation_lists (named : List String) (operation : Operation) (visible : Nat) (wrapped : Bool) :
    ∀ r : Relation,
    Lists t (relation codec source operation visible wrapped r)
      (relation codec (recording source) operation visible wrapped r) (fun x => x.2.count t)
      (mentions t (References.relation named r))
  | .table name partitions args ordinality aliased after => by
    rw [References.relation, mentions_reached, mentions_passedOver, Nat.add_zero]
    cases wrapped with
    | true => exact (Lists.wrap codec source _ _ _).step (k := 0) fun _ => .pure _
    | false => exact .pure _
  | .derived lateral q aliased => (query_lists named q).step (k := 0) fun _ => .pure _
  | .nested j aliased => (joined_lists named _ _ _ j).bind (k := 0) fun ⟨_, _⟩ => .pure _
  | .reshaped r clause aliased => by
    rw [References.relation, mentions_append, mentions_passedOver, Nat.add_zero]
    exact (relation_lists named _ _ _ r).bind (k := 0) fun ⟨_, _⟩ => .pure _
  | .function call aliased => (expr_lists named call).step (k := 0) fun _ => .pure _
  | .special parts aliased after => by
    rw [References.relation, mentions_passedOver]
    exact .pure _

end

theorem statement_lists (stacked : Bool) (s : Statement) :
    Lists t (statement codec source stacked s) (statement codec (recording source) stacked s)
      (fun _ => 0) (mentions t (References.statement [] s)) := by
  cases s with
  | query q => simpa only [statement, References.statement] using (query_lists _ _ t [] q).map _
  | update u => simpa only [statement, References.statement] using (update_lists _ _ t [] u).map _
  | delete r => simpa only [statement, References.statement] using (delete_lists _ _ t [] r).map _
  | _ =>
    simp only [statement, References.statement, mentions_passedOver]
    cases stacked with
    | true => exact .fail _
    | false => exact .pure _

theorem statements_lists (stacked : Bool) (list : List Statement) :
    Lists t (statements codec source stacked list) (statements codec (recording source) stacked list)
      (fun _ => 0) (mentions t (References.statements list)) := by
  induction list with
  | nil => exact .pure _
  | cons s rest ih =>
    rw [statements, statements, References.statements, List.flatMap_cons, mentions_append]
    exact (statement_lists codec source t stacked s).step fun _ => ih.map _

end

end Rewrite

/-! ## What a whole text is asked about -/

/-- A table is reached as often as it is read exactly if no reference to it is passed over. -/
theorem count_reachedTables (references : List Reference) (t : Table) :
    (reachedTables references).count t = (references.map Reference.table).count t ↔
      ∀ r ∈ references, r.table = t → r.reached = true := by
  have split : (references.map Reference.table).count t = (reachedTables references).count t +
      ((references.filter fun r => !r.reached).map Reference.table).count t := by
    rw [reachedTables, ← List.count_append, ← List.map_append]
    exact ((List.filter_append_perm _ references).map _).count_eq t |>.symm
  have passed : ((references.filter fun r => !r.reached).map Reference.table).count t = 0 ↔
      ∀ r ∈ references, r.table = t → r.reached = true := by
    rw [List.count_eq_zero, List.mem_map, not_exists]
    refine forall_congr' fun r => ?_
    rw [List.mem_filter]
    cases r.reached <;> simp
  rw [← passed]
  omega

/-- If rewriting succeeds, the source has been asked about each table of a reached reference once, and
about no others. It follows that stored tables are covered exactly if none of them is read in a clause
that rewriting passes over. -/
theorem rewriteWith_lists_reached (codec : Codec) (source : Source σ) {sql : String}
    {list : List Statement} {r : Rewritten} {s s' : σ} (parsed : codec.parse sql = some list)
    (answered : (rewriteWith codec source sql).run.run s = (.ok r, s')) :
    ∃ log, (rewriteWith codec (recording source) sql).run.run (s, []) = (.ok r, (s', log)) ∧
      (listings log).Perm (reachedTables (References.statements list)) ∧
      (Covers (References.statements list) log ↔
        ∀ r ∈ References.statements list,
          IsStored (References.statements list) r.table → r.reached = true) := by
  have lists t := Rewrite.statements_lists codec source t (1 < list.length) list .nothing s []
  rw [rewriteWith_run codec source parsed] at answered
  rw [rewriteWith_run codec (recording source) parsed]
  obtain ⟨log, same, _⟩ := lists default
  rw [same]
  rcases h : Rewrite.outcome (Rewrite.statements codec source (1 < list.length) list) .nothing s with
    ⟨_ | ⟨list', added⟩, s''⟩
  · rw [h] at answered
    cases answered
  rw [h] at answered
  cases answered
  have counts t : (listings log).count t = (reachedTables (References.statements list)).count t := by
    obtain ⟨log', same', grown⟩ := lists t
    rw [same] at same'
    cases same'
    simpa [listings, mentions] using grown list' added (by rw [h])
  refine ⟨log, rfl, List.perm_iff_count.mpr counts, ?_⟩
  constructor
  · intro covers r read stored
    have := covers r.table stored
    rw [counts, count_reachedTables] at this
    exact this r read rfl
  · intro reached t stored
    rw [counts, count_reachedTables]
    rintro r read rfl
    exact reached r read stored

/-- A query with a subquery in a clause that rewriting passes over. -/
def limitText : String := "SELECT * FROM orders LIMIT (SELECT count(*) FROM users)"

/-- A source that never fails: it restricts every table to one tenant. -/
def oneTenant : Source Unit := fun scope => pure (scope.tables.map fun t =>
  ⟨.tenant, some t.baseName,
    .binary .eq (.name [⟨t.qualifier, none⟩, ⟨"tenant_id", none⟩]) (.literal (.string "T1"))⟩)

/-- What becomes of it: the table of its subquery is not restricted. -/
def limitRewritten : Rewritten where
  sql := "SELECT * FROM orders WHERE orders.tenant_id = 'T1' LIMIT (SELECT count(*) FROM users)"
  added := ⟨["orders.tenant_id = 'T1'"], ["orders"]⟩

/-- The table in the `LIMIT` is a stored one, and the source is never asked about it. -/
theorem limit_not_listed :
    ∃ list log, Sql.parse .postgres limitText = some list ∧
      (rewriteWith (.ofDialect .postgres) (recording oneTenant) limitText).run.run ((), []) =
        (.ok limitRewritten, ((), log)) ∧
      (⟨⟨"users", none⟩, .stored, false⟩ : Reference) ∈ References.statements list ∧
      ⟨"users", none⟩ ∉ listings log ∧
      ¬ Covers (References.statements list) log := by
  have read : (Sql.parse .postgres limitText).map References.statements =
      some [⟨⟨"orders", none⟩, .stored, true⟩, ⟨⟨"users", none⟩, .stored, false⟩] := by
    decide +kernel
  have answered : (rewriteWith (.ofDialect .postgres) oneTenant limitText).run.run () =
      (.ok limitRewritten, ()) := by
    change ((_ : Except Error Rewritten × Unit) = _)
    decide +kernel
  obtain ⟨list, parsed, references⟩ := Option.map_eq_some_iff.mp read
  obtain ⟨log, run, listed, covers⟩ :=
    rewriteWith_lists_reached (.ofDialect .postgres) oneTenant parsed answered
  refine ⟨list, log, parsed, run, by rw [references]; decide, ?_, ?_⟩
  · rw [listed.mem_iff, references]
    decide
  · rw [covers, references]
    simp [IsStored]

end RowAccess
