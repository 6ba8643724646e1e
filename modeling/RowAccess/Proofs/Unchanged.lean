import RowAccess.Proofs.Runs
/-!
# What nothing is added to stays as it is

Rewriting only ever adds predicates, and where it adds none the statements are those that were read. A
text to which nothing is added may therefore be kept as it is written.
-/

namespace RowAccess

open Sql

/-- How many predicates have been added. -/
def Added.count (a : Added) : Nat := a.predicates.length

namespace Rewrite

variable {σ α β : Type}

/-- The step takes back nothing that was added, and its answer satisfies `p` where it adds nothing. -/
def Steady (m : Rewriting σ α) (p : α → Prop) : Prop :=
  ∀ a s x a' s', Runs m a s x a' s' → a.count ≤ a'.count ∧ (a'.count = a.count → p x)

namespace Steady

variable {m : Rewriting σ α} {f : α → Rewriting σ β} {p : α → Prop} {q : β → Prop}

/-! ## Steps -/

theorem pure {x : α} (h : p x) : Steady (Pure.pure x : Rewriting σ α) p := by
  intro a s y a' s' run
  obtain ⟨rfl, rfl, rfl⟩ := runs_pure.mp run
  exact ⟨Nat.le_refl _, fun _ => h⟩

theorem fail (e : Error) : Steady (Rewrite.fail e : Rewriting σ α) p := by
  intro a s x a' s' run
  cases run

theorem bind (first : Steady m p) (next : ∀ x, Steady (f x) fun y => p x → q y) :
    Steady (m >>= f) q := by
  intro a s y a'' s'' run
  obtain ⟨x, a', s', one, two⟩ := runs_bind.mp run
  obtain ⟨le, holds⟩ := first a s x a' s' one
  obtain ⟨le', holds'⟩ := next x a' s' y a'' s'' two
  exact ⟨by omega, fun same => holds' (by omega) (holds (by omega))⟩

theorem restrict_count (condition : Option Expr) (predicates : List Predicate) (added : Added) :
    added.count ≤ (restrict condition predicates added).2.count ∧
      ((restrict condition predicates added).2.count = added.count →
        (restrict condition predicates added).1 = condition) := by
  induction predicates generalizing condition added with
  | nil => exact ⟨Nat.le_refl _, fun _ => rfl⟩
  | cons p ps ih =>
    rw [restrict]
    split
    · exact ih condition added
    · have grown : (added.note p.condition.render p.table).count = added.count + 1 := by
        simp [Added.count, Added.note]
      obtain ⟨le, -⟩ := ih (some (conjoin condition p.condition)) (added.note p.condition.render p.table)
      rw [grown] at le
      exact ⟨by omega, fun same => absurd same (by omega)⟩

/-- A condition to which nothing is added stays as it is. -/
theorem addPredicates (source : Source σ) (scope : Scope) (condition : Option Expr) :
    Steady (Rewrite.addPredicates source scope condition) (· = condition) := by
  intro a s x a' s' run
  obtain ⟨ps, a₁, s₁, asked, run⟩ := runs_bind.mp run
  have kept : a₁ = a := by
    rw [Runs, outcome_ask] at asked
    split at asked <;> cases asked
    rfl
  have made : restrict condition ps a₁ = (x, a') := Except.ok.inj (Prod.mk.inj run).1
  have counted := restrict_count condition ps a₁
  rw [made, kept] at counted
  exact counted

theorem restrictJoin (source : Source σ) (operation : Operation) (visible : Nat)
    (tables : List Table) (condition : Expr) :
    Steady (Rewrite.restrictJoin source operation visible tables condition) (· = condition) := by
  rw [Rewrite.restrictJoin]
  split
  · exact pure rfl
  · refine (addPredicates source _ (some condition)).bind fun x => pure ?_
    rintro rfl
    rfl

theorem wrap (codec : Codec) (source : Source σ) (operation : Operation) (r : Relation) (t : Table) :
    Steady (Rewrite.wrap codec source operation r t) (· = r) := by
  rw [Rewrite.wrap]
  refine (addPredicates source _ none).bind fun filter => ?_
  cases filter with
  | none => exact pure fun _ => rfl
  | some filter =>
    dsimp only
    split
    · exact fail _
    · split
      · exact pure nofun
      · exact fail _

theorem refuseHidden (e : Expr) : Steady (Rewrite.refuseHidden (σ := σ) e) (· = e) := by
  rw [Rewrite.refuseHidden]
  split
  · exact fail _
  · exact pure rfl

end Steady

/-! ## The walk -/

section

variable (codec : Codec) (source : Source σ)

mutual

theorem expr_steady : ∀ e : Expr, Steady (expr codec source e) (· = e)
  | .name _ | .literal _ | .typed .. | .wildcard _ => .pure rfl
  | .unary _ operand => (expr_steady operand).bind fun _ => .pure (by rintro rfl; rfl)
  | .binary _ left right | .quantified _ _ left right | .distinctness _ left right
  | .atTimeZone left right | .matching _ left right =>
    (expr_steady left).bind fun _ => (expr_steady right).bind fun _ => .pure (by rintro rfl rfl; rfl)
  | .test _ _ operand | .nested operand | .cast _ operand _ | .collate operand _ | .extract _ _ operand =>
    (expr_steady operand).bind fun _ => .pure (by rintro rfl; rfl)
  | .inList _ operand members =>
    (expr_steady operand).bind fun _ => (exprs_steady members).bind fun _ =>
      .pure (by rintro rfl rfl; rfl)
  | .inQuery _ operand q =>
    (expr_steady operand).bind fun _ => (query_steady q).bind fun _ => .pure (by rintro rfl rfl; rfl)
  | .between _ operand low high =>
    (expr_steady operand).bind fun _ => (expr_steady low).bind fun _ => (expr_steady high).bind fun _ =>
      .pure (by rintro rfl rfl rfl; rfl)
  | .case operand conditions otherwise =>
    (expr?_steady operand).bind fun _ => (expr?_steady otherwise).bind fun _ =>
      (branches_steady conditions).bind fun _ => .pure (by rintro rfl rfl rfl; rfl)
  | .tuple members => (exprs_steady members).bind fun _ => .pure (by rintro rfl; rfl)
  | .call _ _ args _ filter _ =>
    (arguments_steady args).bind fun _ => (expr?_steady filter).bind fun _ =>
      .pure (by rintro rfl rfl; rfl)
  | .exists _ q | .subquery q => (query_steady q).bind fun _ => .pure (by rintro rfl; rfl)
  | .access root steps => .refuseHidden (.access root steps)
  | .special pieces => .refuseHidden (.special pieces)

theorem expr?_steady : ∀ e : Option Expr, Steady (expr? codec source e) (· = e)
  | none => .pure rfl
  | some e => (expr_steady e).bind fun _ => .pure (by rintro rfl; rfl)

theorem exprs_steady : ∀ es : List Expr, Steady (exprs codec source es) (· = es)
  | [] => .pure rfl
  | e :: es => (expr_steady e).bind fun _ => (exprs_steady es).bind fun _ => .pure (by rintro rfl rfl; rfl)

theorem branches_steady : ∀ bs : List Branch, Steady (branches codec source bs) (· = bs)
  | [] => .pure rfl
  | .mk condition result :: rest =>
    (expr_steady condition).bind fun _ => (expr_steady result).bind fun _ =>
      (branches_steady rest).bind fun _ => .pure (by rintro rfl rfl rfl; rfl)

theorem arguments_steady : ∀ args : Arguments, Steady (arguments codec source args) (· = args)
  | .none => .pure rfl
  | .query q => (query_steady q).bind fun _ => .pure (by rintro rfl; rfl)
  | .list _ list _ => (argumentList_steady list).bind fun _ => .pure (by rintro rfl; rfl)

theorem argumentList_steady : ∀ args : List Argument, Steady (argumentList codec source args) (· = args)
  | [] => .pure rfl
  | .mk _ value :: rest =>
    (expr_steady value).bind fun _ => (argumentList_steady rest).bind fun _ =>
      .pure (by rintro rfl rfl; rfl)

theorem items_steady : ∀ is : List Item, Steady (items codec source is) (· = is)
  | [] => .pure rfl
  | .mk e _ _ :: rest =>
    (expr_steady e).bind fun _ => (items_steady rest).bind fun _ => .pure (by rintro rfl rfl; rfl)

theorem ctes_steady : ∀ cs : List Cte, Steady (ctes codec source cs) (· = cs)
  | [] => .pure rfl
  | .mk _ _ _ q _ :: rest =>
    (query_steady q).bind fun _ => (ctes_steady rest).bind fun _ => .pure (by rintro rfl rfl; rfl)

theorem query_steady : ∀ q : Query, Steady (query codec source q) (· = q)
  | .mk _ named b order _ =>
    (ctes_steady named).bind fun _ => (body_steady b).bind fun _ => (items_steady order).bind fun _ =>
      .pure (by rintro rfl rfl rfl; rfl)

theorem body_steady : ∀ b : Body, Steady (body codec source b) (· = b)
  | .select s => (select_steady s).bind fun _ => .pure (by rintro rfl; rfl)
  | .query q => (query_steady q).bind fun _ => .pure (by rintro rfl; rfl)
  | .combined _ _ left right =>
    (body_steady left).bind fun _ => (body_steady right).bind fun _ => .pure (by rintro rfl rfl; rfl)
  | .values _ _ rows => (exprs_steady rows).bind fun _ => .pure (by rintro rfl; rfl)
  | .statement (.update u) => (update_steady u).bind fun _ => .pure (by rintro rfl; rfl)
  | .statement (.delete r) => (delete_steady r).bind fun _ => .pure (by rintro rfl; rfl)
  | .statement (.insert ..) => .pure rfl
  | .statement (.query _) => .pure rfl
  | .statement (.other .export _) => .pure rfl
  | .statement (.other .definition _) | .statement (.other .other _) => .fail _
  | .table _ => .fail _

theorem select_steady : ∀ s : Select, Steady (select codec source s) (· = s)
  | ⟨_, _, projection, _, relations, _, prewhere, selection, groupBy, _, _, having, _, _, qualify, _⟩ =>
    (items_steady projection).bind fun _ => (expr?_steady prewhere).bind fun _ =>
      (expr?_steady having).bind fun _ => (expr?_steady qualify).bind fun _ =>
      (exprs_steady groupBy).bind fun _ => (expr?_steady selection).bind fun _ =>
      (joinedList_steady .select _ relations).bind fun _ =>
      (Steady.addPredicates source _ _).bind fun _ =>
        .pure (by rintro rfl rfl rfl rfl rfl rfl rfl rfl; rfl)

theorem update_steady : ∀ u : Update, Steady (update codec source u) (· = u)
  | ⟨_, target, assigned, _, relations, selection, _⟩ =>
    (assignments_steady assigned).bind fun _ => (expr?_steady selection).bind fun _ =>
      (joined_steady .update _ false target).bind fun _ =>
      (joinedList_steady .update _ relations).bind fun _ =>
      (Steady.addPredicates source _ _).bind fun _ => .pure (by rintro rfl rfl rfl rfl rfl; rfl)

theorem delete_steady : ∀ r : Delete, Steady (delete codec source r) (· = r)
  | ⟨_, _, relations, others, selection, _⟩ =>
    (expr?_steady selection).bind fun _ => (joinedList_steady .delete _ relations).bind fun _ =>
      (joinedList_steady .delete _ others).bind fun _ =>
      (Steady.addPredicates source _ _).bind fun _ => .pure (by rintro rfl rfl rfl rfl; rfl)

theorem assignments_steady : ∀ list : List Assignment, Steady (assignments codec source list) (· = list)
  | [] => .pure rfl
  | .mk _ value :: rest =>
    (expr_steady value).bind fun _ => (assignments_steady rest).bind fun _ =>
      .pure (by rintro rfl rfl; rfl)

theorem joinedList_steady (operation : Operation) (visible : Nat) : ∀ js : List Joined,
    Steady (joinedList codec source operation visible js) (·.1 = js)
  | [] => .pure rfl
  | j :: js =>
    (joined_steady operation visible false j).bind fun _ =>
      (joinedList_steady operation visible js).bind fun _ => .pure (by rintro rfl rfl; rfl)

theorem joined_steady (operation : Operation) (visible : Nat) (wrapped : Bool) : ∀ j : Joined,
    Steady (joined codec source operation visible wrapped j) (·.1 = j)
  | .mk r js =>
    (relation_steady operation visible _ r).bind fun _ =>
      (joins_steady operation visible _ _ js).bind fun _ => .pure (by rintro rfl rfl; rfl)

theorem joins_steady (operation : Operation) (visible : Nat) (wrapped : Bool) (outer : List Table) :
    ∀ js : List Join, Steady (joins codec source operation visible wrapped outer js) (·.1 = js)
  | [] => .pure rfl
  | .mk _ kind r _ constraint :: rest =>
    (relation_steady operation visible wrapped r).bind fun _ =>
      (joinConstraint_steady operation visible kind outer _ constraint).bind fun _ =>
      (joins_steady operation visible wrapped _ rest).bind fun _ => .pure (by rintro rfl rfl rfl; rfl)

theorem joinConstraint_steady (operation : Operation) (visible : Nat) (kind : JoinKind)
    (outer tables : List Table) : ∀ c : JoinConstraint,
    Steady (joinConstraint codec source operation visible kind outer tables c) (·.1 = c)
  | .on condition => by
    refine (expr_steady condition).bind fun e => ?_
    split
    · exact (Steady.restrictJoin source _ _ _ e).bind fun _ => .pure (by rintro rfl rfl; rfl)
    · exact (Steady.restrictJoin source _ _ _ e).bind fun _ => .pure (by rintro rfl rfl; rfl)
    · exact .pure (by rintro rfl; rfl)
  | .columns _ | .natural | .none => .pure rfl

theorem relation_steady (operation : Operation) (visible : Nat) (wrapped : Bool) : ∀ r : Relation,
    Steady (relation codec source operation visible wrapped r) (·.1 = r)
  | .table .. => by
    cases wrapped with
    | true => exact (Steady.wrap codec source _ _ _).bind fun _ => .pure (by rintro rfl; rfl)
    | false => exact .pure rfl
  | .derived _ q _ => (query_steady q).bind fun _ => .pure (by rintro rfl; rfl)
  | .nested j _ => (joined_steady operation visible wrapped j).bind fun _ => .pure (by rintro rfl; rfl)
  | .reshaped r _ _ => (relation_steady operation visible true r).bind fun _ => .pure (by rintro rfl; rfl)
  | .function call _ => (expr_steady call).bind fun _ => .pure (by rintro rfl; rfl)
  | .special .. => .pure rfl

end

theorem statement_steady (stacked : Bool) (s : Statement) :
    Steady (statement codec source stacked s) (· = s) := by
  cases s with
  | query q => exact (query_steady codec source q).bind fun _ => .pure (by rintro rfl; rfl)
  | update u => exact (update_steady codec source u).bind fun _ => .pure (by rintro rfl; rfl)
  | delete r => exact (delete_steady codec source r).bind fun _ => .pure (by rintro rfl; rfl)
  | _ =>
    simp only [statement]
    split
    · exact .fail _
    · exact .pure rfl

theorem statements_steady (stacked : Bool) : ∀ list : List Statement,
    Steady (statements codec source stacked list) (· = list)
  | [] => .pure rfl
  | s :: rest =>
    (statement_steady codec source stacked s).bind fun _ =>
      (statements_steady stacked rest).bind fun _ => .pure (by rintro rfl rfl; rfl)

end

/-- Statements to which nothing is added stay as they are. -/
theorem statements_unchanged {codec : Codec} {source : Source σ} {stacked : Bool}
    {list list' : List Statement} {added : Added} {s s' : σ}
    (run : Runs (statements codec source stacked list) .nothing s list' added s')
    (none : added.isNothing = true) : list' = list := by
  refine (statements_steady codec source stacked list _ _ _ _ _ run).2 ?_
  rw [Added.count, List.isEmpty_iff.mp none]
  rfl

end Rewrite

end RowAccess
