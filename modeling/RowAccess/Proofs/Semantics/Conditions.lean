import RowAccess.Proofs.Junctions
import RowAccess.Proofs.Semantics.Terms
/-!
# What written conditions mean

Texts that are joined are read as a condition that is true at a row if some, or all, of them are
(`parseExpr_texts`). The text of a condition on a column is true at the rows that show one of its values in
the column, and the text that takes its place where there are no values is true at none
(`Condition.stands`).
-/

namespace RowAccess

open Sql Sql.Parser Semantics
open Config (Combine DataRule)

/-! ## Truth of junctions -/

theorem Semantics.Truth.or_eq_true {a b : Truth} :
    Truth.or a b = some true ↔ a = some true ∨ b = some true := by
  rcases a with _ | _ | _ <;> rcases b with _ | _ | _ <;> simp [Truth.or, Truth.and, Truth.neg]

/-- Whether some members have a property, or all of them. -/
def Config.Combine.holds {α : Type} (c : Combine) (p : α → Bool) (as : List α) : Bool :=
  match c with
  | .or => as.any p
  | .and => as.all p

theorem Config.Combine.holds_map {α β : Type} (c : Combine) (f : α → β) (p : β → Bool) (as : List α) :
    c.holds p (as.map f) = c.holds (p ∘ f) as := by
  cases c with
  | or => exact List.any_map
  | and => exact List.all_map

/-- Lists whose members agree on a property, each with one of the other, agree on it. -/
theorem Config.Combine.holds_same {α β : Type} (c : Combine) {p : α → Bool} {q : β → Bool} {as : List α}
    {bs : List β} (forth : ∀ a ∈ as, ∃ b ∈ bs, p a = q b) (back : ∀ b ∈ bs, ∃ a ∈ as, p a = q b) :
    c.holds p as = c.holds q bs := by
  rw [Bool.eq_iff_iff]
  cases c with
  | or =>
    rw [holds, holds, List.any_eq_true, List.any_eq_true]
    constructor
    · rintro ⟨a, mem, yes⟩
      obtain ⟨b, mem', same⟩ := forth a mem
      exact ⟨b, mem', same ▸ yes⟩
    · rintro ⟨b, mem, yes⟩
      obtain ⟨a, mem', same⟩ := back b mem
      exact ⟨a, mem', same ▸ yes⟩
  | and =>
    rw [holds, holds, List.all_eq_true, List.all_eq_true]
    constructor
    · intro each b mem
      obtain ⟨a, mem', same⟩ := back b mem
      exact same ▸ each a mem'
    · intro each a mem
      obtain ⟨b, mem', same⟩ := forth a mem
      exact same ▸ each b mem'

namespace Semantics

variable {V : Type} [DecidableEq V] (I : Interpretation V) (W : World V) (env : Env V)

theorem isTrueAt_or (left right : Expr) :
    isTrueAt I W env (.binary .or left right) = (isTrueAt I W env left || isTrueAt I W env right) := by
  rw [Bool.eq_iff_iff, Bool.or_eq_true]
  have value : (expr I W (.binary .or left right)).value env =
      I.ofTruth ((I.truth ((expr I W left).value env)).or (I.truth ((expr I W right).value env))) := rfl
  simp only [isTrueAt, Interpretation.isTrue, value, I.truth_ofTruth, beq_iff_eq, Truth.or_eq_true]

theorem isTrueAt_joined (c : Combine) (e : Expr) (es : List Expr) :
    isTrueAt I W env (.joined c.op e es) = c.holds (isTrueAt I W env) (e :: es) := by
  induction es generalizing e with
  | nil => cases c <;> simp [Expr.joined, Combine.holds]
  | cons e' es ih =>
    rw [Expr.joined, List.foldl_cons]
    refine (ih _).trans ?_
    cases c with
    | or => simp only [Combine.holds, Combine.op, List.any_cons, isTrueAt_or, Bool.or_assoc]
    | and => simp only [Combine.holds, Combine.op, List.all_cons, isTrueAt_and, Bool.and_assoc]

/-- Whether a text is read as a condition that is true. -/
def satisfied (d : Dialect) (text : String) : Bool := (parseExpr d text).any (isTrueAt I W env)

/-- Whether a row satisfies the condition for a caller, if there is one. -/
def admits (d : Dialect) (condition : Option String) : Bool := condition.all (satisfied I W env d)

end Semantics

section

variable {d : Dialect} {deny : String}

theorem Sql.Parser.StandsAs.parseExpr {text : String} {e : Expr} (h : StandsAs d text e) :
    parseExpr d text = some e := by
  obtain ⟨lead, tokens, stands⟩ := h
  have read := parseExpr_term stands
  exact read

theorem exists_terms {texts : List String} (stand : ∀ text ∈ texts, ∃ e, StandsAs d text e) :
    ∃ ts : List Term, ts.map (·.text) = texts ∧ ∀ t ∈ ts, t.Stands d := by
  induction texts with
  | nil => exact ⟨[], rfl, by simp⟩
  | cons text texts ih =>
    obtain ⟨e, lead, tokens, first⟩ := stand text (.head _)
    obtain ⟨ts, rfl, rest⟩ := ih fun text mem => stand text (.tail _ mem)
    exact ⟨⟨text, e, lead, tokens⟩ :: ts, rfl, List.forall_mem_cons.mpr ⟨first, rest⟩⟩

/-- Combined texts are read as a condition that is true if some, or all, of them are. -/
theorem parseExpr_texts (c : Combine) (deny : String) {texts : List String} (nonempty : texts ≠ [])
    (stand : ∀ text ∈ texts, ∃ e, StandsAs d text e) :
    ∃ e, parseExpr d (DataRule.combined c deny texts) = some e ∧
      ∀ {V : Type} [DecidableEq V] (I : Interpretation V) (W : World V) (env : Env V),
        isTrueAt I W env e = c.holds (satisfied I W env d) texts := by
  obtain ⟨ts, rfl, all⟩ := exists_terms stand
  cases ts with
  | nil => exact absurd rfl nonempty
  | cons t ts =>
    refine ⟨_, parseExpr_combined deny all, fun I W env => ?_⟩
    have each : ∀ u ∈ t :: ts, isTrueAt I W env u.expr = satisfied I W env d u.text := by
      intro u mem
      rw [satisfied, parseExpr_term (all u mem), Option.any_some]
    have joined : isTrueAt I W env (.joined c.op t.expr (ts.map (·.expr))) =
        c.holds (satisfied I W env d) ((t :: ts).map (·.text)) := by
      rw [isTrueAt_joined, ← List.map_cons, c.holds_map, c.holds_map]
      exact c.holds_same (fun u mem => ⟨u, mem, each u mem⟩) fun u mem => ⟨u, mem, each u mem⟩
    rw [← joined]
    cases ts <;> rfl

end

/-! ## Conditions on a column -/

section

variable {V : Type}

/-- `IN` compares values as `=` does. -/
def Semantics.Interpretation.ComparesAlike (I : Interpretation V) : Prop :=
  ∀ v w, I.truth (I.binary .eq v w) = I.equal v w

/-- Whether a row shows a value in a column. -/
def Semantics.Interpretation.shows (I : Interpretation V) (env : Env V) (qualifier : Option String)
    (column value : String) : Bool :=
  I.equal (env.lookup I (columnName qualifier column)) (I.literal (.string value)) == some true

/-- Whether a row satisfies a condition on a column, as it is meant. -/
def Condition.holds (I : Interpretation V) (env : Env V) : Condition → Bool
  | .equals qualifier column value => I.shows env qualifier column value
  | .among qualifier column values => values.any (I.shows env qualifier column)

theorem Condition.isTrueAt_expr [DecidableEq V] {I : Interpretation V} (alike : I.ComparesAlike)
    (W : World V) (env : Env V) (c : Condition) : isTrueAt I W env c.expr = c.holds I env := by
  cases c with
  | equals qualifier column value =>
    change (I.truth (I.binary .eq _ _) == some true) = _
    rw [alike]
    rfl
  | among qualifier column values =>
    have members : ((exprs I W (values.map fun v => .literal (.string v))).map fun m =>
        I.equal (env.lookup I (columnName qualifier column)) (m.value env)) =
        values.map fun v =>
          I.equal (env.lookup I (columnName qualifier column)) (I.literal (.string v)) := by
      induction values with
      | nil => rfl
      | cons v values ih =>
        rw [List.map_cons, exprs, List.map_cons, ih]
        rfl
    change (I.truth (I.ofTruth (((exprs I W (values.map fun v => .literal (.string v))).map fun m =>
      I.equal (env.lookup I (columnName qualifier column)) (m.value env)).foldr Truth.or
        (some false))) == some true) = _
    rw [members, I.truth_ofTruth, holds]
    clear members
    induction values with
    | nil => rfl
    | cons v values ih =>
      rw [List.map_cons, List.foldr_cons, List.any_cons, ← ih, Bool.eq_iff_iff]
      simp only [beq_iff_eq, Bool.or_eq_true, Truth.or_eq_true, Interpretation.shows]

variable {d : Dialect} {deny : String} {never : Expr}

/-- The text of a condition is a term, and its expression is true at the rows that satisfy the condition.
For a list without members that is the text that denies all. -/
theorem Condition.stands (denies : StandsAs d deny never) {c : Condition}
    (names : c.names.all isColumnName = true) (values : ∀ v ∈ c.values, d.readable v = true) :
    ∃ e, StandsAs d (c.text deny) e ∧
      ∀ {V : Type} [DecidableEq V] {I : Interpretation V} {W : World V} {env : Env V},
        I.ComparesAlike → isTrueAt I W env never = false → isTrueAt I W env e = c.holds I env := by
  cases c with
  | equals qualifier column value =>
    exact ⟨_, ⟨_, _, stands_equals names (values value (.head _))⟩, fun alike _ =>
      isTrueAt_expr alike _ _ (.equals qualifier column value)⟩
  | among qualifier column members =>
    cases members with
    | nil => exact ⟨never, denies, fun _ off => off⟩
    | cons v members =>
      exact ⟨_, ⟨_, _, stands_members names deny (List.cons_ne_nil _ _) values⟩, fun alike _ =>
        isTrueAt_expr alike _ _ (.among qualifier column (v :: members))⟩

end

end RowAccess
