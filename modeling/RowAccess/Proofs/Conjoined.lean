import RowAccess.Proofs.Junctions
import RowAccess.Proofs.Places
import RowAccess.Proofs.Semantics.Texts
import RowAccess.Proofs.Stacked
/-!
# Predicates are added as a conjunction

Predicates are added to a condition one after the other, each unless a term of the condition so far is written like
it. What comes of it is the conjunction of the condition and the predicates that are left (`restrict_conjunction`),
and it is as true as the conjunction of all of them, provided that what is written alike is as true
(`truthOf_withTerms`).

The tree is grouped from left to right, and `OR` and `XOR` are put in parentheses. Whether its text is grouped like it
depends on what the conditions are read as where they stand (`ReadAsMeant`): some operators take all that follows
them, and they are not put in parentheses. If each condition is read as it is meant, the text is read with the same
terms (`parseExpr_conjunction`), and so it is as true.

All this is said in one place (`Conjoined`, `restrict_conjoins`).
-/

namespace RowAccess

open Sql Sql.Parser Semantics
open Config (Combine)

/-! ## The tree -/

/-- Whether `OR` or `XOR` stands at the top, so that `AND` would take part of the expression. -/
def Sql.Expr.isLoose : Expr → Bool
  | .binary .or _ _ | .binary .xor _ _ => true
  | _ => false

/-- The conjunction of conditions, from left to right. -/
def Sql.Expr.conjunction : List Expr → Option Expr
  | [] => none
  | [e] => some e
  | e :: es => some (.joined .and (asConjunct e) (es.map asConjunct))

/-- The predicates that are added, since they are not written yet when it is their turn. -/
def unwritten (condition : Option Expr) : List Predicate → List Predicate
  | [] => []
  | p :: ps =>
    if condition.any (hasConjunct p.condition.render) then unwritten condition ps
    else p :: unwritten (some (conjoin condition p.condition)) ps

namespace Sql.Expr

theorem isLoose_asConjunct (e : Expr) : (asConjunct e).isLoose = false := by
  unfold asConjunct
  split
  · rfl
  · rfl
  · next notOr notXor =>
    unfold isLoose
    split
    · exact absurd rfl (notOr _ _)
    · exact absurd rfl (notXor _ _)
    · rfl

theorem asConjunct_of_loose {e : Expr} (loose : e.isLoose = true) : asConjunct e = .nested e := by
  unfold isLoose at loose
  split at loose
  · rfl
  · rfl
  · cases loose

theorem asConjunct_of_tight {e : Expr} (tight : e.isLoose = false) : asConjunct e = e := by
  unfold asConjunct
  split
  · cases tight
  · cases tight
  · rfl

/-- The last operand of a junction stands outermost. -/
theorem joined_concat (op : BinaryOp) (e : Expr) (es : List Expr) (x : Expr) :
    joined op e (es ++ [x]) = .binary op (joined op e es) x := List.foldl_concat ..

/-- A conjunction with one more condition is the conjunction of all of them. -/
theorem conjoin_conjunction (es : List Expr) (p : Expr) :
    some (conjoin (conjunction es) p) = conjunction (es ++ [p]) := by
  rcases es with _ | ⟨e, _ | ⟨f, rest⟩⟩
  · rfl
  · rfl
  · -- Its top is the `AND` before its last operand, so it is not put in parentheses.
    obtain ⟨init, last, more⟩ := (List.eq_nil_or_concat' ((f :: rest).map asConjunct)).resolve_left (by simp)
    simp only [conjunction, List.cons_append, conjoin]
    rw [← List.cons_append, List.map_append, more, List.map_singleton, joined_concat, joined_concat, joined_concat]
    rfl

end Sql.Expr

/-! ## What is added -/

/-- The predicates that are not written yet are added, and written down. -/
theorem restrict_eq (condition : Option Expr) (ps : List Predicate) (added : Added) :
    restrict condition ps added =
      ((unwritten condition ps).foldl (fun condition p => some (conjoin condition p.condition)) condition,
        (unwritten condition ps).foldl (fun added p => added.note p.condition.render p.table) added) := by
  induction ps generalizing condition added with
  | nil => rfl
  | cons p ps ih =>
    rw [restrict, unwritten]
    split
    · exact ih condition added
    · exact ih _ _

/-- One more predicate is added unless a term of the condition so far is written like it. -/
theorem unwritten_concat (condition : Option Expr) (ps : List Predicate) (p : Predicate) (added : Added) :
    unwritten condition (ps ++ [p]) = unwritten condition ps ++
      if (restrict condition ps added).1.any (hasConjunct p.condition.render) then [] else [p] := by
  induction ps generalizing condition added with
  | nil =>
    simp only [List.nil_append, unwritten, restrict]
    rfl
  | cons q qs ih =>
    rw [List.cons_append, unwritten, unwritten, restrict]
    split
    · exact ih condition added
    · exact congrArg (q :: ·) (ih _ _)

/-- What is written down of predicates that are added. -/
theorem foldl_note (ps : List Predicate) (added : Added) :
    ps.foldl (fun added p => added.note p.condition.render p.table) added =
      ⟨added.predicates ++ ps.map (·.condition.render),
        (ps.filterMap (·.table)).foldl Added.withTable added.tables⟩ := by
  induction ps generalizing added with
  | nil => simp
  | cons p ps ih =>
    rw [List.foldl_cons, ih]
    cases table : p.table with
    | none => simp [Added.note, table]
    | some t => simp [Added.note, Added.withTable, table]

theorem foldl_conjoin (es : List Expr) (ps : List Predicate) :
    ps.foldl (fun condition p => some (conjoin condition p.condition)) (Expr.conjunction es) =
      Expr.conjunction (es ++ ps.map (·.condition)) := by
  induction ps generalizing es with
  | nil => simp
  | cons p ps ih => rw [List.foldl_cons, Expr.conjoin_conjunction, ih, List.append_assoc, List.map_cons]; rfl

/-- What becomes of the condition is the conjunction with the predicates that are added. -/
theorem restrict_conjunction (existing : Option Expr) (ps : List Predicate) (added : Added) :
    (restrict existing ps added).1 =
      Expr.conjunction (existing.toList ++ (unwritten existing ps).map (·.condition)) := by
  have start : existing = Expr.conjunction existing.toList := by cases existing <;> rfl
  rw [restrict_eq, ← foldl_conjoin existing.toList, ← start]

theorem nodup_foldl_withTable {tables : List String} (nodup : tables.Nodup) (more : List String) :
    (more.foldl Added.withTable tables).Nodup := by
  induction more generalizing tables with
  | nil => exact nodup
  | cons t more ih =>
    refine ih ?_
    rw [Added.withTable]
    split
    · exact nodup
    · next new =>
      rw [← List.concat_eq_append]
      exact nodup.concat (by simpa using new)

/-! ## The text -/

theorem chain_ne_nil (e : Expr) : Outline.chain e ≠ [] := by
  fun_induction Outline.chain e with
  | case1 left right ihl ihr => exact List.append_ne_nil_of_left_ne_nil ihl _
  | case2 e single => exact List.cons_ne_nil _ _

/-- A condition is written as its terms with `AND` between them. -/
theorem render_chain (e : Expr) :
    (Config.DataRule.connective .and).intercalate ((Outline.chain e).map Expr.render) = e.render := by
  fun_induction Outline.chain e with
  | case1 left right ihl ihr =>
    rw [List.map_append, String.intercalate_append_of_ne_nil (by simpa using chain_ne_nil left)
      (by simpa using chain_ne_nil right), ihl, ihr]
    have spaced : Config.DataRule.connective .and = " " ++ BinaryOp.and.render ++ " " := by decide
    rw [Expr.render, spaced]
    simp only [String.append_assoc]
  | case2 e single => exact String.intercalate_singleton

/-- The expression is a term as it is written, if it is allowed so many levels of phrases. -/
def IsTerm (d : Dialect) (levels : Nat) (e : Expr) : Prop :=
  ∃ lead tokens, Term.StandsIn d levels ⟨e.render, e, lead, tokens⟩

/-- The condition is read as it is meant where it stands: its terms with `AND` between them, or alone if `AND` would
take part of it. -/
def ReadAsMeant (d : Dialect) (e : Expr) : Prop :=
  if e.isLoose then ∃ lead tokens, Term.StandsAlone d termDepth ⟨e.render, e, lead, tokens⟩
  else ∀ t ∈ Outline.chain e, IsTerm d (termDepth + 1) t

section

variable {d : Dialect}

/-- Expressions that are terms as they are written make a row. -/
theorem exists_row {levels : Nat} : ∀ {es : List Expr}, (∀ e ∈ es, IsTerm d levels e) →
    ∃ ts : List Term, ts.map (·.expr) = es ∧ ts.map (·.text) = es.map Expr.render ∧ ∀ t ∈ ts, t.StandsIn d levels
  | [], _ => ⟨[], rfl, rfl, nofun⟩
  | e :: es, all => by
    obtain ⟨lead, tokens, first⟩ := all e (.head _)
    obtain ⟨ts, exprs, texts, stand⟩ := exists_row fun e mem => all e (.tail _ mem)
    refine ⟨⟨e.render, e, lead, tokens⟩ :: ts, congrArg (e :: ·) exprs, congrArg (e.render :: ·) texts, ?_⟩
    rintro t (_ | ⟨_, mem⟩)
    · exact first
    · exact stand t mem

/-- A condition whose terms are terms as they are written is read with the same terms. -/
theorem parseExpr_chain {e : Expr} (terms : ∀ t ∈ Outline.chain e, IsTerm d (termDepth + 1) t) :
    ∃ e', parseExpr d e.render = some e' ∧ Outline.chain e' = Outline.chain e := by
  obtain ⟨ts, exprs, texts, stand⟩ := exists_row terms
  cases ts with
  | nil => exact absurd exprs.symm (chain_ne_nil e)
  | cons t ts =>
    have read := (row_standsAlone .and stand).parseExpr (by decide)
    rw [text_row, texts, render_chain] at read
    refine ⟨_, read, ?_⟩
    calc Outline.chain (.joined .and t.expr (ts.map (·.expr)))
        = ((t :: ts).map (·.expr)).flatMap Outline.chain := Outline.chain_foldl _ _
      _ = Outline.chain e := by rw [exprs, Outline.flatMap_chain]

/-- What can stand alone is a term in parentheses. -/
theorem isTerm_nested {e : Expr} {levels : Nat}
    (alone : ∃ lead tokens, Term.StandsAlone d levels ⟨e.render, e, lead, tokens⟩) :
    IsTerm d (levels + 1) (.nested e) := by
  obtain ⟨lead, tokens, stands⟩ := alone
  have text : (Expr.nested e).render = "(" ++ e.render ++ ")" := by rw [Expr.render]
  have inParens := stands.inParens
  rw [Term.inParens, ← text] at inParens
  exact ⟨_, _, inParens⟩

/-- Terms with `OR` between them are read as they are meant. -/
theorem readAsMeant_or {left right : Expr} (hl : IsTerm d 46 left) (hr : IsTerm d 46 right) :
    ReadAsMeant d (.binary .or left right) := by
  obtain ⟨lead, tokens, first⟩ := hl
  obtain ⟨lead', tokens', second⟩ := hr
  have text : (Term.row .or ⟨left.render, left, lead, tokens⟩ [⟨right.render, right, lead', tokens'⟩]).text =
      (Expr.binary .or left right).render := by
    have spaced : Config.DataRule.connective .or = " " ++ BinaryOp.or.render ++ " " := by decide
    rw [text_row, List.map_cons, List.map_singleton, String.intercalate_cons_cons, String.intercalate_singleton,
      Expr.render, spaced]
    simp only [String.append_assoc]
  have alone := row_standsAlone .or (List.forall_mem_cons.mpr ⟨first, List.forall_mem_singleton.mpr second⟩)
  have expr : (Term.row .or ⟨left.render, left, lead, tokens⟩ [⟨right.render, right, lead', tokens'⟩]).expr =
      .binary .or left right := rfl
  generalize Term.row .or ⟨left.render, left, lead, tokens⟩ [⟨right.render, right, lead', tokens'⟩] = t
    at text expr alone
  obtain ⟨_, _, _, _⟩ := t
  obtain rfl := text
  obtain rfl := expr
  exact (if_pos rfl).mpr ⟨_, _, alone⟩

/-- A single term is read as it is meant. -/
theorem IsTerm.readAsMeant {e : Expr} (term : IsTerm d (termDepth + 1) e) (tight : e.isLoose = false)
    (single : Outline.chain e = [e]) : ReadAsMeant d e := by
  rw [ReadAsMeant, tight, single]
  exact List.forall_mem_singleton.mpr term

/-- An operand of a conjunction has terms only. -/
theorem terms_asConjunct {e : Expr} (reads : ReadAsMeant d e) :
    ∀ t ∈ Outline.chain (asConjunct e), IsTerm d (termDepth + 1) t := by
  rw [ReadAsMeant] at reads
  split at reads
  · next loose =>
    rw [Expr.asConjunct_of_loose loose]
    intro t mem
    rw [List.mem_singleton.mp mem]
    exact isTerm_nested reads
  · next tight =>
    rw [Expr.asConjunct_of_tight (Bool.eq_false_of_not_eq_true tight)]
    exact reads

/-- The text of a conjunction is read as the conjunction, up to the grouping of its terms. -/
theorem parseExpr_conjunction {es : List Expr} (reads : ∀ e ∈ es, ReadAsMeant d e) :
    ∀ e ∈ Expr.conjunction es,
      ∃ e', parseExpr d e.render = some e' ∧ Outline.chain e' = Outline.chain e := by
  rcases es with _ | ⟨e, _ | ⟨f, rest⟩⟩
  · exact nofun
  · rintro _ ⟨⟩
    have alone := reads e (.head _)
    rw [ReadAsMeant] at alone
    split at alone
    · obtain ⟨lead, tokens, stands⟩ := alone
      exact ⟨e, stands.parseExpr (by decide), rfl⟩
    · exact parseExpr_chain alone
  · -- The terms of the conjunction are those of its operands, which are in parentheses where they are loose.
    rintro _ ⟨⟩
    refine parseExpr_chain fun t mem => ?_
    have chain : Outline.chain (.joined .and (asConjunct e) ((f :: rest).map asConjunct)) =
        (e :: f :: rest).flatMap fun e => Outline.chain (asConjunct e) := by
      rw [Expr.joined, Outline.chain_foldl, List.flatMap_map]
      rfl
    rw [chain] at mem
    obtain ⟨e', here, mem⟩ := List.mem_flatMap.mp mem
    exact terms_asConjunct (reads e' here) t mem

end

/-! ## The truth -/

section

variable {V : Type} [DecidableEq V] (I : Interpretation V) (W : World V) (env : Env V)

/-- The grouping of a conjunction does not matter for its truth. -/
theorem truthAt_chain (e : Expr) :
    truthAt I W env e = (Outline.chain e).foldr (fun t truth => (truthAt I W env t).and truth) (some true) := by
  fun_induction Outline.chain e with
  | case1 left right ihl ihr =>
    rw [truthAt_and, List.foldr_append, ← ihr, ihl]
    generalize Outline.chain left = ts
    induction ts with
    | nil => exact Truth.true_and _
    | cons t ts ih => rw [List.foldr_cons, List.foldr_cons, ← ih, Truth.and_assoc]
  | case2 e single => exact ((Truth.and_comm _ _).trans (Truth.true_and _)).symm

/-- Where a term of the condition is written like a predicate, or another predicate is, it is as true. -/
def WrittenAlike (existing : Option Expr) (ps : List Predicate) : Prop :=
  (∀ e ∈ existing, ∀ p ∈ ps, SameTruth I W env e p.condition) ∧
    ∀ p ∈ ps, ∀ q ∈ ps, SameTruth I W env p.condition q.condition

end

/-! ## Predicates and their condition -/

/-- Whether a term of the condition is written like the predicate. -/
def WrittenIn (condition : Option Expr) (p : Predicate) : Prop :=
  ∃ e ∈ condition, ∃ t ∈ terms e, t.render = p.condition.render

/-- The condition and what was added before have become the conjunction with the predicates, and what was added
after. -/
structure Conjoined (existing : Option Expr) (ps : List Predicate) (before : Added) (merged : Option Expr)
    (after : Added) : Prop where
  /-- The conjuncts are the condition and the predicates that are not written yet, from left to right. -/
  tree : merged = Expr.conjunction (existing.toList ++ (unwritten existing ps).map (·.condition))
  /-- None of them has `OR` or `XOR` at its top where it stands. -/
  tight : ∀ e ∈ existing.toList ++ (unwritten existing ps).map (·.condition), (asConjunct e).isLoose = false
  /-- If each of them is read as it is meant, so is the text, but for the grouping of terms. -/
  reads : ∀ d, (∀ e ∈ existing.toList ++ (unwritten existing ps).map (·.condition), ReadAsMeant d e) →
    ∀ e ∈ merged, ∃ e', parseExpr d e.render = some e' ∧ Outline.chain e' = Outline.chain e ∧
      ∀ {V : Type} [DecidableEq V] (I : Interpretation V) (W : World V) (env : Env V),
        truthAt I W env e' = truthAt I W env e
  /-- The condition is true, false or neither as the conjunction of all predicates is. -/
  truth : ∀ {V : Type} [DecidableEq V] (I : Interpretation V) (W : World V) (env : Env V),
    WrittenAlike I W env existing ps →
      truthOf I W env merged =
        ps.foldl (fun truth p => truth.and (truthAt I W env p.condition)) (truthOf I W env existing)
  /-- A predicate is left out exactly if a term of the condition so far is written like it. -/
  leftOut : ∀ first p, first ++ [p] <+: ps →
    (unwritten existing (first ++ [p]) = unwritten existing first ↔ WrittenIn (restrict existing first before).1 p)
  /-- Then the condition so far implies it. -/
  implied : ∀ {V : Type} [DecidableEq V] (I : Interpretation V) (W : World V) (env : Env V),
    WrittenAlike I W env existing ps → ∀ first p, first ++ [p] <+: ps →
      WrittenIn (restrict existing first before).1 p →
        (truthOf I W env (restrict existing first before).1).and (truthAt I W env p.condition) =
          truthOf I W env (restrict existing first before).1
  /-- What is added is written down in order. -/
  predicates : after.predicates = before.predicates ++ (unwritten existing ps).map (·.condition.render)
  /-- Its tables are written down. -/
  tables : ∀ t, t ∈ after.tables ↔ t ∈ before.tables ∨ ∃ p ∈ unwritten existing ps, p.table = some t
  /-- Tables are written down once. -/
  once : before.tables.Nodup → after.tables.Nodup

theorem writtenIn_iff (condition : Option Expr) (p : Predicate) :
    condition.any (hasConjunct p.condition.render) = true ↔ WrittenIn condition p := by
  rw [Option.any_eq_true, WrittenIn]
  exact exists_congr fun e => and_congr_right fun _ => hasConjunct_iff _ e

/-- Predicates are added to a condition as a conjunction, whatever they are and whatever it is. -/
theorem restrict_conjoins (existing : Option Expr) (ps : List Predicate) (before : Added) :
    Conjoined existing ps before (restrict existing ps before).1 (restrict existing ps before).2 where
  tree := restrict_conjunction existing ps before
  tight e _ := Expr.isLoose_asConjunct e
  reads d reads e mem := by
    rw [restrict_conjunction] at mem
    obtain ⟨e', read, same⟩ := parseExpr_conjunction reads e mem
    exact ⟨e', read, same, fun I W env => by rw [truthAt_chain, same, ← truthAt_chain]⟩
  truth I W env alike := by
    rw [restrict_fst, truthOf_withTerms existing ?_ ?_, List.foldl_map]
    · intro e mem
      exact List.forall_mem_map.mpr (alike.1 e mem)
    · exact List.forall_mem_map.mpr fun p hp => List.forall_mem_map.mpr (alike.2 p hp)
  leftOut first p _ := by
    rw [unwritten_concat existing first p before, ← writtenIn_iff]
    split <;> simp [*]
  implied I W env alike first p front written := by
    have earlier : ∀ q ∈ first, q ∈ ps := fun q mem => front.subset (List.mem_append_left _ mem)
    have here : p ∈ ps := front.subset (List.mem_append_right _ (.head _))
    refine truthOf_written ?_ ((writtenIn_iff _ p).mpr written)
    rw [restrict_fst]
    exact sameTruth_withTerms existing (fun e mem => alike.1 e mem p here)
      (List.forall_mem_map.mpr fun q mem => alike.2 q (earlier q mem) p here)
  predicates := by rw [restrict_eq, foldl_note]
  tables t := by
    rw [restrict_eq, foldl_note, Added.mem_foldl_withTable, List.mem_filterMap]
  once nodup := by
    rw [restrict_eq, foldl_note]
    exact nodup_foldl_withTable nodup _

namespace TwoStates

/-- Orders in one of two states. -/
def condition : Expr := .binary .or (equalExpr none "state" "open") (equalExpr none "state" "paid")

/-- The orders of a tenant. -/
def tenant : Predicate := ⟨.tenant, some "orders", equalExpr (some "orders") "tenant_id" "T1"⟩

/-- The orders of a department. -/
def department : Predicate := ⟨.dataPermission, some "orders", equalExpr (some "orders") "dept_id" "7"⟩

theorem term_column (qualifier : Option String) {column value : String} {levels : Nat}
    (plain : (qualifier.toList ++ [column]).all isColumnName = true)
    (readable : Dialect.postgres.readable value = true) (some : 0 < levels)
    (text : (equalExpr qualifier column value).render = equalText (qualify qualifier column) value) :
    IsTerm .postgres levels (equalExpr qualifier column value) := by
  have stands := standsIn_equals plain readable some
  rw [← text] at stands
  exact ⟨_, _, stands⟩

theorem read_condition : ReadAsMeant .postgres condition :=
  readAsMeant_or (term_column none (by decide) (by decide) (by decide) (by decide +kernel))
    (term_column none (by decide) (by decide) (by decide) (by decide +kernel))

theorem read_predicates : ∀ p ∈ [tenant, department], ReadAsMeant .postgres p.condition := by
  have term : IsTerm .postgres (termDepth + 1) (equalExpr (some "orders") "tenant_id" "T1") :=
    term_column _ (by decide) (by decide) (by decide) (by decide +kernel)
  have term' : IsTerm .postgres (termDepth + 1) (equalExpr (some "orders") "dept_id" "7") :=
    term_column _ (by decide) (by decide) (by decide) (by decide +kernel)
  exact List.forall_mem_cons.mpr ⟨term.readAsMeant rfl rfl, List.forall_mem_singleton.mpr (term'.readAsMeant rfl rfl)⟩

/-- The tenant is written once it is added. -/
theorem unwritten_predicates : unwritten (some condition) [tenant, department, tenant] = [tenant, department] := by
  have first : (some condition).any (hasConjunct tenant.condition.render) = false := by decide +kernel
  have second : (some (conjoin (some condition) tenant.condition)).any
      (hasConjunct department.condition.render) = false := by decide +kernel
  have third : (some (conjoin (some (conjoin (some condition) tenant.condition)) department.condition)).any
      (hasConjunct tenant.condition.render) = true := by decide +kernel
  simp only [unwritten, first, second, third, Bool.false_eq_true, if_false, if_true]

theorem written_alike (W : World (Option String)) (env : Env (Option String)) :
    WrittenAlike texts W env (some condition) [tenant, department, tenant] := by
  have other {e p : Expr} (unwritten : ∀ t ∈ terms (asConjunct e), t.render ≠ p.render) :
      SameTruth texts W env e p := fun t mem same => absurd same (unwritten t mem)
  have same {p : Expr} (single : terms (asConjunct p) = [p]) : SameTruth texts W env p p := by
    rw [SameTruth, single]
    exact List.forall_mem_singleton.mpr fun _ => rfl
  have one_of (p : Predicate) (mem : p ∈ [tenant, department, tenant]) : p = tenant ∨ p = department := by
    simp only [List.mem_cons, List.not_mem_nil, or_false] at mem
    tauto
  constructor
  · rintro _ ⟨⟩ p mem
    rcases one_of p mem with rfl | rfl
    · exact other (by decide +kernel)
    · exact other (by decide +kernel)
  · intro p mem q mem'
    rcases one_of p mem with rfl | rfl <;> rcases one_of q mem' with rfl | rfl
    · exact same rfl
    · exact other (by decide +kernel)
    · exact other (by decide +kernel)
    · exact same rfl

/-- The condition is put in parentheses, and the tenant is not added again. -/
theorem conjoined :
    ∃ merged after, restrict (some condition) [tenant, department, tenant] .nothing = (some merged, after) ∧
      merged.render =
        "(state = 'open' OR state = 'paid') AND orders.tenant_id = 'T1' AND orders.dept_id = '7'" ∧
      after.predicates = ["orders.tenant_id = 'T1'", "orders.dept_id = '7'"] ∧
      (∃ e, parseExpr .postgres merged.render = some e ∧ Outline.chain e = Outline.chain merged) ∧
      ∀ (W : World (Option String)) (env : Env (Option String)), truthAt texts W env merged =
        (((truthAt texts W env condition).and (truthAt texts W env tenant.condition)).and
          (truthAt texts W env department.condition)).and (truthAt texts W env tenant.condition) := by
  have result := restrict_conjoins (some condition) [tenant, department, tenant] .nothing
  have tree := result.tree
  have predicates := result.predicates
  rw [unwritten_predicates] at tree predicates
  have read := result.reads .postgres (by
    rw [unwritten_predicates]
    exact List.forall_mem_cons.mpr ⟨read_condition, List.forall_mem_map.mpr read_predicates⟩)
  refine ⟨_, (restrict (some condition) [tenant, department, tenant] .nothing).2, Prod.ext tree rfl,
    by decide +kernel, ?_, ?_, fun W env => ?_⟩
  · rw [predicates]
    decide +kernel
  · obtain ⟨e, parsed, same, -⟩ := read _ tree
    exact ⟨e, parsed, same⟩
  · have truth := result.truth texts W env (written_alike W env)
    rw [tree] at truth
    exact truth

end TwoStates

/-- `IS DISTINCT FROM` takes all that follows, `OR` and `AND` too, and is not put in parentheses: the conjunction with
a predicate has two terms, but its text is read as one. -/
example :
    (parseExpr .postgres "orders.a IS DISTINCT FROM 1 OR 1 = 1").map (fun e =>
        let merged := conjoin (some e) (equalExpr (some "orders") "tenant_id" "T1")
        (merged.render, (Outline.chain merged).length)) =
      some ("orders.a IS DISTINCT FROM 1 OR 1 = 1 AND orders.tenant_id = 'T1'", 2) ∧
    (parseExpr .postgres "orders.a IS DISTINCT FROM 1 OR 1 = 1 AND orders.tenant_id = 'T1'").map
        (fun e => (Outline.chain e).length) = some 1 := by
  decide +kernel

end RowAccess
