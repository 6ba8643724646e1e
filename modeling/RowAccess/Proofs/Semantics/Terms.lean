import RowAccess.Proofs.Semantics.Evaluation
import RowAccess.Conjunction
/-!
# Conditions with predicates added

A predicate is added to a condition unless a term of the condition is written like it. Literals that
differ may be written alike, so such a term need not be the predicate. Where it is as true as the predicate
(`SameTruth`), the condition with predicates added has the truth value of the conjunction of all of them; where it
always is the predicate (`Genuine`), it is true exactly if the condition and all the predicates are.
-/

namespace RowAccess.Semantics

open Sql

/-! ## Terms -/

/-- The terms of a condition, as they are compared with predicates. Parentheses may be left out. -/
def terms : Expr → List Expr
  | .binary .and left right => terms left ++ terms right
  | .nested inner => .nested inner :: inner :: if isConjunction inner then terms inner else []
  | e => [e]

theorem hasConjunct_iff (text : String) (e : Expr) :
    hasConjunct text e = true ↔ ∃ t ∈ terms e, t.render = text := by
  fun_induction terms e with
  | case1 left right ihl ihr =>
    simp only [hasConjunct, Bool.or_eq_true, ihl, ihr, List.mem_append, or_and_right, exists_or]
  | case2 inner ih =>
    rw [hasConjunct]
    by_cases conj : isConjunction inner = true
    · simp [conj, ih, or_assoc]
    · simp [conj]
  | case3 e notAnd notNested =>
    rw [hasConjunct.eq_3 text e notAnd notNested]
    simp

/-- Each term of the condition that is written like the predicate is the predicate. -/
def Genuine (condition predicate : Expr) : Prop :=
  ∀ t ∈ terms (asConjunct condition), t.render = predicate.render → t = predicate

theorem terms_subset (e : Expr) : ∀ t ∈ terms e, t ∈ terms (asConjunct e) := by
  intro t mem
  unfold asConjunct
  split
  · exact .tail _ (List.mem_cons.mpr (.inl (List.mem_singleton.mp mem)))
  · exact .tail _ (List.mem_cons.mpr (.inl (List.mem_singleton.mp mem)))
  · exact mem

/-! ## Adding predicates -/

/-- The condition with predicates added, each unless it is written in it. -/
def withTerms (condition : Option Expr) : List Expr → Option Expr
  | [] => condition
  | p :: ps =>
    if condition.any (hasConjunct p.render) then withTerms condition ps
    else withTerms (some (conjoin condition p)) ps

theorem restrict_fst (condition : Option Expr) (predicates : List Predicate) (added : Added) :
    (restrict condition predicates added).1 = withTerms condition (predicates.map (·.condition)) := by
  induction predicates generalizing condition added with
  | nil => rfl
  | cons p ps ih =>
    rw [restrict, List.map_cons, withTerms]
    split
    · exact ih _ _
    · exact ih _ _

/-! ## Truth -/

namespace Truth

theorem and_assoc (a b c : Truth) : (a.and b).and c = a.and (b.and c) := by
  rcases a with _ | _ | _ <;> rcases b with _ | _ | _ <;> rcases c with _ | _ | _ <;> rfl

theorem and_comm (a b : Truth) : a.and b = b.and a := by
  rcases a with _ | _ | _ <;> rcases b with _ | _ | _ <;> rfl

theorem and_self (a : Truth) : a.and a = a := by rcases a with _ | _ | _ <;> rfl

theorem true_and (a : Truth) : and (some true) a = a := by rcases a with _ | _ | _ <;> rfl

end Truth

section

variable {V : Type} [DecidableEq V] (I : Interpretation V) (W : World V) (env : Env V)

/-- Whether an expression is true or false, or neither. -/
def truthAt (e : Expr) : Truth := I.truth ((expr I W e).value env)

/-- Whether a condition is true or false, or neither. Where there is none, it is true. -/
def truthOf (condition : Option Expr) : Truth := condition.elim (some true) (truthAt I W env)

theorem truthAt_and (left right : Expr) :
    truthAt I W env (.binary .and left right) = (truthAt I W env left).and (truthAt I W env right) :=
  I.truth_ofTruth _

theorem truthAt_nested (e : Expr) : truthAt I W env (.nested e) = truthAt I W env e := rfl

theorem truthAt_asConjunct (e : Expr) : truthAt I W env (asConjunct e) = truthAt I W env e := by
  unfold asConjunct
  split <;> rfl

theorem truthAt_conjoin (condition : Option Expr) (p : Expr) :
    truthAt I W env (conjoin condition p) = (truthOf I W env condition).and (truthAt I W env p) := by
  cases condition with
  | none => exact (Truth.true_and _).symm
  | some e =>
    rw [conjoin, truthAt_and, truthAt_asConjunct, truthAt_asConjunct]
    rfl

/-- A condition implies its terms: none of them adds anything to it. -/
theorem truthAt_and_term (e : Expr) :
    ∀ t ∈ terms e, (truthAt I W env e).and (truthAt I W env t) = truthAt I W env e := by
  fun_induction terms e with
  | case1 left right ihl ihr =>
    intro t mem
    rw [truthAt_and]
    rcases List.mem_append.mp mem with mem | mem
    · rw [Truth.and_assoc, Truth.and_comm (truthAt I W env right), ← Truth.and_assoc, ihl t mem]
    · rw [Truth.and_assoc, ihr t mem]
  | case2 inner ih =>
    rw [truthAt_nested]
    intro t mem
    rcases List.mem_cons.mp mem with rfl | mem
    · exact Truth.and_self _
    rcases List.mem_cons.mp mem with rfl | mem
    · exact Truth.and_self _
    by_cases conj : isConjunction inner = true
    · rw [if_pos conj] at mem
      exact ih t mem
    · rw [if_neg conj] at mem
      exact absurd mem List.not_mem_nil
  | case3 e notAnd notNested =>
    intro t mem
    rw [List.mem_singleton.mp mem]
    exact Truth.and_self _

/-- Each term of the condition that is written like the predicate is as true as the predicate. -/
def SameTruth (condition predicate : Expr) : Prop :=
  ∀ t ∈ terms (asConjunct condition), t.render = predicate.render →
    truthAt I W env t = truthAt I W env predicate

variable {I W env}

theorem Genuine.sameTruth {condition predicate : Expr} (genuine : Genuine condition predicate) :
    SameTruth I W env condition predicate := fun t mem same => by rw [genuine t mem same]

theorem sameTruth_conjoin {condition : Option Expr} {p q : Expr} (hc : ∀ e ∈ condition, SameTruth I W env e q)
    (hp : SameTruth I W env p q) : SameTruth I W env (conjoin condition p) q := by
  cases condition with
  | none => exact hp
  | some e =>
    intro t mem
    rcases List.mem_append.mp (show t ∈ terms (asConjunct e) ++ terms (asConjunct p) from mem) with mem | mem
    · exact hc e rfl t mem
    · exact hp t mem

theorem sameTruth_withTerms {q : Expr} {ps : List Expr} (condition : Option Expr)
    (hc : ∀ e ∈ condition, SameTruth I W env e q) (hp : ∀ p ∈ ps, SameTruth I W env p q) :
    ∀ e ∈ withTerms condition ps, SameTruth I W env e q := by
  induction ps generalizing condition with
  | nil => exact hc
  | cons p ps ih =>
    rw [withTerms]
    split
    · exact ih condition hc fun p mem => hp p (.tail _ mem)
    · refine ih _ ?_ fun p mem => hp p (.tail _ mem)
      rintro _ ⟨⟩
      exact sameTruth_conjoin hc (hp p (.head _))

/-- A predicate that is written in a condition adds nothing to it. -/
theorem truthOf_written {condition : Option Expr} {p : Expr} (alike : ∀ e ∈ condition, SameTruth I W env e p)
    (written : condition.any (hasConjunct p.render) = true) :
    (truthOf I W env condition).and (truthAt I W env p) = truthOf I W env condition := by
  obtain ⟨e, mem, found⟩ := Option.any_eq_true _ _ |>.mp written
  obtain rfl := Option.mem_def.mp mem
  obtain ⟨t, member, same⟩ := (hasConjunct_iff _ _).mp found
  rw [← alike e rfl t (terms_subset e t member) same]
  exact truthAt_and_term I W env e t member

/-- A condition with predicates added is the conjunction of all of them. -/
theorem truthOf_withTerms (condition : Option Expr) {ps : List Expr}
    (alike : ∀ e ∈ condition, ∀ p ∈ ps, SameTruth I W env e p) (among : ∀ p ∈ ps, ∀ q ∈ ps, SameTruth I W env p q) :
    truthOf I W env (withTerms condition ps) =
      ps.foldl (fun truth p => truth.and (truthAt I W env p)) (truthOf I W env condition) := by
  induction ps generalizing condition with
  | nil => rfl
  | cons p ps ih =>
    have among' : ∀ p ∈ ps, ∀ q ∈ ps, SameTruth I W env p q := fun p hp q hq => among p (.tail _ hp) q (.tail _ hq)
    rw [withTerms, List.foldl_cons]
    split
    · next written =>
      rw [truthOf_written (fun e mem => alike e mem p (.head _)) written]
      exact ih _ (fun e mem q hq => alike e mem q (.tail _ hq)) among'
    · rw [← truthAt_conjoin]
      refine ih (some (conjoin condition p)) ?_ among'
      rintro _ ⟨⟩ q hq
      exact sameTruth_conjoin (fun e mem => alike e mem q (.tail _ hq)) (among p (.head _) q (.tail _ hq))

end

section

variable {V : Type} [DecidableEq V] (I : Interpretation V) (W : World V) (env : Env V)

/-- Whether an expression is true. -/
def isTrueAt (e : Expr) : Bool := I.isTrue ((expr I W e).value env)

theorem isTrueAt_iff (e : Expr) : isTrueAt I W env e = true ↔ truthAt I W env e = some true := beq_iff_eq

theorem isTrueAt_and (left right : Expr) :
    isTrueAt I W env (.binary .and left right) =
      (isTrueAt I W env left && isTrueAt I W env right) := by
  rw [Bool.eq_iff_iff, Bool.and_eq_true, isTrueAt_iff, isTrueAt_iff, isTrueAt_iff, truthAt_and, Truth.and_eq_true]

/-- Predicates added to a condition restrict it to where all of them are true. -/
theorem all_withTerms (condition : Option Expr) {ps : List Expr}
    (genuine : ∀ e ∈ condition, ∀ p ∈ ps, Genuine e p) (among : ∀ p ∈ ps, ∀ q ∈ ps, Genuine p q) :
    (withTerms condition ps).all (isTrueAt I W env) =
      (condition.all (isTrueAt I W env) && ps.all (isTrueAt I W env)) := by
  have all_iff (condition : Option Expr) :
      condition.all (isTrueAt I W env) = true ↔ truthOf I W env condition = some true := by
    cases condition with
    | none => exact ⟨fun _ => rfl, fun _ => rfl⟩
    | some e => exact isTrueAt_iff I W env e
  have fold_iff (truth : Truth) : ps.foldl (fun truth p => truth.and (truthAt I W env p)) truth = some true ↔
      truth = some true ∧ ps.all (isTrueAt I W env) = true := by
    clear genuine among
    induction ps generalizing truth with
    | nil => simp
    | cons p ps ih =>
      rw [List.foldl_cons, ih, Truth.and_eq_true, List.all_cons, Bool.and_eq_true, isTrueAt_iff, and_assoc]
  rw [Bool.eq_iff_iff, Bool.and_eq_true, all_iff, all_iff,
    truthOf_withTerms condition (fun e mem p hp => (genuine e mem p hp).sameTruth)
      (fun p hp q hq => (among p hp q hq).sameTruth),
    fold_iff]

end

end RowAccess.Semantics
