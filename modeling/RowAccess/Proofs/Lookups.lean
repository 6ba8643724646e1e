import RowAccess.Enforcer.Basic
/-!
# Lookups that are remembered

The lookups of rules are shared by all callers, and each caller adds to them. Nobody can tell: what is
remembered is what a search finds (`Lookups.Sound`), so a lookup answers the same whatever was looked up
before it (`Enforcer.declared_answer`).
-/

namespace RowAccess

namespace Lookups

/-- What is remembered of each lookup is what a search finds. -/
def Sound (d : Declarations) (l : Lookups) : Prop :=
  ∀ id found, l.known.lookup id = some found → found = Declarations.find? d id

variable {d : Declarations} {l : Lookups}

theorem sound_none (d : Declarations) : Sound d none := by
  intro id found known
  cases known

theorem find_run (id : String) (l : Lookups) :
    (find d id).run l = (match l.known.lookup id with
      | some found => (found, l)
      | .none => (Declarations.find? d id, ⟨(id, Declarations.find? d id) :: l.known⟩)) := rfl

/-- A lookup answers what a search finds, and so does every later one. -/
theorem find_sound (sound : l.Sound d) (id : String) :
    ((find d id).run l).1 = Declarations.find? d id ∧ ((find d id).run l).2.Sound d := by
  rw [find_run]
  cases known : l.known.lookup id with
  | some found => exact ⟨sound id found known, sound⟩
  | none =>
    refine ⟨rfl, ?_⟩
    intro other found remembered
    rw [List.lookup_cons] at remembered
    by_cases same : other = id
    · subst same
      simp only [beq_self_eq_true, Option.some.injEq] at remembered
      exact remembered.symm
    · rw [beq_false_of_ne same] at remembered
      exact sound other found remembered

/-- A lookup changes the answer to no later one. -/
theorem find_find (id other : String) :
    ((find d other).run ((find d id).run l).2).1 = ((find d other).run l).1 := by
  rw [find_run id l]
  cases known : l.known.lookup id with
  | some found => rfl
  | none =>
    rw [find_run, find_run, List.lookup_cons]
    by_cases same : other = id
    · subst same
      rw [beq_self_eq_true, known]
    · rw [beq_false_of_ne same]
      cases l.known.lookup other <;> rfl

end Lookups

namespace Enforcer

variable {σ : Type} (e : Enforcer σ)

theorem declared_answer {l : Lookups} (sound : l.Sound e.config.operations) (operation : String) :
    ((e.declared operation).run l).1 = Declarations.find? e.config.operations operation ∧
      ((e.declared operation).run l).2.Sound e.config.operations := Lookups.find_sound sound operation

end Enforcer

end RowAccess
