import RowAccess.Rewrite
/-!
# Runs of the rewriting monad

A step of rewriting reads and extends what was added so far, and may ask the source, which has a state
of its own. `Runs` says what a step answers from given states; `Answers` says only that it can answer
a value. Both take a sequence of steps apart into the runs of its steps.
-/

namespace RowAccess

namespace Rewrite

variable {σ α β : Type} {m : Rewriting σ α} {f : α → Rewriting σ β}

/-! ## From given states -/

/-- What the step answers from the additions `a` and the state `s` of the source. -/
def outcome (m : Rewriting σ α) (a : Added) (s : σ) : Except Error (α × Added) × σ :=
  (m.run a).run.run s

/-- From `a` and `s` the step answers `x` and leaves `a'` and `s'`. -/
def Runs (m : Rewriting σ α) (a : Added) (s : σ) (x : α) (a' : Added) (s' : σ) : Prop :=
  outcome m a s = (.ok (x, a'), s')

theorem outcome_pure (x : α) (a : Added) (s : σ) :
    outcome (pure x : Rewriting σ α) a s = (.ok (x, a), s) := rfl

theorem outcome_bind (m : Rewriting σ α) (f : α → Rewriting σ β) (a : Added) (s : σ) :
    outcome (m >>= f) a s =
      match outcome m a s with
      | (.ok (x, a'), s') => outcome (f x) a' s'
      | (.error e, s') => (.error e, s') := by
  change ((m >>= f).run a).run.run s = _
  simp only [outcome, StateT.run_bind, ExceptT.run_bind]
  rcases ((m.run a).run.run s) with ⟨_ | ⟨x, a'⟩, s'⟩ <;> rfl

theorem outcome_ask (source : Source σ) (scope : Scope) (a : Added) (s : σ) :
    outcome (liftM (source scope) : Rewriting σ (List Predicate)) a s =
      match (source scope).run.run s with
      | (.ok answer, s') => (.ok (answer, a), s')
      | (.error e, s') => (.error e, s') := by
  change (StateT.run (StateT.lift (source scope)) a).run.run s = _
  simp only [StateT.run_lift, ExceptT.run_bind, StateT.run_bind]
  rcases ((source scope).run.run s) with ⟨_ | answer, s'⟩ <;> rfl

theorem runs_pure {x y : α} {a a' : Added} {s s' : σ} :
    Runs (pure x : Rewriting σ α) a s y a' s' ↔ y = x ∧ a' = a ∧ s' = s := by
  simp only [Runs, outcome_pure, Prod.mk.injEq, Except.ok.injEq]
  constructor
  · rintro ⟨⟨rfl, rfl⟩, rfl⟩
    exact ⟨rfl, rfl, rfl⟩
  · rintro ⟨rfl, rfl, rfl⟩
    exact ⟨⟨rfl, rfl⟩, rfl⟩

theorem runs_bind {y : β} {a a'' : Added} {s s'' : σ} :
    Runs (m >>= f) a s y a'' s'' ↔ ∃ x a' s', Runs m a s x a' s' ∧ Runs (f x) a' s' y a'' s'' := by
  simp only [Runs, outcome_bind]
  rcases h : outcome m a s with ⟨_ | ⟨x, a'⟩, s'⟩
  · simp
  · constructor
    · intro run
      exact ⟨x, a', s', rfl, run⟩
    · rintro ⟨_, _, _, heq, run⟩
      cases heq
      exact run

/-! ## From some states -/

/-- From some states the step answers `x`. -/
def Answers (m : Rewriting σ α) (x : α) : Prop :=
  ∃ a s a' s', Runs m a s x a' s'

theorem Runs.answers {a a' : Added} {s s' : σ} {x : α} (h : Runs m a s x a' s') : Answers m x :=
  ⟨a, s, a', s', h⟩

theorem exists_answers {a : Added} {s : σ} (h : (outcome m a s).1.isOk = true) : ∃ x, Answers m x := by
  rcases run : outcome m a s with ⟨_ | ⟨x, a'⟩, s'⟩
  · rw [run] at h
    cases h
  · exact ⟨x, a, s, a', s', run⟩

theorem answers_pure {x y : α} : Answers (pure x : Rewriting σ α) y → y = x := by
  rintro ⟨_, _, _, _, h⟩
  exact (runs_pure.mp h).1

theorem answers_fail {e : Error} {x : α} : ¬ Answers (fail e : Rewriting σ α) x := by
  rintro ⟨_, _, _, _, h⟩
  cases h

theorem answers_bind {y : β} (h : Answers (m >>= f) y) : ∃ x, Answers m x ∧ Answers (f x) y := by
  obtain ⟨a, s, a'', s'', h⟩ := h
  obtain ⟨x, a', s', hm, hf⟩ := runs_bind.mp h
  exact ⟨x, hm.answers, hf.answers⟩

end Rewrite

/-! ## A whole text -/

theorem rewriteWith_malformed {σ : Type} (codec : Sql.Codec) (source : Source σ) {sql : String}
    (malformed : codec.parse sql = none) (s : σ) :
    (rewriteWith codec source sql).run.run s = (.error .malformed, s) := by
  rw [rewriteWith, malformed]
  rfl

/-- What rewriting answers, in terms of the steps of its statements. -/
theorem rewriteWith_run {σ : Type} (codec : Sql.Codec) (source : Source σ) {sql : String}
    {list : List Sql.Statement} (parsed : codec.parse sql = some list) (s : σ) :
    (rewriteWith codec source sql).run.run s =
      match Rewrite.outcome (Rewrite.statements codec source (1 < list.length) list) .nothing s with
      | (.ok (list', added), s') =>
        (.ok ⟨if added.isNothing then sql else codec.render list', added⟩, s')
      | (.error e, s') => (.error e, s') := by
  rw [rewriteWith, parsed]
  simp only [ExceptT.run_bind, StateT.run_bind, Rewrite.outcome]
  rcases (((Rewrite.statements codec source _ list).run .nothing).run.run s) with ⟨_ | ⟨_, _⟩, _⟩ <;> rfl

/-- A check that an answer passes finds the answer. -/
theorem ok_of_any {σ α : Type} {x : Except Error α × σ} {p : α → Bool}
    (h : x.1.toOption.any p = true) : ∃ a s, x = (.ok a, s) ∧ p a = true := by
  rcases x with ⟨_ | a, s⟩
  · cases h
  · exact ⟨a, s, rfl, h⟩

end RowAccess
