import RowAccess.Suppression
/-!
# Suppression counts each concern by itself

Entering and leaving a concern counts up and down, and no count depends on what is done with other
concerns. The flags that concerns share say which counts are positive: at any time, all of the suppression
is a function of the counts (`run_eq`).
-/

namespace RowAccess.Suppression

/-! ## Counts -/

/-- A change of suppression. -/
inductive Call where
  | enable (concern : Concern)
  | disable (concern : Concern)
  | clear
deriving DecidableEq, Repr, Inhabited

/-- The suppression after a call. -/
def apply (s : Suppression) : Call → Suppression
  | .enable c => s.enable c
  | .disable c => s.disable c
  | .clear => s.clear

/-- The suppression after calls, one after the other, when nothing was suppressed before. -/
def run (calls : List Call) : Suppression := calls.foldl apply idle

/-- The count of a concern after a call. -/
def Call.count (c : Concern) (n : Nat) : Call → Nat
  | .enable d => if c = d then n + 1 else n
  | .disable d => if c = d then n - 1 else n
  | .clear => 0

/-- The count of a concern after calls. -/
def counter (calls : List Call) (c : Concern) : Nat := calls.foldl (Call.count c) 0

/-- The suppression in which the concerns with positive counts are suppressed, and have their flags up. -/
def ofCounts (count : Concern → Nat) : Suppression where
  depth := count
  flags := if Concern.all.any fun c => 0 < count c then some ⟨fun c => 0 < count c⟩ else none

variable {count : Concern → Nat}

theorem any_pos : (Concern.all.any fun c => decide (0 < count c)) = true ↔ ∃ c, 0 < count c := by
  simp [Concern.mem_all]

theorem flags_of_pos (h : ∃ c, 0 < count c) :
    (ofCounts count).flags = some ⟨fun c => 0 < count c⟩ := if_pos (any_pos.mpr h)

theorem flags_of_zero (h : ¬ ∃ c, 0 < count c) : (ofCounts count).flags = none :=
  if_neg fun any => h (any_pos.mp any)

/-- Another flag is up exactly if another count is positive. -/
theorem hasOtherThan_pos (count : Concern → Nat) (c : Concern) :
    (Flags.mk fun d => decide (0 < count d)).hasOtherThan c = true ↔ ∃ d, d ≠ c ∧ 0 < count d := by
  simp [Flags.hasOtherThan, Concern.mem_all]

/-! ## One call -/

theorem ofCounts_zero : ofCounts (fun _ => 0) = idle := by
  have none_positive : ¬ ∃ c : Concern, 0 < (fun _ => 0 : Concern → Nat) c := by simp
  exact Suppression.ext rfl (flags_of_zero none_positive)

/-- Entering a concern adds one to its count. -/
theorem enable_ofCounts (count : Concern → Nat) (c : Concern) :
    (ofCounts count).enable c = ofCounts fun d => Call.count d (count d) (.enable c) := by
  have positive : ∃ d, 0 < Call.count d (count d) (.enable c) := ⟨c, by simp [Call.count]⟩
  refine Suppression.ext (funext fun d => ?_) ?_
  · by_cases h : d = c <;> simp [enable, withDepth, ofCounts, Call.count, h]
  · rw [flags_of_pos positive]
    by_cases any : ∃ d, 0 < count d
    · simp only [enable, flags_of_pos any, Option.some.injEq]
      ext d
      by_cases h : d = c <;> simp [Call.count, h]
    · have zero : ∀ d, count d = 0 := by simpa using any
      simp only [enable, flags_of_zero any, Option.some.injEq]
      ext d
      by_cases h : d = c <;> simp [Call.count, h, zero]

/-- Leaving a concern for the last time drops its flag, and the flags if no other count is positive. -/
theorem flags_disable_last {count : Concern → Nat} {c : Concern} (last : count c = 1) :
    ((ofCounts count).disable c).flags =
      (ofCounts fun d => Call.count d (count d) (.disable c)).flags := by
  have entered : ∃ d, 0 < count d := ⟨c, by omega⟩
  have flags : ((ofCounts count).disable c).flags =
      if (Flags.mk fun d => decide (0 < count d)).hasOtherThan c
        then some ((Flags.mk fun d => decide (0 < count d)).set c false) else none := by
    have depth : (ofCounts count).depth c = 1 := last
    simp only [disable, depth, flags_of_pos entered]
  rw [flags]
  split
  case isTrue other =>
    obtain ⟨d, ne, positive⟩ := (hasOtherThan_pos count c).mp other
    rw [flags_of_pos ⟨d, by simpa [Call.count, ne] using positive⟩, Option.some.injEq]
    ext e
    by_cases h : e = c <;> simp [Call.count, h, last]
  case isFalse other =>
    rw [flags_of_zero]
    rintro ⟨d, positive⟩
    by_cases h : d = c
    · simp [Call.count, h, last] at positive
    · exact other ((hasOtherThan_pos count c).mpr ⟨d, h, by simpa [Call.count, h] using positive⟩)

/-- Leaving a concern that stays entered, or was not entered, keeps the flags. -/
theorem flags_disable_kept {count : Concern → Nat} {c : Concern} (kept : count c ≠ 1) :
    ((ofCounts count).disable c).flags =
      (ofCounts fun d => Call.count d (count d) (.disable c)).flags := by
  have same : ∀ d, 0 < Call.count d (count d) (.disable c) ↔ 0 < count d := by
    intro d
    by_cases h : d = c
    · subst h
      simp only [Call.count, if_true]
      omega
    · simp [Call.count, h]
  have flags : ((ofCounts count).disable c).flags = (ofCounts count).flags := by
    have depth : (ofCounts count).depth c ≠ 1 := kept
    rw [disable]
    split
    · rfl
    · contradiction
    · rfl
  rw [flags]
  simp only [ofCounts, same]

/-- Leaving a concern takes one from its depth, if it was entered. -/
theorem depth_disable (s : Suppression) (c d : Concern) :
    (s.disable c).depth d = if d = c then s.depth c - 1 else s.depth d := by
  rw [disable]
  split
  case h_1 outside =>
    by_cases h : d = c <;> simp [h, outside]
  case h_2 last => simp [withDepth, last]
  case h_3 n more => simp [withDepth, more]

/-- Leaving a concern takes one from its count, if it was entered. -/
theorem disable_ofCounts (count : Concern → Nat) (c : Concern) :
    (ofCounts count).disable c = ofCounts fun d => Call.count d (count d) (.disable c) := by
  refine Suppression.ext (funext fun d => ?_) ?_
  · rw [depth_disable]
    by_cases h : d = c <;> simp [ofCounts, Call.count, h]
  · by_cases last : count c = 1
    · exact flags_disable_last last
    · exact flags_disable_kept last

/-- A call changes each count by itself. -/
theorem apply_ofCounts (count : Concern → Nat) (call : Call) :
    (ofCounts count).apply call = ofCounts fun c => call.count c (count c) := by
  cases call with
  | enable c => exact enable_ofCounts count c
  | disable c => exact disable_ofCounts count c
  | clear => exact ofCounts_zero.symm

/-! ## All calls -/

theorem foldl_ofCounts (calls : List Call) (count : Concern → Nat) :
    calls.foldl apply (ofCounts count) = ofCounts fun c => calls.foldl (Call.count c) (count c) := by
  induction calls generalizing count with
  | nil => rfl
  | cons call calls ih => rw [List.foldl_cons, apply_ofCounts, ih]; rfl

/-- After any calls the suppression is that of the counts. -/
theorem run_eq (calls : List Call) : run calls = ofCounts (counter calls) := by
  rw [run, ← ofCounts_zero, foldl_ofCounts]
  rfl

theorem isSuppressed_ofCounts (count : Concern → Nat) (c : Concern) :
    (ofCounts count).isSuppressed c = decide (0 < count c) := by
  rw [isSuppressed]
  by_cases some : ∃ d, 0 < count d
  · rw [flags_of_pos some]
  · rw [flags_of_zero some, eq_comm, decide_eq_false_iff_not]
    exact fun positive => some ⟨c, positive⟩

theorem isIdle_ofCounts (count : Concern → Nat) : (ofCounts count).isIdle = true ↔ ∀ c, count c = 0 := by
  rw [isIdle, Bool.and_eq_true, List.all_eq_true]
  constructor
  · rintro ⟨-, zero⟩ c
    exact beq_iff_eq.mp (zero c (Concern.mem_all c))
  · intro zero
    refine ⟨?_, fun c _ => beq_iff_eq.mpr (zero c)⟩
    rw [flags_of_zero (by simp [zero])]
    rfl

/-- After any calls each concern is as deep as its own count says and suppressed exactly if that is
positive; the flags are there exactly if some count is positive, and are then those of the positive counts;
and nothing is suppressed exactly if all counts are zero. -/
theorem run_counts (calls : List Call) :
    (∀ c, (run calls).depth c = counter calls c) ∧
      (∀ c, (run calls).isSuppressed c = true ↔ 0 < counter calls c) ∧
      ((run calls).flags.isSome = true ↔ ∃ c, 0 < counter calls c) ∧
      (∀ f ∈ (run calls).flags, ∀ c, f.isSet c = true ↔ 0 < counter calls c) ∧
      ((run calls).isIdle = true ↔ ∀ c, counter calls c = 0) := by
  rw [run_eq]
  refine ⟨fun _ => rfl, fun c => ?_, ?_, ?_, isIdle_ofCounts _⟩
  · rw [isSuppressed_ofCounts, decide_eq_true_eq]
  · by_cases some : ∃ c, 0 < counter calls c
    · simp [flags_of_pos some, some]
    · simp [flags_of_zero some, some]
  · intro f mem c
    by_cases some : ∃ c, 0 < counter calls c
    · rw [flags_of_pos some] at mem
      cases mem
      exact decide_eq_true_iff
    · rw [flags_of_zero some] at mem
      cases mem

end RowAccess.Suppression
