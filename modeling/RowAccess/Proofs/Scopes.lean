import RowAccess.Proofs.Moves
import Mathlib.Data.List.Infix
/-!
# Scopes are undone however they are left

Steps within the scope of a tenant or of a suppression may do anything, also to the context that the scope
was entered with, and may be left by a failure or a panic. The local tenant is put back nevertheless, and
one entering of the suppressed concern is taken back (`scopes_restore`).

For steps on a single context the suppression at the end follows from the calls alone (`runSteps_follows`).
Where the calls outside of inner scopes balance, those of the scopes do not disturb them: they count on top
(`callsIn_count`).
-/

namespace RowAccess

open Suppression

namespace Script

variable {e : Enforcer Memory} {k : CacheKeys} {w w' w'' : World} {name : String} {place : Nat}
  {ctx : Context} {enabled : Bool}

/-- The local tenant after the scope of a tenant is the one before. -/
theorem withTenant_restores (found : w.context? name = some (place, ctx)) (tenant : String)
    (steps : List Step) (exit : Exit) :
    ∃ after, (runStep e k (.on name (.withTenant tenant steps exit)) w).2.contexts[place]? = some after ∧
      after.localTenant = ctx.localTenant := by
  rw [runStep_on found, runAct_withTenant]
  obtain ⟨inside, here, same⟩ := moves_stay (runSteps_moves e k steps _)
    (getElem?_changed (getElem?_context found) (e.tenants.enter tenant))
  refine ⟨_, getElem?_changed here _, ?_⟩
  rw [Tenants.leave]
  split
  case isTrue => rfl
  case isFalse disabled =>
    rw [same (by simpa using disabled), Tenants.enter, if_neg disabled]

/-! ## The calls of steps -/

mutual

/-- The calls of suppression in a step, in their order; those of scopes only if asked. -/
def Step.calls (scopes : Bool) : Step → List Call
  | .on _ act => act.calls scopes
  | _ => []

/-- The calls of suppression in an act. -/
def Act.calls (scopes : Bool) : Act → List Call
  | .enable c => [.enable c]
  | .disable c => [.disable c]
  | .clearSuppression => [.clear]
  | .withTenant _ steps _ => callsIn scopes steps
  | .suppressed c steps _ =>
    if scopes then .enable c :: callsIn scopes steps ++ [.disable c] else callsIn scopes steps
  | _ => []

/-- The calls of suppression in steps. -/
def callsIn (scopes : Bool) : List Step → List Call
  | [] => []
  | s :: rest => s.calls scopes ++ callsIn scopes rest

end

mutual

/-- Whether a step acts on no other context than the one with a name, and leaves it the name. -/
def Step.isOn (name : String) : Step → Bool
  | .context other _ => other != name
  | .on other act => other == name && act.isOn name
  | _ => true

/-- The same for the steps within an act. -/
def Act.isOn (name : String) : Act → Bool
  | .fork other => other != name
  | .withTenant _ steps _ | .suppressed _ steps _ => areOn name steps
  | _ => true

/-- The same for steps. -/
def areOn (name : String) : List Step → Bool
  | [] => true
  | s :: rest => s.isOn name && areOn name rest

end

/-- The context with a name stays, and its suppression is changed by calls. -/
def Follows (name : String) (place : Nat) (calls : List Call) (w w' : World) : Prop :=
  ∀ ctx, w.context? name = some (place, ctx) →
    ∃ after, w'.context? name = some (place, after) ∧
      after.suppression = calls.foldl apply ctx.suppression

theorem Follows.refl (w : World) : Follows name place [] w w := fun ctx found => ⟨ctx, found, rfl⟩

theorem Follows.trans {calls more : List Call} (h : Follows name place calls w w')
    (h' : Follows name place more w' w'') : Follows name place (calls ++ more) w w'' := by
  intro ctx found
  obtain ⟨between, found, suppression⟩ := h ctx found
  obtain ⟨after, found, suppression'⟩ := h' between found
  exact ⟨after, found, by rw [suppression', suppression, List.foldl_append]⟩

theorem follows_rest (untouched : Untouched w w') : Follows name place [] w w' := fun ctx found =>
  ⟨ctx, by rwa [World.context?, untouched.1, untouched.2], rfl⟩

theorem follows_add {other : String} (ne : other ≠ name) (added : Context) (w : World) :
    Follows name place [] w (w.addContext other added) := by
  intro ctx found
  obtain ⟨named, here⟩ := context?_eq_some.mp found
  have inside : place < w.contexts.length := (List.getElem?_eq_some_iff.mp here).1
  refine ⟨ctx, context?_eq_some.mpr ⟨?_, (List.getElem?_append_left inside).trans here⟩, rfl⟩
  rw [World.addContext, List.lookup_cons, beq_false_of_ne ne.symm]
  exact named

theorem follows_change {calls : List Call} {f : Context → Context}
    (changes : ∀ ctx, w.contexts[place]? = some ctx →
      (f ctx).suppression = calls.foldl apply ctx.suppression) :
    Follows name place calls w (w.changeContext place f) := by
  intro ctx found
  obtain ⟨named, here⟩ := context?_eq_some.mp found
  exact ⟨f ctx, context?_eq_some.mpr ⟨named, getElem?_changed here f⟩, changes ctx here⟩

theorem follows_call (c : Call) (w : World) :
    Follows name place [c] w (w.changeContext place (·.call c)) := follows_change fun _ _ => rfl

theorem follows_switch {f : Context → Context} (switched : ∀ ctx, Switched enabled ctx (f ctx))
    (w : World) : Follows name place [] w (w.changeContext place f) :=
  follows_change fun ctx _ => (switched ctx).suppression

theorem changing_follows {a : InContext Memory Unit}
    (switched : ∀ store, Switched enabled ctx (a (ctx, store)).2.1)
    (found : w.context? name = some (place, ctx)) :
    Follows name place [] w (changing place ctx a w).2 := by
  have changed : Follows name place [] w
      (w.changeContext place fun _ => (a (ctx, w.shared.store)).2.1) := by
    refine follows_change fun ctx' here => ?_
    rw [getElem?_context found, Option.some.injEq] at here
    exact here ▸ (switched w.shared.store).suppression
  exact changed.trans (follows_rest (changing_untouched place ctx a w))

mutual

/-- A step on a context changes its suppression by its calls. -/
theorem runStep_follows (e : Enforcer Memory) (k : CacheKeys) {name : String} {place : Nat} :
    ∀ (s : Step) {w : World}, s.isOn name = true →
      Follows name place (s.calls true) w (runStep e k s w).2
  | .context other session, w, on => by
    rw [runStep]
    exact follows_add (by simpa [Step.isOn] using on) _ w
  | .statement _ _, w, _ | .declared _, w, _ | .storeGet _, w, _ | .storeSet _ _, w, _
  | .unreadable _, w, _ => by
    rw [runStep]
    exact follows_rest ⟨rfl, rfl⟩
  | .on other act, w, on => by
    rw [Step.isOn, Bool.and_eq_true, beq_iff_eq] at on
    obtain ⟨rfl, on⟩ := on
    intro ctx found
    rw [runStep_on found]
    exact runAct_follows e k act on found ctx found

theorem runAct_follows (e : Enforcer Memory) (k : CacheKeys) {name : String} {place : Nat} :
    ∀ (act : Act) {w : World} {ctx : Context}, act.isOn name = true →
      w.context? name = some (place, ctx) →
        Follows name place (act.calls true) w (runAct e k place ctx act w).2
  | .fork other, w, ctx, on, _ => by
    rw [runAct]
    exact follows_add (by simpa [Act.isOn] using on) _ w
  | .enable c, w, _, _, _ => by
    rw [runAct]
    exact follows_call (.enable c) w
  | .disable c, w, _, _, _ => by
    rw [runAct]
    exact follows_call (.disable c) w
  | .clearSuppression, w, _, _, _ => by
    rw [runAct]
    exact follows_call .clear w
  | .setDynamic tenant forUser, w, ctx, _, found => by
    rw [runAct]
    exact changing_follows (setDynamic_switched e.tenants tenant forUser ctx) found
  | .clearDynamic, w, ctx, _, found => by
    rw [runAct]
    exact changing_follows (clearDynamic_switched e.tenants ctx) found
  | .withTenant tenant steps exit, w, ctx, on, _ => by
    rw [runAct_withTenant, Act.calls, ← List.append_nil (callsIn true steps)]
    exact ((follows_switch (enter_switched e.tenants tenant) w).trans (runSteps_follows e k steps on)).trans
      (follows_switch (leave_switched e.tenants ctx.localTenant) _)
  | .suppressed c steps exit, w, _, on, _ => by
    rw [runAct_suppressed]
    exact ((follows_call (.enable c) w).trans (runSteps_follows e k steps on)).trans
      (follows_call (.disable c) _)
  | .plan target, w, _, _, _ => by
    rw [runAct]
    exact follows_rest (planning_untouched _ target w)
  | .query target, w, _, _, _ | .prepare target, w, _, _, _ => by
    rw [runAct]
    exact follows_rest (hook_untouched _ target w)
  | .session, w, _, _, _ | .suppression, w, _, _, _ | .depth _, w, _, _, _ | .dynamic, w, _, _, _
  | .effective, w, _, _, _ | .resolve _, w, _, _, _ | .predicates _ _, w, _, _, _
  | .map _, w, _, _, _ | .unmap _, w, _, _, _ | .unreadable _, w, _, _, _ => by
    rw [runAct]
    exact follows_rest ⟨rfl, rfl⟩

theorem runSteps_follows (e : Enforcer Memory) (k : CacheKeys) {name : String} {place : Nat} :
    ∀ (steps : List Step) {w : World}, areOn name steps = true →
      Follows name place (callsIn true steps) w (runSteps e k steps w).2
  | [], w, _ => by
    rw [runSteps]
    exact .refl w
  | s :: rest, w, on => by
    rw [areOn, Bool.and_eq_true] at on
    rw [runSteps_cons]
    exact (runStep_follows e k s on.1).trans (runSteps_follows e k rest on.2)

end

/-! ## Calls that balance -/

/-- On top of given depths, no call leaves a concern that is not entered, and none is a clear. -/
def Matched (c : Concern) (n : Nat) (calls : List Call) : Prop :=
  .clear ∉ calls ∧ ∀ before, before <+: calls → before.count (.disable c) ≤ n + before.count (.enable c)

/-- Calls that balance on top of given depths: nothing is cleared, no call leaves a concern that is not
entered, and each concern is left as often as it is entered. -/
structure Balanced (depth : Concern → Nat) (calls : List Call) : Prop where
  matched : ∀ c, Matched c (depth c) calls
  even : ∀ c, calls.count (.disable c) = calls.count (.enable c)

variable {c : Concern} {n : Nat}

instance {calls : List Call} : Decidable (Matched c n calls) :=
  decidable_of_iff (.clear ∉ calls ∧
      ∀ before ∈ calls.inits, before.count (.disable c) ≤ n + before.count (.enable c)) <| by
    simp only [Matched, List.mem_inits]

instance {depth : Concern → Nat} {calls : List Call} : Decidable (Balanced depth calls) :=
  decidable_of_iff (∀ c ∈ Concern.all,
      Matched c (depth c) calls ∧ calls.count (.disable c) = calls.count (.enable c))
    ⟨fun h => ⟨fun c => (h c (Concern.mem_all c)).1, fun c => (h c (Concern.mem_all c)).2⟩,
      fun h c _ => ⟨h.matched c, h.even c⟩⟩

theorem Matched.cons {call : Call} {rest : List Call} (matched : Matched c n (call :: rest)) :
    call.count c n + [call].count (.disable c) = n + [call].count (.enable c) ∧
      Matched c (call.count c n) rest := by
  obtain ⟨uncleared, entered⟩ := matched
  have step : call.count c n + [call].count (.disable c) = n + [call].count (.enable c) := by
    have first := entered [call] ⟨rest, rfl⟩
    cases call with
    | clear => simp at uncleared
    | enable d =>
      rcases eq_or_ne c d with rfl | h
      · simp [Call.count]
      · simp [Call.count, h, h.symm]
    | disable d =>
      rcases eq_or_ne c d with rfl | h
      · simp only [Call.count, if_true, List.count_singleton_self] at first ⊢
        simp only [List.count_singleton, beq_iff_eq, reduceCtorEq, if_false] at first ⊢
        omega
      · simp [Call.count, h, h.symm]
  refine ⟨step, fun clear => uncleared (.tail _ clear), fun before front => ?_⟩
  have longer := entered (call :: before) (List.cons_prefix_cons.mpr ⟨rfl, front⟩)
  rw [← List.singleton_append, List.count_append, List.count_append] at longer
  omega

/-- Matched calls leave a concern as deep as they enter it more often than they leave it. -/
theorem Matched.foldl {calls : List Call} (matched : Matched c n calls) :
    calls.foldl (Call.count c) n + calls.count (.disable c) = n + calls.count (.enable c) := by
  induction calls generalizing n with
  | nil => rfl
  | cons call rest ih =>
    obtain ⟨step, matched⟩ := matched.cons
    have others := ih matched
    rw [List.foldl_cons, ← List.singleton_append, List.count_append, List.count_append]
    omega

theorem Matched.append {calls more : List Call} (matched : Matched c n (calls ++ more)) :
    Matched c n calls ∧ Matched c (calls.foldl (Call.count c) n) more := by
  have first : Matched c n calls :=
    ⟨fun clear => matched.1 (List.mem_append_left _ clear), fun before front =>
      matched.2 before (front.trans (List.prefix_append _ _))⟩
  refine ⟨first, fun clear => matched.1 (List.mem_append_right _ clear), fun before front => ?_⟩
  have longer := matched.2 (calls ++ before) ((List.prefix_append_right_inj calls).mpr front)
  have depth := first.foldl
  rw [List.count_append, List.count_append] at longer
  omega

mutual

/-- Where the calls outside of scopes are matched, those of scopes count on top and are undone. -/
theorem Step.count_calls (c : Concern) : ∀ (s : Step) (n m : Nat), Matched c n (s.calls false) →
    (s.calls true).foldl (Call.count c) (n + m) = (s.calls false).foldl (Call.count c) n + m
  | .on _ act, n, m, matched => by
    simp only [Step.calls] at matched ⊢
    exact act.count_calls c n m matched
  | .context _ _, _, _, _ | .statement _ _, _, _, _ | .declared _, _, _, _ | .storeGet _, _, _, _
  | .storeSet _ _, _, _, _ | .unreadable _, _, _, _ => rfl

theorem Act.count_calls (c : Concern) : ∀ (act : Act) (n m : Nat), Matched c n (act.calls false) →
    (act.calls true).foldl (Call.count c) (n + m) = (act.calls false).foldl (Call.count c) n + m
  | .enable d, n, m, _ => by
    simp only [Act.calls, List.foldl_cons, List.foldl_nil, Call.count]
    split <;> omega
  | .disable d, n, m, matched => by
    have entered := matched.2 [.disable d] (List.prefix_refl _)
    simp only [Act.calls, List.foldl_cons, List.foldl_nil, Call.count]
    split
    case isTrue same =>
      simp only [same, List.count_singleton_self, List.count_singleton, beq_iff_eq, reduceCtorEq,
        if_false] at entered
      omega
    case isFalse => rfl
  | .clearSuppression, n, m, matched => absurd (.head _) matched.1
  | .withTenant tenant steps exit, n, m, matched => by
    simp only [Act.calls] at matched ⊢
    exact callsIn_count c steps n m matched
  | .suppressed d steps exit, n, m, matched => by
    have inside (m : Nat) := callsIn_count c steps n m matched
    simp only [Act.calls, if_true, List.cons_append, List.foldl_cons, List.foldl_append, List.foldl_nil]
    rcases eq_or_ne c d with rfl | h
    · simp only [Call.count, if_true]
      rw [Nat.add_assoc, inside]
      rfl
    · simp only [Call.count, if_neg h]
      exact inside m
  | .plan _, _, _, _
  | .query _, _, _, _ | .prepare _, _, _, _
  | .session, _, _, _ | .suppression, _, _, _ | .depth _, _, _, _ | .dynamic, _, _, _
  | .effective, _, _, _ | .resolve _, _, _, _ | .predicates _ _, _, _, _
  | .map _, _, _, _ | .unmap _, _, _, _ | .unreadable _, _, _, _
  | .setDynamic _ _, _, _, _ | .clearDynamic, _, _, _ | .fork _, _, _, _ => rfl

theorem callsIn_count (c : Concern) : ∀ (steps : List Step) (n m : Nat),
    Matched c n (callsIn false steps) →
      (callsIn true steps).foldl (Call.count c) (n + m) =
        (callsIn false steps).foldl (Call.count c) n + m
  | [], _, _, _ => rfl
  | s :: rest, n, m, matched => by
    rw [callsIn] at matched
    obtain ⟨first, others⟩ := matched.append
    rw [callsIn, callsIn, List.foldl_append, List.foldl_append, s.count_calls c n m first,
      callsIn_count c rest _ m others]

end

theorem depth_enable (s : Suppression) (c d : Concern) :
    (s.enable c).depth d = Call.count d (s.depth d) (.enable c) := by
  rw [Call.count]
  split
  case isTrue same => simp [enable, withDepth, same]
  case isFalse other => simp [enable, withDepth, other]

/-- A suppression that is entered before balanced calls is as before after it is left. -/
theorem Balanced.foldl_scope {s : Suppression} {c : Concern} {steps : List Step}
    (balanced : Balanced (s.enable c).depth (callsIn false steps)) (d : Concern) :
    (Call.enable c :: callsIn true steps ++ [Call.disable c]).foldl (Call.count d) (s.depth d) =
      s.depth d := by
  have matched := balanced.matched d
  have rest : (callsIn false steps).foldl (Call.count d) ((s.enable c).depth d) =
      (s.enable c).depth d := by
    have depths := matched.foldl
    rw [balanced.even d] at depths
    omega
  have inside := callsIn_count d steps _ 0 matched
  rw [Nat.add_zero, Nat.add_zero, rest] at inside
  rw [List.cons_append, List.foldl_cons, ← depth_enable, List.foldl_append, inside, depth_enable]
  simp only [List.foldl_cons, List.foldl_nil, Call.count]
  split <;> simp_all

/-- Suppression after the scope of a suppression whose calls balance is the one before. -/
theorem suppressed_restores (counted : w.Counted) (found : w.context? name = some (place, ctx))
    {steps : List Step} (on : areOn name steps = true) {c : Concern}
    (balanced : Balanced (ctx.enable c).suppression.depth (callsIn false steps)) (exit : Exit) :
    ∃ after, (runStep e k (.on name (.suppressed c steps exit)) w).2.contexts[place]? = some after ∧
      after.suppression = ctx.suppression := by
  have followed : Follows name place _ w _ :=
    runStep_follows e k (.on name (.suppressed c steps exit)) (by simpa [Step.isOn, Act.isOn] using on)
  obtain ⟨after, found', suppression⟩ := followed ctx found
  refine ⟨after, getElem?_context found', ?_⟩
  rw [suppression, counted place ctx (getElem?_context found), foldl_ofCounts]
  exact congrArg ofCounts (funext fun d => balanced.foldl_scope d)

/-- However its steps were left, a scope is undone on the context it was entered with. After the scope of a
tenant, the local tenant is the one before. After the scope of a suppression, its concern is one less deep
than after the last of the steps if it was entered then, and the other concerns are as they were then; and
where the calls of the steps balance, all suppression is as it was before the scope. -/
theorem scopes_restore (reached : Reached e k w) (found : w.context? name = some (place, ctx))
    (steps : List Step) (exit : Exit) :
    (∀ tenant, ∃ after,
      (runStep e k (.on name (.withTenant tenant steps exit)) w).2.contexts[place]? = some after ∧
        after.localTenant = ctx.localTenant) ∧
    ∀ c, ∃ inside after,
      (runSteps e k steps (w.changeContext place (·.enable c))).2.contexts[place]? = some inside ∧
      (runStep e k (.on name (.suppressed c steps exit)) w).2.contexts[place]? = some after ∧
      after.suppression.depth c = inside.suppression.depth c - 1 ∧
      (∀ d, d ≠ c → after.suppression.depth d = inside.suppression.depth d ∧
        after.isSuppressed d = inside.isSuppressed d) ∧
      (areOn name steps = true → Balanced (ctx.enable c).suppression.depth (callsIn false steps) →
        after.suppression = ctx.suppression) := by
  refine ⟨fun tenant => withTenant_restores found tenant steps exit, fun c => ?_⟩
  have moves := (moves_enable place c w).trans (runSteps_moves e k steps _)
  obtain ⟨inside, here, -⟩ := moves_stay moves (getElem?_context found)
  have counted := moves_counted moves reached.counted place inside here
  have left : (runStep e k (.on name (.suppressed c steps exit)) w).2.contexts[place]? =
      some (inside.disable c) := by
    rw [runStep_on found, runAct_suppressed]
    exact getElem?_changed here _
  refine ⟨inside, inside.disable c, here, left, ?_, fun d other => ⟨?_, ?_⟩, fun on balanced => ?_⟩
  · exact (depth_disable _ c c).trans (if_pos rfl)
  · exact (depth_disable _ c d).trans (if_neg other)
  · rw [Context.isSuppressed, Context.isSuppressed, Context.disable, counted, disable_ofCounts,
      isSuppressed_ofCounts, isSuppressed_ofCounts, Call.count, if_neg other]
  · obtain ⟨after, here', same⟩ := suppressed_restores reached.counted found on balanced exit
    rw [left, Option.some.injEq] at here'
    rw [here', same]

namespace Job

/-- Tenants can be switched, and nothing is restricted. -/
def enforcer : Enforcer Memory where
  config := { tenancy := { enabled := true } }
  tenants := .ofTenancy { enabled := true } .memory
  directory := Departments.directory ⟨[], []⟩

def keys : CacheKeys := ⟨"", "global:"⟩

/-- A job for one tenant, with one concern suppressed. -/
def begun : World :=
  (runSteps enforcer keys
    [.context "job" .anonymous, .on "job" (.setDynamic "t1" false), .on "job" (.enable .tenant)] .start).2

/-- The rest of the job, which panics while it is switched to a second tenant. -/
def steps : List Step :=
  [.on "job" (.enable .dataPermission),
    .on "job" (.withTenant "t2"
      [.on "job" (.disable .dataPermission), .on "job" (.disable .tenant), .on "job" (.enable .tenant),
        .on "job" .clearDynamic] .panicked)]

/-- After the job the tenant is the first, and the one concern is suppressed. -/
theorem undone :
    (∃ after,
      (runStep enforcer keys (.on "job" (.withTenant "t3" steps .panicked)) begun).2.contexts[0]? =
        some after ∧ after.localTenant = some "t1") ∧
      ∃ after,
        (runStep enforcer keys (.on "job" (.suppressed .tenant steps .panicked)) begun).2.contexts[0]? =
          some after ∧ after.suppression = Suppression.idle.enable .tenant := by
  have found : begun.context? "job" =
      some (0, ((Context.start .anonymous).withLocalTenant (some "t1")).enable .tenant) := rfl
  obtain ⟨tenant, suppression⟩ := scopes_restore (Reached.start.steps _) found steps .panicked
  obtain ⟨inside, after, -, here, -, -, balanced⟩ := suppression .tenant
  exact ⟨tenant "t3", after, here, balanced (by decide +kernel) (by decide +kernel)⟩

end Job

end Script

end RowAccess
