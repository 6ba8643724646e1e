import RowAccess.Proofs.Counters
import RowAccess.Script.Run
import Mathlib.Logic.Relation
/-!
# What runs do to contexts

Whatever the steps of a script are, a run of them is a sequence of moves, each of which adds a context or
changes one (`Move`, `runSteps_moves`). What every move keeps is thus kept by every run, also within scopes:
contexts stay at their places, with tenancy disabled their local tenants stay (`moves_stay`), and all of the
suppression of a context is that of its depths (`Reached.counted`).
-/

namespace RowAccess

open Suppression

/-- The context after a call of its suppression. -/
def Context.call (ctx : Context) (c : Call) : Context :=
  { ctx with suppression := ctx.suppression.apply c }

/-! ## Switching a tenant -/

namespace Tenants

variable {σ : Type} {t : Tenants σ} {ctx : Context} {s : σ}

theorem setDynamic_disabled (disabled : t.enabled = false) (tenant : String) (forUser : Bool) :
    (t.setDynamic tenant forUser).run.run (ctx, s) = (.ok (), ctx, s) := by
  rw [setDynamic, disabled]
  rfl

theorem setDynamic_enabled (enabled : t.enabled = true) (tenant : String) (forUser : Bool) :
    (t.setDynamic tenant forUser).run.run (ctx, s) =
      match if forUser then t.keyOf? ctx.session else none with
      | some key =>
        (((t.store.set key tenant).run.run s).1.mapError .internal, ctx, ((t.store.set key tenant).run.run s).2)
      | none => (.ok (), ctx.withLocalTenant (some tenant), s) := by
  rw [setDynamic, enabled]
  change (match if forUser then t.keyOf? ctx.session else none with
    | some key => _ | none => _ : InContext σ Unit).run.run (ctx, s) = _
  cases if forUser then t.keyOf? ctx.session else none <;> rfl

theorem clearDynamic_disabled (disabled : t.enabled = false) :
    t.clearDynamic.run.run (ctx, s) = (.ok (), ctx, s) := by
  rw [clearDynamic, disabled]
  rfl

theorem clearDynamic_enabled (enabled : t.enabled = true) :
    t.clearDynamic.run.run (ctx, s) =
      match t.keyOf? ctx.session with
      | some key =>
        (((t.store.delete key).run.run s).1.mapError .internal, ctx.withLocalTenant none,
          ((t.store.delete key).run.run s).2)
      | none => (.ok (), ctx.withLocalTenant none, s) := by
  rw [clearDynamic, enabled]
  change (match t.keyOf? ctx.session with
    | some key => _ | none => _ : InContext σ Unit).run.run (ctx.withLocalTenant none, s) = _
  cases t.keyOf? ctx.session <;> rfl

end Tenants

namespace Script

open Relation

/-! ## Moves -/

/-- At most the tenant of a context changes, and nothing while tenancy is disabled. -/
structure Switched (enabled : Bool) (ctx ctx' : Context) : Prop where
  suppression : ctx'.suppression = ctx.suppression
  resting : enabled = false → ctx'.localTenant = ctx.localTenant

/-- A change of a context. -/
inductive Change (enabled : Bool) : Context → Context → Prop where
  | call (ctx : Context) (c : Call) : Change enabled ctx (ctx.call c)
  | switch {ctx ctx' : Context} : Switched enabled ctx ctx' → Change enabled ctx ctx'

/-- Nothing happens to contexts. -/
def Untouched (w w' : World) : Prop := w'.names = w.names ∧ w'.contexts = w.contexts

/-- A change of a world. -/
inductive Move (enabled : Bool) : World → World → Prop where
  | rest {w w' : World} : Untouched w w' → Move enabled w w'
  | add (w : World) (name : String) (ctx : Context) :
      ctx.suppression = .idle → Move enabled w (w.addContext name ctx)
  | change {w : World} (place : Nat) (f : Context → Context) :
      (∀ ctx, w.contexts[place]? = some ctx → Change enabled ctx (f ctx)) →
        Move enabled w (w.changeContext place f)

/-- Changes of a world one after the other. -/
abbrev Moves (enabled : Bool) : World → World → Prop := ReflTransGen (Move enabled)

variable {e : Enforcer Memory} {k : CacheKeys} {w w' : World} {name : String} {place : Nat}
  {ctx : Context} {enabled : Bool}

theorem getElem?_changeContext (w : World) (place : Nat) (f : Context → Context) (p : Nat) :
    (w.changeContext place f).contexts[p]? =
      w.contexts[p]?.map fun ctx => if place = p then f ctx else ctx := by
  rw [World.changeContext, List.getElem?_modify]
  rfl

theorem getElem?_changed (found : w.contexts[place]? = some ctx) (f : Context → Context) :
    (w.changeContext place f).contexts[place]? = some (f ctx) := by
  simp [getElem?_changeContext, found]

theorem context?_eq_some :
    w.context? name = some (place, ctx) ↔
      w.names.lookup name = some place ∧ w.contexts[place]? = some ctx := by
  simp [World.context?, Option.bind_eq_some_iff]

theorem getElem?_context (found : w.context? name = some (place, ctx)) :
    w.contexts[place]? = some ctx := (context?_eq_some.mp found).2

/-! ### The moves of acts and steps -/

theorem moves_change (place : Nat) {f : Context → Context} (changes : ∀ ctx, Change enabled ctx (f ctx))
    (w : World) : Moves enabled w (w.changeContext place f) :=
  ReflTransGen.single (.change place f fun ctx _ => changes ctx)

theorem moves_rest (untouched : Untouched w w') : Moves enabled w w' :=
  ReflTransGen.single (.rest untouched)

/-- What may change a context changes it and then the store. -/
theorem changing_untouched (place : Nat) (ctx : Context) (a : InContext Memory Unit) (w : World) :
    Untouched (w.changeContext place fun _ => (a (ctx, w.shared.store)).2.1)
      (changing place ctx a w).2 := by
  rcases ran : a (ctx, w.shared.store) with ⟨result, after, store⟩
  simp only [changing, ran]
  cases result <;> exact ⟨rfl, rfl⟩

theorem enforcing_untouched {α : Type} (a : Enforcing Memory α) (answer : Except Error α → Answer)
    {after : World → α → World} (same : ∀ w v, Untouched w (after w v)) (w : World) :
    Untouched w (enforcing a answer after w).2 := by
  rcases ran : a w.shared with ⟨result, shared⟩
  simp only [enforcing, ran]
  cases result with
  | error fault => exact ⟨rfl, rfl⟩
  | ok v => exact same { w with shared } v

theorem planning_untouched (run : BoundStatement → Enforcing Memory (Option Plan)) (target : Target)
    (w : World) : Untouched w (planning run target w).2 := by
  rw [planning_run]
  cases w.statement? target with
  | none => exact ⟨rfl, rfl⟩
  | some s => exact enforcing_untouched _ _ (fun _ _ => ⟨rfl, rfl⟩) w

theorem hook_untouched (run : BoundStatement → Enforcing Memory BoundStatement) (target : Target)
    (w : World) : Untouched w (hook run target w).2 := by
  rw [hook_run]
  cases w.statement? target with
  | none => exact ⟨rfl, rfl⟩
  | some s =>
    refine enforcing_untouched _ _ (fun w s => ?_) w
    cases target <;> exact ⟨rfl, rfl⟩

theorem Switched.refl (ctx : Context) : Switched enabled ctx ctx := ⟨rfl, fun _ => rfl⟩

theorem switched_enabled (h : enabled = true) (ctx : Context) (tenant : Option String) :
    Switched enabled ctx (ctx.withLocalTenant tenant) :=
  ⟨rfl, fun disabled => by rw [h] at disabled; cases disabled⟩

theorem setDynamic_switched (t : Tenants Memory) (tenant : String) (forUser : Bool) (ctx : Context)
    (store : Memory) : Switched t.enabled ctx (t.setDynamic tenant forUser (ctx, store)).2.1 := by
  change Switched t.enabled ctx ((t.setDynamic tenant forUser).run.run (ctx, store)).2.1
  cases enabled : t.enabled with
  | false =>
    rw [Tenants.setDynamic_disabled enabled]
    exact .refl ctx
  | true =>
    rw [Tenants.setDynamic_enabled enabled]
    cases if forUser then t.keyOf? ctx.session else none with
    | none => exact switched_enabled rfl ctx _
    | some key => exact .refl ctx

theorem clearDynamic_switched (t : Tenants Memory) (ctx : Context) (store : Memory) :
    Switched t.enabled ctx (t.clearDynamic (ctx, store)).2.1 := by
  change Switched t.enabled ctx (t.clearDynamic.run.run (ctx, store)).2.1
  cases enabled : t.enabled with
  | false =>
    rw [Tenants.clearDynamic_disabled enabled]
    exact .refl ctx
  | true =>
    rw [Tenants.clearDynamic_enabled enabled]
    cases t.keyOf? ctx.session with
    | none => exact switched_enabled rfl ctx none
    | some key => exact switched_enabled rfl ctx none

theorem enter_switched (t : Tenants Memory) (tenant : String) (ctx : Context) :
    Switched t.enabled ctx (t.enter tenant ctx) := by
  rw [Tenants.enter]
  split
  case isTrue enabled => exact switched_enabled enabled ctx _
  case isFalse => exact .refl ctx

theorem leave_switched (t : Tenants Memory) (before : Option String) (ctx : Context) :
    Switched t.enabled ctx (t.leave before ctx) := by
  rw [Tenants.leave]
  split
  case isTrue enabled => exact switched_enabled enabled ctx _
  case isFalse => exact .refl ctx

theorem changing_moves {a : InContext Memory Unit} (found : w.contexts[place]? = some ctx)
    (switched : ∀ store, Switched enabled ctx (a (ctx, store)).2.1) :
    Moves enabled w (changing place ctx a w).2 := by
  refine ReflTransGen.head (.change place _ fun ctx' here => ?_)
    (moves_rest (changing_untouched place ctx a w))
  rw [found, Option.some.injEq] at here
  exact here ▸ .switch (switched w.shared.store)

theorem moves_enter (t : Tenants Memory) (place : Nat) (tenant : String) (w : World) :
    Moves t.enabled w (w.changeContext place (t.enter tenant)) :=
  moves_change place (fun ctx => .switch (enter_switched t tenant ctx)) w

theorem moves_enable (place : Nat) (c : Concern) (w : World) :
    Moves enabled w (w.changeContext place (·.enable c)) :=
  moves_change place (fun ctx => .call ctx (.enable c)) w

theorem runAct_withTenant (e : Enforcer Memory) (k : CacheKeys) (place : Nat) (ctx : Context)
    (tenant : String) (steps : List Step) (exit : Exit) (w : World) :
    (runAct e k place ctx (.withTenant tenant steps exit) w).2 =
      (runSteps e k steps (w.changeContext place (e.tenants.enter tenant))).2.changeContext place
        (e.tenants.leave ctx.localTenant) := by
  rw [runAct]
  rfl

theorem runAct_suppressed (e : Enforcer Memory) (k : CacheKeys) (place : Nat) (ctx : Context)
    (c : Concern) (steps : List Step) (exit : Exit) (w : World) :
    (runAct e k place ctx (.suppressed c steps exit) w).2 =
      (runSteps e k steps (w.changeContext place (·.enable c))).2.changeContext place
        (·.disable c) := by
  rw [runAct]
  rfl

theorem runStep_context (name : String) (act : Act) (w : World) :
    runStep e k (.on name act) w = (match w.context? name with
      | none => pure .unknownContext
      | some (place, ctx) => runAct e k place ctx act : Running Answer) w := by
  rw [runStep]
  rfl

theorem runStep_on (found : w.context? name = some (place, ctx)) (act : Act) :
    runStep e k (.on name act) w = runAct e k place ctx act w := by
  rw [runStep_context, found]

theorem runStep_unknown (missing : w.context? name = none) (act : Act) :
    runStep e k (.on name act) w = (.unknownContext, w) := by
  rw [runStep_context, missing]
  rfl

theorem runSteps_cons (e : Enforcer Memory) (k : CacheKeys) (s : Step) (rest : List Step) (w : World) :
    (runSteps e k (s :: rest) w).2 = (runSteps e k rest (runStep e k s w).2).2 := by
  rw [runSteps]
  rfl

mutual

theorem runStep_moves (e : Enforcer Memory) (k : CacheKeys) :
    ∀ (s : Step) (w : World), Moves e.tenants.enabled w (runStep e k s w).2
  | .context name session, w => by
    rw [runStep]
    exact ReflTransGen.single (.add w name _ rfl)
  | .statement _ _, w | .declared _, w | .storeGet _, w | .storeSet _ _, w | .unreadable _, w => by
    rw [runStep]
    exact moves_rest ⟨rfl, rfl⟩
  | .on name act, w => by
    match found : w.context? name with
    | none =>
      rw [runStep_unknown found]
    | some (place, ctx) =>
      rw [runStep_on found]
      exact runAct_moves e k act (getElem?_context found)

theorem runAct_moves (e : Enforcer Memory) (k : CacheKeys) {place : Nat} {ctx : Context} :
    ∀ (act : Act) {w : World}, w.contexts[place]? = some ctx →
      Moves e.tenants.enabled w (runAct e k place ctx act w).2
  | .fork name, w, _ => by
    rw [runAct]
    exact ReflTransGen.single (.add w name _ rfl)
  | .enable c, w, _ => by
    rw [runAct]
    exact moves_change place (fun ctx => .call ctx (.enable c)) w
  | .disable c, w, _ => by
    rw [runAct]
    exact moves_change place (fun ctx => .call ctx (.disable c)) w
  | .clearSuppression, w, _ => by
    rw [runAct]
    exact moves_change place (fun ctx => .call ctx .clear) w
  | .setDynamic tenant forUser, w, found => by
    rw [runAct]
    exact changing_moves found (setDynamic_switched e.tenants tenant forUser ctx)
  | .clearDynamic, w, found => by
    rw [runAct]
    exact changing_moves found (clearDynamic_switched e.tenants ctx)
  | .withTenant tenant steps exit, w, _ => by
    rw [runAct_withTenant]
    exact ((moves_enter e.tenants place tenant w).trans (runSteps_moves e k steps _)).trans
      (moves_change place (fun ctx' => .switch (leave_switched _ ctx.localTenant ctx')) _)
  | .suppressed c steps exit, w, _ => by
    rw [runAct_suppressed]
    exact ((moves_enable place c w).trans (runSteps_moves e k steps _)).trans
      (moves_change place (fun ctx => .call ctx (.disable c)) _)
  | .plan target, w, _ => by
    rw [runAct]
    exact moves_rest (planning_untouched _ target w)
  | .query target, w, _ | .prepare target, w, _ => by
    rw [runAct]
    exact moves_rest (hook_untouched _ target w)
  | .session, w, _ | .suppression, w, _ | .depth _, w, _ | .dynamic, w, _ | .effective, w, _
  | .resolve _, w, _ | .predicates _ _, w, _ | .map _, w, _ | .unmap _, w, _
  | .unreadable _, w, _ => by
    rw [runAct]
    exact moves_rest ⟨rfl, rfl⟩

theorem runSteps_moves (e : Enforcer Memory) (k : CacheKeys) :
    ∀ (steps : List Step) (w : World), Moves e.tenants.enabled w (runSteps e k steps w).2
  | [], w => by
    rw [runSteps]
    exact .refl
  | s :: rest, w => by
    rw [runSteps_cons]
    exact (runStep_moves e k s w).trans (runSteps_moves e k rest _)

end

/-! ## Worlds of a run -/

/-- A world that a script comes to, also within its scopes. -/
inductive Reached (e : Enforcer Memory) (k : CacheKeys) : World → Prop where
  | start : Reached e k .start
  | step {w : World} (s : Step) : Reached e k w → Reached e k (runStep e k s w).2
  | tenant {w : World} {name : String} {place : Nat} {ctx : Context} (tenant : String) :
      Reached e k w → w.context? name = some (place, ctx) →
        Reached e k (w.changeContext place (e.tenants.enter tenant))
  | suppression {w : World} {name : String} {place : Nat} {ctx : Context} (c : Concern) :
      Reached e k w → w.context? name = some (place, ctx) →
        Reached e k (w.changeContext place (·.enable c))

theorem Reached.steps (reached : Reached e k w) (steps : List Step) :
    Reached e k (runSteps e k steps w).2 := by
  induction steps generalizing w with
  | nil => exact reached
  | cons s rest ih =>
    rw [runSteps_cons]
    exact ih (reached.step s)

theorem Reached.moves (reached : Reached e k w) : Moves e.tenants.enabled .start w := by
  induction reached with
  | start => exact .refl
  | step s _ ih => exact ih.trans (runStep_moves e k s _)
  | tenant tenant _ _ ih => exact ih.trans (moves_enter e.tenants _ tenant _)
  | suppression c _ _ ih => exact ih.trans (moves_enable _ c _)

/-- The suppression of every context is that of its depths. -/
def World.Counted (w : World) : Prop :=
  ∀ (place : Nat) (ctx : Context), w.contexts[place]? = some ctx →
    ctx.suppression = ofCounts ctx.suppression.depth

theorem Change.counted {ctx' : Context} (change : Change enabled ctx ctx')
    (counted : ctx.suppression = ofCounts ctx.suppression.depth) :
    ctx'.suppression = ofCounts ctx'.suppression.depth := by
  cases change with
  | switch switched =>
    rw [switched.suppression]
    exact counted
  | call c =>
    change ctx.suppression.apply c = ofCounts (ctx.suppression.apply c).depth
    rw [counted, apply_ofCounts]
    rfl

theorem Change.localTenant_disabled {ctx' : Context} (change : Change enabled ctx ctx')
    (disabled : enabled = false) : ctx'.localTenant = ctx.localTenant := by
  cases change with
  | call => rfl
  | switch switched => exact switched.resting disabled

theorem Move.counted (move : Move enabled w w') (counted : w.Counted) : w'.Counted := by
  intro place ctx here
  cases move with
  | rest untouched => exact counted place ctx (untouched.2 ▸ here)
  | add name added idle =>
    rw [World.addContext, List.getElem?_append, List.getElem?_singleton] at here
    split at here
    · exact counted place ctx here
    · split at here
      · cases here
        rw [idle]
        exact ofCounts_zero.symm
      · cases here
  | change p f changes =>
    rw [getElem?_changeContext, Option.map_eq_some_iff] at here
    obtain ⟨before, here, rfl⟩ := here
    split
    case isTrue same => exact (changes before (same ▸ here)).counted (counted place before here)
    case isFalse => exact counted place before here

theorem moves_counted (moves : Moves enabled w w') (counted : w.Counted) : w'.Counted := by
  induction moves with
  | refl => exact counted
  | tail _ move ih => exact move.counted ih

theorem Reached.counted (reached : Reached e k w) : w.Counted :=
  moves_counted reached.moves fun _ _ here => by cases here

/-- Contexts stay at their places, and with tenancy disabled have the local tenants that they had. -/
theorem Move.stays (move : Move enabled w w') (here : w.contexts[place]? = some ctx) :
    ∃ after, w'.contexts[place]? = some after ∧
      (enabled = false → after.localTenant = ctx.localTenant) := by
  cases move with
  | rest untouched => exact ⟨ctx, untouched.2 ▸ here, fun _ => rfl⟩
  | add name added idle =>
    have inside : place < w.contexts.length := (List.getElem?_eq_some_iff.mp here).1
    exact ⟨ctx, (List.getElem?_append_left inside).trans here, fun _ => rfl⟩
  | change p f changes =>
    refine ⟨_, by rw [getElem?_changeContext, here]; rfl, fun disabled => ?_⟩
    split
    case isTrue same => exact (changes ctx (same ▸ here)).localTenant_disabled disabled
    case isFalse => rfl

theorem moves_stay (moves : Moves enabled w w') (here : w.contexts[place]? = some ctx) :
    ∃ after, w'.contexts[place]? = some after ∧
      (enabled = false → after.localTenant = ctx.localTenant) := by
  induction moves with
  | refl => exact ⟨ctx, here, fun _ => rfl⟩
  | tail _ move ih =>
    obtain ⟨between, here, same⟩ := ih
    obtain ⟨after, here, same'⟩ := move.stays here
    exact ⟨after, here, fun disabled => (same' disabled).trans (same disabled)⟩

end Script

end RowAccess
