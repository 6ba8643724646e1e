import RowAccess.Proofs.Disabling
import RowAccess.Proofs.Moves
import RowAccess.Proofs.StoreReads
/-!
# Tasks that share a desk

Tasks go on side by side, in any order of their steps. Each has a context of its own and may be within scopes
of tenants; all share the lookups of rules and the store (`Desk`). A task is started for a session or as the
child of another one, and each of its steps, a `Deed`, is answered.

What a task asks about is answered from its context and from what the store holds for its user, and is not
noticed by others (`Question.private_answer`). Besides, the step of a task changes that task alone, and of the
store at most what it holds for the task's user.
-/

namespace RowAccess

variable {σ κ α β : Type}

/-- A context at work, and the local tenants to go back to where the scopes of tenants end that it is in,
the innermost one first. -/
structure Task where
  context : Context
  outer : List (Option String)

/-- Tasks by their numbers, and what they share. -/
structure Desk (σ : Type) where
  tasks : Nat → Option Task
  shared : Shared σ

/-- Something that a task asks about. -/
inductive Question where
  | suppression
  | dynamic
  | effective
  | resolve (operation : String)
  | predicates (rule : Rule) (scope : Scope)
  | map (key : String)
  | unmap (key : String)
  | plan (s : BoundStatement)
  | query (s : BoundStatement)
  | prepare (s : BoundStatement)

/-- A step of a task. -/
inductive Deed where
  | call (c : Suppression.Call)
  | setDynamic (tenant : String) (forUser : Bool)
  | clearDynamic
  /-- The begin of a scope of a tenant. -/
  | enterTenant (tenant : String)
  /-- The end of the innermost scope of a tenant, however it is left. -/
  | leaveTenant
  | ask (q : Question)

/-- Something that happens at a desk. -/
inductive Event where
  | start (name : Nat) (session : Session)
  | fork (name child : Nat)
  | on (name : Nat) (deed : Deed)
  /-- A lookup of a rule for no task in particular. -/
  | lookup (operation : String)

open Script (Answer)

/-! ## Steps -/

/-- The answer by a result or a failure. -/
def answerOf (answer : α → Answer) : Except Error α → Answer
  | .ok v => answer v
  | .error fault => .failed fault

/-- The answer to something that may fail. -/
def Enforcing.told (a : Enforcing σ α) (answer : α → Answer) : StateM (Shared σ) Answer :=
  answerOf answer <$> a.run

theorem Enforcing.told_storing (a : Stored σ α) (answer : α → Answer) (shared : Shared σ) :
    ((Enforcing.storing a).told answer).run shared =
      (answerOf answer (a.run.run shared.store).1,
        { shared with store := (a.run.run shared.store).2 }) := rfl

/-- The answer to a question, which changes no context. -/
def Question.answer (e : Enforcer σ) (k : CacheKeys) (ctx : Context) : Question → StateM (Shared σ) Answer
  | .suppression => pure (.suppression ctx.suppression)
  | .dynamic => (Enforcing.storing (e.tenants.dynamic ctx)).told .text
  | .effective => (Enforcing.storing (e.tenants.effective ctx)).told .text
  | .resolve operation => (Enforcing.looking (e.resolve ctx operation)).told .rule
  | .predicates rule scope => (Enforcing.storing (e.predicates ctx rule scope)).told .predicates
  | .map key => (Enforcing.storing (k.map e.tenants ctx key)).told .text
  | .unmap key => (Enforcing.storing (k.unmap e.tenants ctx key)).told .text
  | .plan s => (e.plan ctx s).told (.plan s.sql)
  | .query s => (fun (after, fault) => .statement after fault) <$> Enforcing.held (e.beforeQuery ctx) s
  | .prepare s => (fun (after, fault) => .statement after fault) <$> Enforcing.held (e.beforePrepare ctx) s

/-- A task and what is shared after something that may change its context. -/
def Task.change (t : Task) (shared : Shared σ) (a : InContext σ Unit) : Answer × Task × Shared σ :=
  let (result, context, store) := a.run.run (t.context, shared.store)
  (answerOf (fun () => .done) result, { t with context }, { shared with store })

/-- The answer to a step of a task, with the task and what is shared after it. -/
def Deed.run (e : Enforcer σ) (k : CacheKeys) (t : Task) (shared : Shared σ) :
    Deed → Answer × Task × Shared σ
  | .call c => (.done, { t with context := t.context.call c }, shared)
  | .setDynamic tenant forUser => t.change shared (e.tenants.setDynamic tenant forUser)
  | .clearDynamic => t.change shared e.tenants.clearDynamic
  | .enterTenant tenant =>
    (.done, ⟨e.tenants.enter tenant t.context, t.context.localTenant :: t.outer⟩, shared)
  | .leaveTenant =>
    match t.outer with
    | [] => (.done, t, shared)
    | before :: outer => (.done, ⟨e.tenants.leave before t.context, outer⟩, shared)
  | .ask q =>
    let (answer, shared) := (q.answer e k t.context).run shared
    (answer, t, shared)

namespace Desk

/-- A desk without tasks. -/
def empty (store : σ) : Desk σ := ⟨fun _ => none, ⟨.none, store⟩⟩

/-- With a task under a number. -/
def put (d : Desk σ) (name : Nat) (t : Task) : Desk σ :=
  { d with tasks := Function.update d.tasks name (some t) }

theorem tasks_put (d : Desk σ) (name : Nat) (t : Task) (n : Nat) :
    (d.put name t).tasks n = if n = name then some t else d.tasks n :=
  Function.update_apply d.tasks name (some t) n

/-- The answer to an event, and the desk after it. -/
def step (e : Enforcer σ) (k : CacheKeys) (d : Desk σ) : Event → Answer × Desk σ
  | .start name session => (.done, d.put name ⟨.start session, []⟩)
  | .fork name child =>
    match d.tasks name with
    | none => (.unknownContext, d)
    | some t => (.done, d.put child ⟨t.context.fork, []⟩)
  | .on name deed =>
    match d.tasks name with
    | none => (.unknownContext, d)
    | some t =>
      let (answer, t, shared) := deed.run e k t d.shared
      (answer, { d with shared }.put name t)
  | .lookup operation =>
    let (rule, lookups) := (e.declared operation).run d.shared.lookups
    (.rule rule, { d with shared := { d.shared with lookups } })

/-- The desk after events, one after the other. -/
def after (e : Enforcer σ) (k : CacheKeys) (d : Desk σ) (events : List Event) : Desk σ :=
  events.foldl (fun d event => (d.step e k event).2) d

/-- What each event keeps, of a desk and the history with the latest event first, holds after all of them. -/
theorem after_induction {e : Enforcer σ} {k : CacheKeys} {kept : List Event → Desk σ → Prop}
    (step : ∀ past d event, kept past d → kept (event :: past) (d.step e k event).2) {past : List Event}
    {d : Desk σ} (start : kept past d) (events : List Event) :
    kept (events.reverse ++ past) (d.after e k events) := by
  induction events generalizing past d with
  | nil => exact start
  | cons event events ih =>
    rw [List.reverse_cons, List.append_assoc, List.singleton_append]
    exact ih (step past d event start)

end Desk

/-! ## Questions -/

/-- The computation adds to the lookups what a search finds, leaves all that is in view of the store as it is,
and answers by what is under a key alone. -/
structure Private (declared : Declarations) (view : σ → String → κ) (key : String)
    (a : StateM (Shared σ) α) : Prop where
  keeps : ∀ x, x.lookups.Sound declared →
    (a.run x).2.lookups.Sound declared ∧ view (a.run x).2.store = view x.store
  same : ∀ x y, x.lookups.Sound declared → y.lookups.Sound declared →
    view x.store key = view y.store key → (a.run x).1 = (a.run y).1

namespace Private

variable {declared : Declarations} {view : σ → String → κ} {key : String}

theorem pure (v : α) : Private declared view key (Pure.pure v : StateM (Shared σ) α) where
  keeps _ sound := ⟨sound, rfl⟩
  same _ _ _ _ _ := rfl

theorem map {a : StateM (Shared σ) α} (f : α → β) (h : Private declared view key a) :
    Private declared view key (f <$> a) where
  keeps := h.keeps
  same x y sound sound' alike := congrArg f (h.same x y sound sound' alike)

theorem storing {a : Stored σ α} (reads : Reads view key a) :
    Private declared view key (Enforcing.storing a).run where
  keeps x sound := ⟨sound, (reads x.store).1⟩
  same x y _ _ alike := (reads x.store).2 y.store alike

end Private

section

variable {view : σ → String → κ} {key : String} {e : Enforcer σ} {ctx : Context}

/-- The rule that a search finds and a context leaves in force, without what is dealt with already. -/
def Enforcer.pending (e : Enforcer σ) (ctx : Context) (s : BoundStatement) : Option Rule :=
  ((Declarations.find? e.config.operations s.operation).bind (e.inForce ctx)).bind
    (Rule.filter fun c => !s.applied.contains c)

theorem Enforcer.due_answer (e : Enforcer σ) (ctx : Context) {l : Lookups}
    (sound : l.Sound e.config.operations) (s : BoundStatement) :
    ((e.due ctx s).run l).1 = e.pending ctx s ∧ ((e.due ctx s).run l).2.Sound e.config.operations := by
  obtain ⟨found, sound'⟩ := e.declared_answer sound s.operation
  refine ⟨?_, sound'⟩
  change (((e.declared s.operation).run l).1.bind (e.inForce ctx)).bind _ = _
  rw [found, pending]

/-- A plan needs no more than the rule that is pending and what is held for the user. -/
theorem Private.plan (at_ : e.tenants.ReadsAt view key ctx) (s : BoundStatement) :
    Private e.config.operations view key (e.plan ctx s).run := by
  cases found : e.pending ctx s with
  | none =>
    have nothing {x : Shared σ} (sound : x.lookups.Sound e.config.operations) :
        ((e.due ctx s).run x.lookups).1 = none := (e.due_answer ctx sound s).1.trans found
    constructor
    · intro x sound
      rw [e.plan_rest (nothing sound)]
      exact ⟨(e.due_answer ctx sound s).2, rfl⟩
    · intro x y sound sound' _
      rw [e.plan_rest (nothing sound), e.plan_rest (nothing sound')]
  | some r =>
    have reads := e.reads_rewrite at_ r s.sql
    have due {x : Shared σ} (sound : x.lookups.Sound e.config.operations) :
        ((e.due ctx s).run x.lookups).1 = some r := (e.due_answer ctx sound s).1.trans found
    constructor
    · intro x sound
      rw [e.plan_run (due sound)]
      exact ⟨(e.due_answer ctx sound s).2, (reads x.store).1⟩
    · intro x y sound sound' alike
      rw [e.plan_run (due sound), e.plan_run (due sound'), (reads x.store).2 y.store alike]

theorem Private.held {hook : BoundStatement → Enforcing σ BoundStatement} {s : BoundStatement}
    (h : Private e.config.operations view key (hook s).run) :
    Private e.config.operations view key (Enforcing.held hook s) := by
  constructor
  · intro x sound
    rw [Enforcing.held_run]
    exact h.keeps x sound
  · intro x y sound sound' alike
    rw [Enforcing.held_run, Enforcing.held_run, h.same x y sound sound' alike]

theorem Enforcer.beforeQuery_run (e : Enforcer σ) (ctx : Context) (s : BoundStatement) :
    (e.beforeQuery ctx s).run =
      (fun planned => planned.map (Enforcer.afterPlan s)) <$> (e.plan ctx s).run := by
  rw [Enforcer.beforeQuery, ExceptT.run_bind]
  funext x
  change ((e.plan ctx s).run >>= _).run x =
    (((e.plan ctx s).run.run x).1.map (Enforcer.afterPlan s), ((e.plan ctx s).run.run x).2)
  rw [StateT.run_bind]
  rcases (e.plan ctx s).run.run x with ⟨_ | _, _⟩ <;> rfl

theorem Private.beforeQuery (at_ : e.tenants.ReadsAt view key ctx) (s : BoundStatement) :
    Private e.config.operations view key (e.beforeQuery ctx s).run := by
  rw [e.beforeQuery_run]
  exact (Private.plan at_ s).map _

theorem Private.beforePrepare (at_ : e.tenants.ReadsAt view key ctx) (s : BoundStatement) :
    Private e.config.operations view key (e.beforePrepare ctx s).run := by
  rw [Enforcer.beforePrepare]
  cases s.command with
  | update | delete => exact Private.beforeQuery at_ s
  | _ => exact .pure (Except.ok s)

/-- What a task asks about is answered by what the store holds for its user, and is not noticed by others. -/
theorem Question.private_answer (at_ : e.tenants.ReadsAt view key ctx) (k : CacheKeys) (q : Question) :
    Private e.config.operations view key (q.answer e k ctx) := by
  cases q with
  | suppression => exact .pure _
  | dynamic => exact (Private.storing (Tenants.reads_dynamic at_)).map _
  | effective => exact (Private.storing (Tenants.reads_effective at_)).map _
  | predicates rule scope => exact (Private.storing (e.reads_predicates at_ rule scope)).map _
  | map key => exact (Private.storing (k.reads_map at_ key)).map _
  | unmap key => exact (Private.storing (k.reads_unmap at_ key)).map _
  | plan s => exact (Private.plan at_ s).map _
  | query s => exact (Private.held (Private.beforeQuery at_ s)).map _
  | prepare s => exact (Private.held (Private.beforePrepare at_ s)).map _
  | resolve operation =>
    refine Private.map _ ⟨?_, ?_⟩
    · intro x sound
      exact ⟨(e.declared_answer sound operation).2, rfl⟩
    · intro x y sound sound' _
      change Except.ok (((e.declared operation).run x.lookups).1.bind (e.inForce ctx)) =
        Except.ok (((e.declared operation).run y.lookups).1.bind (e.inForce ctx))
      rw [(e.declared_answer sound operation).1, (e.declared_answer sound' operation).1]

end

/-! ## Switching a tenant -/

namespace Tenants

variable {t : Tenants σ} {ctx : Context} {s : σ}

/-- No two users have the same key. -/
theorem key_injective (t : Tenants σ) : Function.Injective t.key := by
  intro user other same
  exact (String.append_right_inj _).mp same

theorem setDynamic_user (enabled : t.enabled = true) {user : String}
    (known : ctx.session.userId = some user) (tenant : String) :
    (t.setDynamic tenant true).run.run (ctx, s) =
      (((t.store.set (t.key user) tenant).run.run s).1.mapError .internal, ctx,
        ((t.store.set (t.key user) tenant).run.run s).2) := by
  rw [setDynamic_enabled enabled, if_pos rfl, keyOf?, known]
  rfl

theorem setDynamic_local (enabled : t.enabled = true) {forUser : Bool}
    (unshared : forUser = false ∨ ctx.session.userId = none) (tenant : String) :
    (t.setDynamic tenant forUser).run.run (ctx, s) = (.ok (), ctx.withLocalTenant (some tenant), s) := by
  rw [setDynamic_enabled enabled]
  rcases unshared with rfl | unknown
  · rfl
  · rw [keyOf?, unknown, Option.map_none, ite_self]

theorem clearDynamic_user (enabled : t.enabled = true) {user : String}
    (known : ctx.session.userId = some user) :
    t.clearDynamic.run.run (ctx, s) =
      (((t.store.delete (t.key user)).run.run s).1.mapError .internal, ctx.withLocalTenant none,
        ((t.store.delete (t.key user)).run.run s).2) := by
  rw [clearDynamic_enabled enabled, keyOf?, known]
  rfl

theorem clearDynamic_anonymous (enabled : t.enabled = true) (unknown : ctx.session.userId = none) :
    t.clearDynamic.run.run (ctx, s) = (.ok (), ctx.withLocalTenant none, s) := by
  rw [clearDynamic_enabled enabled, keyOf?, unknown]
  rfl

end Tenants

/-! ## What a step does -/

/-- Puts a text under a key, or takes away the one that is there. -/
def Store.put (store : Store σ) (key : String) : Option String → StoreCall σ Unit
  | some value => store.set key value
  | none => store.delete key

theorem Store.Keyed.put {store : Store σ} {view : σ → String → κ} (keyed : store.Keyed view) (key : String)
    (value : Option String) : Writes view key (store.put key value) := by
  cases value with
  | some value => exact keyed.set key value
  | none => exact keyed.delete key

namespace Deed

variable {e : Enforcer σ} {k : CacheKeys} {t : Task}

/-- The tenant, or none, that a step asks to switch the user to. -/
def switch? : Deed → Option (Option String)
  | .setDynamic tenant true => some (some tenant)
  | .clearDynamic => some none
  | _ => none

/-- The call of the store by which a step switches the user. -/
def write? (e : Enforcer σ) (session : Session) (deed : Deed) : Option (StoreCall σ Unit) :=
  if e.tenants.enabled then
    deed.switch?.bind fun value => (e.tenants.keyOf? session).map fun key => e.tenants.store.put key value
  else none

/-- The answer to a step other than a question, by its call of the store, and what is shared after it. -/
def switching (shared : Shared σ) : Option (StoreCall σ Unit) → Answer × Shared σ
  | some write => (answerOf (fun () => .done) ((write.run.run shared.store).1.mapError .internal),
      { shared with store := (write.run.run shared.store).2 })
  | none => (.done, shared)

/-- What the step makes of a task does not depend on what is shared, which it changes by at most one call of
the store. -/
def Switches (e : Enforcer σ) (k : CacheKeys) (t : Task) (deed : Deed) : Prop :=
  ∃ t' : Task, t'.context.session = t.context.session ∧ ∀ shared : Shared σ,
    deed.run e k t shared = ((switching shared (deed.write? e t.context.session)).1, t',
      (switching shared (deed.write? e t.context.session)).2)

theorem switches_setDynamic (t : Task) (tenant : String) (forUser : Bool) :
    Switches e k t (.setDynamic tenant forUser) := by
  cases enabled : e.tenants.enabled with
  | false =>
    refine ⟨t, rfl, ?_⟩
    intro shared
    simp [run, Task.change, Tenants.setDynamic_disabled enabled, write?, enabled, switching, answerOf]
  | true =>
    by_cases unshared : forUser = false ∨ t.context.session.userId = none
    · have unwritten : write? e t.context.session (.setDynamic tenant forUser) = none := by
        rcases unshared with rfl | unknown
        · simp [write?, switch?]
        · simp [write?, Tenants.keyOf?, unknown]
      refine ⟨{ t with context := t.context.withLocalTenant (some tenant) }, rfl, ?_⟩
      intro shared
      rw [unwritten]
      simp [run, Task.change, Tenants.setDynamic_local enabled unshared, switching, answerOf]
    · obtain ⟨forUser, known⟩ := not_or.mp unshared
      obtain ⟨user, known⟩ := Option.ne_none_iff_exists'.mp known
      rw [Bool.not_eq_false] at forUser
      subst forUser
      refine ⟨t, rfl, ?_⟩
      intro shared
      simp [run, Task.change, Tenants.setDynamic_user enabled known, write?, switch?, enabled, Tenants.keyOf?,
        known, switching, Store.put]

theorem switches_clearDynamic (t : Task) : Switches e k t .clearDynamic := by
  cases enabled : e.tenants.enabled with
  | false =>
    refine ⟨t, rfl, ?_⟩
    intro shared
    simp [run, Task.change, Tenants.clearDynamic_disabled enabled, write?, enabled, switching, answerOf]
  | true =>
    refine ⟨{ t with context := t.context.withLocalTenant none }, rfl, ?_⟩
    intro shared
    cases known : t.context.session.userId with
    | none =>
      simp [run, Task.change, Tenants.clearDynamic_anonymous enabled known, write?, switch?, Tenants.keyOf?,
        known, switching, answerOf]
    | some user =>
      simp [run, Task.change, Tenants.clearDynamic_user enabled known, write?, switch?, enabled,
        Tenants.keyOf?, known, switching, Store.put]

/-- Each step is a question or one that at most switches the user. -/
theorem switches_of_acts {deed : Deed} (acts : ∀ q, deed ≠ .ask q) (t : Task) : Switches e k t deed := by
  cases deed with
  | ask q => exact absurd rfl (acts q)
  | setDynamic tenant forUser => exact switches_setDynamic t tenant forUser
  | clearDynamic => exact switches_clearDynamic t
  | call c =>
    refine ⟨{ t with context := t.context.call c }, rfl, ?_⟩
    intro shared
    simp [run, write?, switch?, switching]
  | enterTenant tenant =>
    refine ⟨⟨e.tenants.enter tenant t.context, t.context.localTenant :: t.outer⟩, ?_, ?_⟩
    · rw [Tenants.enter]
      split <;> rfl
    · intro shared
      simp [run, write?, switch?, switching]
  | leaveTenant =>
    cases scopes : t.outer with
    | nil =>
      refine ⟨t, rfl, ?_⟩
      intro shared
      simp [run, scopes, write?, switch?, switching]
    | cons before outer =>
      refine ⟨⟨e.tenants.leave before t.context, outer⟩, ?_, ?_⟩
      · rw [Tenants.leave]
        split <;> rfl
      · intro shared
        simp [run, scopes, write?, switch?, switching]

theorem ask_or_acts (deed : Deed) : (∃ q, deed = .ask q) ∨ ∀ q, deed ≠ .ask q := by
  cases deed with
  | ask q => exact .inl ⟨q, rfl⟩
  | _ => exact .inr fun q same => by cases same

theorem run_session (deed : Deed) (t : Task) (shared : Shared σ) :
    (deed.run e k t shared).2.1.context.session = t.context.session := by
  rcases deed.ask_or_acts with ⟨q, rfl⟩ | acts
  · rfl
  · obtain ⟨t', session, ran⟩ := switches_of_acts (e := e) (k := k) acts t
    rw [ran]
    exact session

theorem run_task (deed : Deed) (t : Task) (shared shared' : Shared σ) :
    (deed.run e k t shared).2.1 = (deed.run e k t shared').2.1 := by
  rcases deed.ask_or_acts with ⟨q, rfl⟩ | acts
  · rfl
  · obtain ⟨t', -, ran⟩ := switches_of_acts (e := e) (k := k) acts t
    rw [ran, ran]

/-- The call by which a step switches the user concerns the key of the user alone. -/
theorem write?_keyed {view : σ → String → κ} (keyed : e.tenants.store.Keyed view) {session : Session}
    {deed : Deed} {write : StoreCall σ Unit} (writes : deed.write? e session = some write) :
    ∃ user value, session.userId = some user ∧ deed.switch? = some value ∧
      Writes view (e.tenants.key user) write := by
  rw [write?] at writes
  split at writes
  case isFalse => cases writes
  case isTrue =>
    simp only [Tenants.keyOf?, Option.map_map, Option.bind_eq_some_iff, Option.map_eq_some_iff] at writes
    obtain ⟨value, switches, user, known, rfl⟩ := writes
    exact ⟨user, value, known, switches, keyed.put _ _⟩

end Deed

end RowAccess
