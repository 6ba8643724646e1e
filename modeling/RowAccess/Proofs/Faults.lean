import RowAccess.Proofs.Hooks
/-!
# What a failing step leaves behind

The calls of a store may fail at any time. A step of a task that fails has changed nothing of what the store
keeps, and nothing of the task, unless it is the one that switches back to no tenant: the local tenant is taken
from the context before the store is called, so it is gone even if the call fails (`failed_steps_keep`).
-/

namespace RowAccess

variable {σ κ α : Type}

/-! ## Stores whose calls fail -/

/-- A call of a store in memory that may fail, and then does nothing. Calls are counted, and the one with the number
`n` fails with the text `faults n`, if there is one. -/
def StoreCall.faulty (faults : Nat → Option String) (c : StoreCall Memory α) : StoreCall (Memory × Nat) α :=
  fun (m, n) =>
    match faults n with
    | some reason => (.error reason, m, n + 1)
    | none => let (answer, m) := c m; (answer, m, n + 1)

/-- A store in memory whose calls fail in a pattern. -/
def Store.faulty (faults : Nat → Option String) : Store (Memory × Nat) where
  get key := (Store.memory.get key).faulty faults
  set key value := (Store.memory.set key value).faulty faults
  delete key := (Store.memory.delete key).faulty faults

/-- Calls of a store leave what is in view as it is where they fail, and questions always do. -/
structure Store.Atomic (store : Store σ) (view : σ → κ) : Prop where
  get : ∀ key, Preserves view (store.get key)
  put : ∀ key value s reason, ((store.put key value).run.run s).1 = .error reason →
    view ((store.put key value).run.run s).2 = view s

theorem Store.faulty_atomic (faults : Nat → Option String) : (Store.faulty faults).Atomic Prod.fst where
  get key := by
    rintro ⟨m, n⟩
    change (((Store.memory.get key).faulty faults) (m, n)).2.1 = m
    rw [StoreCall.faulty]
    split <;> rfl
  put key value := by
    rintro ⟨m, n⟩ reason failed
    have call : (Store.faulty faults).put key value = (Store.memory.put key value).faulty faults := by
      cases value <;> rfl
    rw [call] at failed ⊢
    change (((Store.memory.put key value).faulty faults) (m, n)).1 = .error reason at failed
    change (((Store.memory.put key value).faulty faults) (m, n)).2.1 = m
    rw [StoreCall.faulty] at failed ⊢
    split
    · rfl
    · next sound =>
      -- a call that is not made to fail succeeds
      simp only [sound] at failed
      cases value <;> cases failed

/-! ## Questions -/

section

variable {view : σ → κ} {e : Enforcer σ} (reading : ∀ key, Preserves view (e.tenants.store.get key))

include reading

theorem Tenants.preserves_dynamic (ctx : Context) : Preserves view (e.tenants.dynamic ctx) := by
  rw [Tenants.dynamic]
  split
  · exact .pure none
  · split
    · exact .pure _
    · split
      · exact (Preserves.call (reading _)).bind fun _ => .pure _
      · exact .pure none

/-- Questions leave what is in view of the store as it is. -/
theorem Question.preserves (k : CacheKeys) (q : Question) (ctx : Context) (shared : Shared σ) :
    view ((q.answer e k ctx).run shared).2.store = view shared.store := by
  have effective := Tenants.preserves_effective reading ctx
  have plan (s : BoundStatement) := (e.plan_preserves reading ctx s shared).1
  have hook (h : Hook) (s : BoundStatement) :
      view ((Enforcing.held (h.run e ctx) s).run shared).2.store = view shared.store := by
    rw [Hook.held_run]
    split
    · exact plan s
    · rfl
  cases q with
  | suppression | resolve => rfl
  | dynamic => exact Tenants.preserves_dynamic reading ctx shared.store
  | effective => exact effective shared.store
  | predicates rule scope => exact e.preserves_predicates reading rule scope shared.store
  | map key => exact (Preserves.steps view).map k e.tenants effective key shared.store
  | unmap key => exact (Preserves.steps view).unmap k e.tenants effective key shared.store
  | plan s => exact plan s
  | query s => exact hook .query s
  | prepare s => exact hook .prepare s

end

/-! ## Steps that fail -/

namespace Tenants

variable {view : σ → κ} {t : Tenants σ} (atomic : t.store.Atomic view) {ctx ctx' : Context} {s s' : σ} {fault : Error}

include atomic

/-- A call of the store that puts something there, or takes it away, and fails. -/
theorem put_failed {key : String} (value : Option String)
    (failed : (((t.store.put key value).run.run s).1.mapError .internal : Except Error Unit) = .error fault) :
    view ((t.store.put key value).run.run s).2 = view s := by
  rcases answered : ((t.store.put key value).run.run s).1 with reason | x
  · exact atomic.put key value s reason answered
  · rw [answered] at failed
    cases failed

theorem setDynamic_failed {tenant : String} {forUser : Bool}
    (failed : (t.setDynamic tenant forUser).run.run (ctx, s) = (.error fault, ctx', s')) :
    ctx' = ctx ∧ view s' = view s := by
  cases enabled : t.enabled with
  | false =>
    rw [setDynamic_disabled enabled] at failed
    cases failed
  | true =>
    rw [setDynamic_enabled enabled] at failed
    cases key : if forUser then t.keyOf? ctx.session else none with
    | none =>
      rw [key] at failed
      cases failed
    | some key' =>
      rw [key] at failed
      obtain ⟨answered, left⟩ := Prod.mk.inj failed
      obtain ⟨rfl, rfl⟩ := Prod.mk.inj left
      exact ⟨rfl, put_failed atomic (some tenant) answered⟩

/-- The local tenant is gone by the time the store is called. -/
theorem clearDynamic_failed (failed : t.clearDynamic.run.run (ctx, s) = (.error fault, ctx', s')) :
    ctx' = ctx.withLocalTenant none ∧ view s' = view s ∧
      t.enabled = true ∧ ∃ user, ctx.session.userId = some user := by
  cases enabled : t.enabled with
  | false =>
    rw [clearDynamic_disabled enabled] at failed
    cases failed
  | true =>
    cases known : ctx.session.userId with
    | none =>
      rw [clearDynamic_anonymous enabled known] at failed
      cases failed
    | some user =>
      rw [clearDynamic_user enabled known] at failed
      obtain ⟨answered, left⟩ := Prod.mk.inj failed
      obtain ⟨rfl, rfl⟩ := Prod.mk.inj left
      exact ⟨rfl, put_failed atomic none answered, rfl, user, rfl⟩

end Tenants

/-- The tenant that a context is restricted to by what is kept in memory, where no call fails. -/
def Enforcer.settled (e : Enforcer σ) (ctx : Context) (m : Memory) : Except Error (Option String) :=
  (((e.withStore .memory).tenants.effective ctx).run.run m).1

/-- What is found is the first tenant that is not blank: the local one, the one of the user, that of the session. -/
theorem Enforcer.settled_eq {e : Enforcer σ} (ctx : Context) {user : String} (enabled : e.tenants.enabled = true)
    (known : ctx.session.userId = some user) (m : Memory) :
    e.settled ctx m = .ok ((Text.nonBlank ctx.localTenant).or
      ((Text.nonBlank (m.get? (e.tenants.key user))).or (Text.nonBlank ctx.session.tenantId))) := by
  have tenancy : (e.withStore Store.memory).tenants.enabled = true := enabled
  have key : (e.withStore Store.memory).tenants.keyOf? ctx.session = some (e.tenants.key user) := by
    rw [Tenants.keyOf?, known]
    rfl
  rw [settled, Tenants.effective_eq, tenancy, key]
  cases Text.nonBlank ctx.localTenant <;> rfl

/-- What a step changes that fails: nothing of what the store keeps, and of its task at most the local tenant. -/
theorem Deed.failed_run {view : σ → κ} {e : Enforcer σ} (atomic : e.tenants.store.Atomic view) {k : CacheKeys}
    {t t' : Task} {deed : Deed} {shared shared' : Shared σ} {fault : Error}
    (failed : deed.run e k t shared = (.failed fault, t', shared')) :
    view shared'.store = view shared.store ∧
      ((deed ≠ .clearDynamic ∧ t' = t) ∨
        (deed = .clearDynamic ∧ t' = { t with context := t.context.withLocalTenant none } ∧
          e.tenants.enabled = true ∧ ∃ user, t.context.session.userId = some user)) := by
  -- a step that may change the context fails as the change does
  have change {a : InContext σ Unit} (ran : t.change shared a = (.failed fault, t', shared')) :
      ∃ ctx' s', a.run.run (t.context, shared.store) = (.error fault, ctx', s') ∧
        t' = { t with context := ctx' } ∧ shared'.store = s' := by
    rw [Task.change] at ran
    rcases done : a.run.run (t.context, shared.store) with ⟨fault' | x, ctx', s'⟩
    · rw [done] at ran
      cases ran
      exact ⟨ctx', s', rfl, rfl, rfl⟩
    · rw [done] at ran
      cases ran
  cases deed with
  | call | enterTenant => cases failed
  | leaveTenant =>
    rw [Deed.run] at failed
    split at failed <;> cases failed
  | ask q =>
    obtain rfl : t = t' := congrArg (·.2.1) failed
    obtain rfl : _ = shared' := congrArg (·.2.2) failed
    exact ⟨Question.preserves atomic.get k q t.context shared, .inl ⟨Deed.noConfusion, rfl⟩⟩
  | setDynamic tenant forUser =>
    obtain ⟨ctx', s', ran, rfl, rfl⟩ := change failed
    obtain ⟨rfl, kept⟩ := Tenants.setDynamic_failed atomic ran
    exact ⟨kept, .inl ⟨Deed.noConfusion, rfl⟩⟩
  | clearDynamic =>
    obtain ⟨ctx', s', ran, rfl, rfl⟩ := change failed
    obtain ⟨rfl, kept, enabled, known⟩ := Tenants.clearDynamic_failed atomic ran
    exact ⟨kept, .inr ⟨rfl, rfl, enabled, known⟩⟩

/-- Over a store whose calls fail in any pattern, a step that fails has changed nothing that is kept. It has changed
nothing of the task either, nor of its tenant as soon as the store answers, unless it is the step back to no tenant:
that has taken the local tenant, and the one of the user or of the session is left. -/
theorem failed_steps_keep (e : Enforcer σ) (k : CacheKeys) (faults : Nat → Option String) {t t' : Task} {deed : Deed}
    {shared shared' : Shared (Memory × Nat)} {fault : Error}
    (failed : deed.run (e.withStore (.faulty faults)) k t shared = (.failed fault, t', shared')) :
    shared'.store.1 = shared.store.1 ∧
      (deed ≠ .clearDynamic →
        t' = t ∧ e.settled t'.context shared'.store.1 = e.settled t.context shared.store.1) ∧
      (deed = .clearDynamic →
        t' = { t with context := t.context.withLocalTenant none } ∧
          (t' = t ↔ t.context.localTenant = none) ∧
          ∃ user, t.context.session.userId = some user ∧
            e.settled t'.context shared'.store.1 =
              .ok ((Text.nonBlank (shared.store.1.get? (e.tenants.key user))).or
                (Text.nonBlank t.context.session.tenantId))) := by
  have atomic : (e.withStore (.faulty faults)).tenants.store.Atomic Prod.fst := Store.faulty_atomic faults
  obtain ⟨kept, task⟩ := Deed.failed_run atomic failed
  refine ⟨kept, ?_, ?_⟩
  · intro other
    obtain ⟨-, rfl⟩ := task.resolve_right fun clears => other clears.1
    exact ⟨rfl, congrArg _ kept⟩
  · intro clears
    obtain ⟨-, rfl, enabled, user, known⟩ := task.resolve_left fun other => other.1 clears
    refine ⟨rfl, ?_, user, known, ?_⟩
    · obtain ⟨⟨session, suppression, localTenant⟩, outer⟩ := t
      simp [Context.withLocalTenant, eq_comm]
    · have settled := Enforcer.settled_eq (t.context.withLocalTenant none) enabled known
      have kept : shared'.store.1 = shared.store.1 := kept
      exact (congrArg _ kept).trans (settled shared.store.1)

/-! ## A clerk at a branch -/

namespace BranchClerk

def enforcer : Enforcer Memory where
  config := orderRules.config
  tenants := .ofTenancy orderRules.config.tenancy .memory
  directory := orderRules.directory

/-- A clerk of the head office who was sent to a branch. -/
def clerk : Task := ⟨⟨.user ⟨"clerk", some "office", none, [], false⟩, .idle, some "branch"⟩, []⟩

/-- Nothing is kept of anybody. -/
def fresh : Shared (Memory × Nat) := ⟨.none, Memory.empty, 0⟩

/-- No call of the store succeeds. -/
def outage : Nat → Option String := fun _ => some "out of order"

/-- The step back fails, and yet the clerk is back at the head office. -/
theorem clerk_sent_back : ∃ (t : Task) (shared : Shared (Memory × Nat)),
    Deed.clearDynamic.run (enforcer.withStore (.faulty outage)) ⟨"", ""⟩ clerk fresh =
        (.failed (.internal "out of order"), t, shared) ∧
      t.context.localTenant ≠ clerk.context.localTenant ∧
      enforcer.settled clerk.context fresh.store.1 = .ok (some "branch") ∧
      enforcer.settled t.context shared.store.1 = .ok (some "office") :=
  ⟨{ clerk with context := clerk.context.withLocalTenant none }, ⟨.none, Memory.empty, 1⟩, rfl, by decide, rfl, rfl⟩

/-- A switch of the user fails, and the clerk stays at the branch. -/
theorem clerk_stays : ∃ shared : Shared (Memory × Nat),
    (Deed.setDynamic "other" true).run (enforcer.withStore (.faulty outage)) ⟨"", ""⟩ clerk fresh =
        (.failed (.internal "out of order"), clerk, shared) ∧
      shared.store.1 = Memory.empty ∧
      enforcer.settled clerk.context shared.store.1 = .ok (some "branch") := by
  have failed : (Deed.setDynamic "other" true).run (enforcer.withStore (.faulty outage)) ⟨"", ""⟩ clerk fresh =
      (.failed (.internal "out of order"), clerk, ⟨.none, Memory.empty, 1⟩) := rfl
  obtain ⟨kept, stays, -⟩ := failed_steps_keep enforcer ⟨"", ""⟩ outage failed
  exact ⟨_, failed, kept, (stays nofun).2⟩

end BranchClerk

end RowAccess
