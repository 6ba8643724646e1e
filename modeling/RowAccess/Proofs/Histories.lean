import RowAccess.Proofs.Desk
/-!
# The tenant of a task as a matter of its history

What has happened at a desk is listed with the latest event first. The list says which tenant a task was
switched to, within its scopes and by its parent before it was made (`localOf`), and which one its user was
switched to by any task of the user (`switchedTo`). The effective tenant is the first of these and the
session's that is not blank, whatever the order of events was (`effective_of_history`).
-/

namespace RowAccess

variable {σ : Type}

namespace Desk

/-! ## What a history says -/

/-- The session of a task, which is that of its parent if it has one. -/
def sessionOf (n : Nat) : List Event → Option Session
  | [] => none
  | .start m session :: past => if m = n then some session else sessionOf n past
  | .fork m child :: past => if child = n then (sessionOf m past).or (sessionOf n past) else sessionOf n past
  | .on _ _ :: past | .lookup _ :: past => sessionOf n past

/-- The user of a task, if known. -/
def userOf (n : Nat) (past : List Event) : Option String := (sessionOf n past).bind Session.userId

/-- What had happened when the scope of a tenant began that a task is in. The scopes within it are not
counted, of which `inner` are left to begin. -/
def beforeScope (n : Nat) : Nat → List Event → Option (List Event)
  | _, [] => none
  | inner, .start m _ :: past => if m = n then none else beforeScope n inner past
  | inner, .fork m child :: past =>
    if child = n ∧ (sessionOf m past).isSome then none else beforeScope n inner past
  | inner, .on m (.enterTenant _) :: past =>
    if m = n then
      match inner with
      | 0 => some past
      | inner + 1 => beforeScope n inner past
    else beforeScope n inner past
  | inner, .on m .leaveTenant :: past => beforeScope n (if m = n then inner + 1 else inner) past
  | inner, _ :: past => beforeScope n inner past

theorem beforeScope_length {n : Nat} {past before : List Event} {inner : Nat}
    (begun : beforeScope n inner past = some before) : before.length ≤ past.length := by
  fun_induction beforeScope n inner past with
  | case1 => cases begun
  | case6 =>
    cases begun
    simp
  | _ => first | cases begun | (simp only [List.length_cons]; grind)

/-- The tenant that a task alone was switched to. Once a scope has ended this is the one from before it, and
a task begins with that of its parent. A user who is not known is switched with the task alone. -/
def localOf (n : Nat) : List Event → Option String
  | [] => none
  | .start m _ :: past => if m = n then none else localOf n past
  | .fork m child :: past =>
    if child = n ∧ (sessionOf m past).isSome then localOf m past else localOf n past
  | .on m (.setDynamic tenant forUser) :: past =>
    if m = n ∧ (forUser = false ∨ userOf n past = none) then some tenant else localOf n past
  | .on m .clearDynamic :: past => if m = n then none else localOf n past
  | .on m (.enterTenant tenant) :: past => if m = n then some tenant else localOf n past
  | .on m .leaveTenant :: past =>
    if m = n then
      match _begun : beforeScope n 0 past with
      | some before => localOf n before
      | none => localOf n past
    else localOf n past
  | .on _ (.call _) :: past | .on _ (.ask _) :: past | .lookup _ :: past => localOf n past
termination_by past => past.length
decreasing_by
  all_goals simp only [List.length_cons]
  all_goals first | omega | exact Nat.lt_succ_of_le (beforeScope_length _begun)

/-- Once a scope has ended the tenant is the one from before it. -/
theorem localOf_leave (n : Nat) (past : List Event) :
    localOf n (.on n .leaveTenant :: past) =
      ((beforeScope n 0 past).map (localOf n)).getD (localOf n past) := by
  rw [localOf, if_pos rfl]
  split
  case h_1 before begun => rw [begun, Option.map_some, Option.getD_some]
  case h_2 begun => rw [begun, Option.map_none, Option.getD_none]

/-- The tenant that a user is switched to, by the last task of the user to switch the user to one or back;
`initially` if there is none. -/
def switchedTo (initially : Option String) (user : String) : List Event → Option String
  | [] => initially
  | .on m (.setDynamic tenant true) :: past =>
    if userOf m past = some user then some tenant else switchedTo initially user past
  | .on m .clearDynamic :: past =>
    if userOf m past = some user then none else switchedTo initially user past
  | _ :: past => switchedTo initially user past

/-- The tenant of a task: the first that is not blank of the one that it was switched to, the one that its user
was switched to, and the one of its session. -/
def tenantOf (initially : String → Option String) (n : Nat) (past : List Event) : Option String :=
  [localOf n past,
    (userOf n past).bind fun user => switchedTo (initially user) user past,
    (sessionOf n past).bind Session.tenantId].findSome? Text.nonBlank

end Desk

/-! ## Tenants under a store that keeps what it is given -/

namespace Tenants

variable {t : Tenants σ} {view : σ → String → Option String}

/-- The first tenant that is not blank: that of the context, of its user, or of its session. -/
theorem effective_kept (enabled : t.enabled = true) (keeps : t.store.Keeps view) (ctx : Context) (s : σ) :
    ((t.effective ctx).run.run s).1 = .ok ([ctx.localTenant,
      ctx.session.userId.bind fun user => view s (t.key user),
      ctx.session.tenantId].findSome? Text.nonBlank) := by
  rw [effective_eq, enabled, if_neg Bool.true_eq_false.mp, keyOf?]
  simp only [List.findSome?_cons, List.findSome?_nil]
  cases Text.nonBlank ctx.localTenant with
  | some tenant => rfl
  | none =>
    cases ctx.session.userId with
    | none => cases Text.nonBlank ctx.session.tenantId <;> rfl
    | some user =>
      have got : (call (t.store.get (t.key user))).run.run s =
          (.ok (view s (t.key user)), ((t.store.get (t.key user)).run.run s).2) := by
        change (((t.store.get (t.key user)).run.run s).1.mapError Error.internal, _) = _
        rw [(keeps.get (t.key user) s).1]
        rfl
      simp only [Option.map_some, Option.bind_some]
      rw [ExceptT.run_bind, StateT.run_bind, got]
      change Except.ok ((Text.nonBlank (view s (t.key user))).or _) = _
      cases Text.nonBlank (view s (t.key user)) with
      | some tenant => rfl
      | none => cases Text.nonBlank ctx.session.tenantId <;> rfl

end Tenants

/-! ## Desks follow their history -/

namespace Desk

open Tenants

variable {e : Enforcer σ} {k : CacheKeys} {n m : Nat} {past : List Event} {t : Task}

/-- A task is as its history says. -/
structure TaskOf (n : Nat) (past : List Event) (t : Task) : Prop where
  session : sessionOf n past = some t.context.session
  localTenant : t.context.localTenant = localOf n past
  outer : ∀ inner : Nat, t.outer[inner]? = (beforeScope n inner past).map (localOf n)

/-- An event after which a history says of a task what it said before. -/
structure Beside (n : Nat) (past : List Event) (event : Event) : Prop where
  session : sessionOf n (event :: past) = sessionOf n past
  localTenant : localOf n (event :: past) = localOf n past
  scopes : ∀ inner, beforeScope n inner (event :: past) = beforeScope n inner past

namespace Beside

attribute [local simp] sessionOf localOf beforeScope

theorem start (ne : m ≠ n) (session : Session) : Beside n past (.start m session) := by
  constructor <;> simp [ne]

theorem fork {child : Nat} (other : child ≠ n ∨ sessionOf m past = none) :
    Beside n past (.fork m child) := by
  constructor <;> rcases other with ne | absent <;> simp_all

theorem on (ne : m ≠ n) (deed : Deed) : Beside n past (.on m deed) := by
  constructor <;> cases deed <;> simp [ne]

theorem lookup (operation : String) : Beside n past (.lookup operation) := by
  constructor <;> simp

theorem call (c : Suppression.Call) : Beside n past (.on m (.call c)) := by
  constructor <;> simp

theorem ask (q : Question) : Beside n past (.on m (.ask q)) := by
  constructor <;> simp

/-- The task of a user who is known can switch its user instead of itself. -/
theorem setDynamic {user : String} (known : userOf n past = some user) (tenant : String) :
    Beside n past (.on n (.setDynamic tenant true)) := by
  constructor <;> simp [known]

end Beside

namespace TaskOf

theorem userOf_eq (h : TaskOf n past t) : userOf n past = t.context.session.userId := by
  rw [userOf, h.session, Option.bind_some]

theorem start (n : Nat) (session : Session) (past : List Event) :
    TaskOf n (.start n session :: past) ⟨.start session, []⟩ where
  session := by simp [sessionOf, Context.start]
  localTenant := by simp [localOf, Context.start]
  outer inner := by simp [beforeScope]

theorem fork (h : TaskOf n past t) (child : Nat) :
    TaskOf child (.fork n child :: past) ⟨t.context.fork, []⟩ where
  session := by simp [sessionOf, h.session, Context.fork]
  localTenant := by simp [localOf, h.session, h.localTenant, Context.fork]
  outer inner := by simp [beforeScope, h.session]

/-- Nothing is said of a task, and at most its suppression changes. -/
theorem keep (h : TaskOf n past t) {event : Event} (beside : Beside n past event) {ctx : Context}
    (session : ctx.session = t.context.session) (localTenant : ctx.localTenant = t.context.localTenant) :
    TaskOf n (event :: past) { t with context := ctx } where
  session := by
    rw [beside.session, session]
    exact h.session
  localTenant := by rw [localTenant, beside.localTenant, h.localTenant]
  outer inner := by
    rw [beside.scopes]
    exact h.outer inner

/-- A task switches itself. -/
theorem switch (h : TaskOf n past t) {deed : Deed} {tenant : Option String}
    (switched : localOf n (.on n deed :: past) = tenant)
    (within : ∀ inner, beforeScope n inner (.on n deed :: past) = beforeScope n inner past) :
    TaskOf n (.on n deed :: past) { t with context := t.context.withLocalTenant tenant } where
  session := h.session
  localTenant := switched.symm
  outer inner := by
    rw [within]
    exact h.outer inner

/-- Whatever a task does makes it what its history says then. -/
theorem deed (h : TaskOf n past t) (enabled : e.tenants.enabled = true) (deed : Deed) (shared : Shared σ) :
    TaskOf n (.on n deed :: past) (deed.run e k t shared).2.1 := by
  have user := h.userOf_eq
  cases deed with
  | call c => exact h.keep (.call c) rfl rfl
  | ask q => exact h.keep (.ask q) rfl rfl
  | setDynamic tenant forUser =>
    by_cases unshared : forUser = false ∨ t.context.session.userId = none
    · simp only [Deed.run, Task.change, setDynamic_local enabled unshared]
      exact h.switch (by simp [localOf, user, unshared]) (by simp [beforeScope])
    · obtain ⟨forUser, known⟩ := not_or.mp unshared
      obtain ⟨name, known⟩ := Option.ne_none_iff_exists'.mp known
      rw [Bool.not_eq_false] at forUser
      subst forUser
      simp only [Deed.run, Task.change, setDynamic_user enabled known]
      exact h.keep (.setDynamic (user.trans known) tenant) rfl rfl
  | clearDynamic =>
    cases known : t.context.session.userId with
    | none =>
      simp only [Deed.run, Task.change, clearDynamic_anonymous enabled known]
      exact h.switch (by simp [localOf]) (by simp [beforeScope])
    | some name =>
      simp only [Deed.run, Task.change, clearDynamic_user enabled known]
      exact h.switch (by simp [localOf]) (by simp [beforeScope])
  | enterTenant tenant =>
    simp only [Deed.run, enter, enabled, if_true]
    refine ⟨h.session, by simp [localOf, Context.withLocalTenant], ?_⟩
    intro inner
    cases inner with
    | zero => simp [beforeScope, h.localTenant]
    | succ inner => simpa [beforeScope] using h.outer inner
  | leaveTenant =>
    have left := localOf_leave n past
    rw [← h.outer 0, ← h.localTenant] at left
    have outer (inner : Nat) : t.outer.tail[inner]? =
        (beforeScope n inner (.on n .leaveTenant :: past)).map (localOf n) := by
      rw [List.getElem?_tail, h.outer, beforeScope, if_pos rfl]
    cases scopes : t.outer with
    | nil =>
      rw [scopes] at left outer
      simp only [Deed.run, scopes]
      refine ⟨h.session, left.symm, ?_⟩
      rw [scopes]
      exact outer
    | cons before scopes' =>
      rw [scopes] at left outer
      simp only [Deed.run, scopes, leave, enabled, if_true]
      exact ⟨h.session, left.symm, outer⟩

end TaskOf

/-- The lookups are sound, and for each user the store holds the tenant that the user is switched to. -/
structure Holds (e : Enforcer σ) (view : σ → String → Option String) (initially : String → Option String)
    (past : List Event) (shared : Shared σ) : Prop where
  sound : shared.lookups.Sound e.config.operations
  users : ∀ user, view shared.store (e.tenants.key user) = switchedTo (initially user) user past

section

variable {view : σ → String → Option String} {initially : String → Option String} {shared : Shared σ}

/-- Nothing that a task does switches a user other than by the calls for it. -/
theorem Holds.keep (holds : Holds e view initially past shared) {event : Event}
    (same : ∀ user, switchedTo (initially user) user (event :: past) =
      switchedTo (initially user) user past) :
    Holds e view initially (event :: past) shared where
  sound := holds.sound
  users user := by rw [same, holds.users]

/-- A call that switches a user, and no other one. -/
theorem Holds.write (holds : Holds e view initially past shared) {event : Event} {name : String}
    {value : Option String} {store : σ}
    (written : view store = Function.update (view shared.store) (e.tenants.key name) value)
    (switched : ∀ user, switchedTo (initially user) user (event :: past) =
      if name = user then value else switchedTo (initially user) user past) :
    Holds e view initially (event :: past) { shared with store } where
  sound := holds.sound
  users user := by
    rw [switched, written]
    by_cases same : name = user
    · rw [same, if_pos rfl, Function.update_self]
    · rw [if_neg same, Function.update_of_ne (e.tenants.key_injective.ne (Ne.symm same)), holds.users]

theorem Holds.deed (holds : Holds e view initially past shared) (enabled : e.tenants.enabled = true)
    (keeps : e.tenants.store.Keeps view) (task : TaskOf n past t) (deed : Deed) :
    Holds e view initially (.on n deed :: past) (deed.run e k t shared).2.2 := by
  have user := task.userOf_eq
  cases deed with
  | call c => exact holds.keep fun user => by simp [switchedTo]
  | enterTenant tenant => exact holds.keep fun user => by simp [switchedTo]
  | leaveTenant =>
    simp only [Deed.run]
    cases t.outer <;> exact holds.keep fun user => by simp [switchedTo]
  | ask q =>
    obtain ⟨key, readsAt⟩ := Store.Keyed.readable keeps.keyed t.context
    obtain ⟨sound, kept⟩ := (q.private_answer readsAt k).keeps shared holds.sound
    have after : Holds e view initially past ((q.answer e k t.context).run shared).2 :=
      ⟨sound, fun user => (congrFun kept _).trans (holds.users user)⟩
    exact after.keep fun user => by simp [switchedTo]
  | setDynamic tenant forUser =>
    by_cases unshared : forUser = false ∨ t.context.session.userId = none
    · simp only [Deed.run, Task.change, setDynamic_local enabled unshared]
      refine holds.keep fun other => ?_
      rcases unshared with rfl | unknown
      · simp [switchedTo]
      · cases forUser <;> simp [switchedTo, user, unknown]
    · obtain ⟨forUser, known⟩ := not_or.mp unshared
      obtain ⟨name, known⟩ := Option.ne_none_iff_exists'.mp known
      rw [Bool.not_eq_false] at forUser
      subst forUser
      simp only [Deed.run, Task.change, setDynamic_user enabled known]
      exact holds.write (keeps.set _ tenant shared.store).2 fun other => by simp [switchedTo, user, known]
  | clearDynamic =>
    cases known : t.context.session.userId with
    | none =>
      simp only [Deed.run, Task.change, clearDynamic_anonymous enabled known]
      exact holds.keep fun other => by simp [switchedTo, user, known]
    | some name =>
      simp only [Deed.run, Task.change, clearDynamic_user enabled known]
      exact holds.write (keeps.delete _ shared.store).2 fun other => by simp [switchedTo, user, known]

theorem switchedTo_absent (absent : sessionOf m past = none) (deed : Deed) (initially : Option String)
    (user : String) : switchedTo initially user (.on m deed :: past) = switchedTo initially user past := by
  have unknown : userOf m past = none := by rw [userOf, absent, Option.bind_none]
  cases deed with
  | setDynamic tenant forUser => cases forUser <;> simp [switchedTo, unknown]
  | _ => simp [switchedTo, unknown]

/-- The tasks and the store of a desk are as its history says. -/
structure Follows (e : Enforcer σ) (view : σ → String → Option String) (initially : String → Option String)
    (past : List Event) (d : Desk σ) : Prop where
  tasks : ∀ n t, d.tasks n = some t → TaskOf n past t
  absent : ∀ n, d.tasks n = none → sessionOf n past = none
  holds : Holds e view initially past d.shared

theorem Follows.empty (e : Enforcer σ) (view : σ → String → Option String) (store : σ) :
    Follows e view (fun user => view store (e.tenants.key user)) [] (Desk.empty store) where
  tasks n t found := by cases found
  absent n _ := rfl
  holds := ⟨Lookups.sound_none _, fun _ => rfl⟩

/-- A new task at a desk, or a task that has done something. -/
theorem Follows.put {d : Desk σ} (h : Follows e view initially past d) {event : Event}
    (task : TaskOf n (event :: past) t) (others : ∀ m ≠ n, Beside m past event)
    (holds : Holds e view initially (event :: past) shared) :
    Follows e view initially (event :: past) ({ d with shared }.put n t) where
  tasks m t' found := by
    rw [tasks_put] at found
    by_cases same : m = n
    · subst same
      rw [if_pos rfl, Option.some.injEq] at found
      exact found ▸ task
    · rw [if_neg same] at found
      exact (h.tasks m t' found).keep (others m same) rfl rfl
  absent m missing := by
    rw [tasks_put] at missing
    by_cases same : m = n
    · rw [if_pos same] at missing
      cases missing
    · rw [if_neg same] at missing
      rw [(others m same).session, h.absent m missing]
  holds := holds

/-- An event that changes no task. -/
theorem Follows.keep {d : Desk σ} (h : Follows e view initially past d) {event : Event}
    (beside : ∀ m, (d.tasks m).isSome → Beside m past event)
    (absent : ∀ m, sessionOf m past = none → sessionOf m (event :: past) = none)
    (holds : Holds e view initially (event :: past) shared) :
    Follows e view initially (event :: past) { d with shared } where
  tasks m t found := (h.tasks m t found).keep (beside m (by rw [found]; rfl)) rfl rfl
  absent m missing := absent m (h.absent m missing)
  holds := holds

/-- Whatever happens at a desk makes it what its history says then. -/
theorem Follows.step {d : Desk σ} (enabled : e.tenants.enabled = true) (keeps : e.tenants.store.Keeps view)
    (h : Follows e view initially past d) (event : Event) :
    Follows e view initially (event :: past) (d.step e k event).2 := by
  cases event with
  | start n session =>
    refine h.put (.start n session past) ?_ (h.holds.keep fun user => by simp [switchedTo])
    intro m ne
    exact .start (Ne.symm ne) session
  | fork n child =>
    have same (user : String) : switchedTo (initially user) user (.fork n child :: past) =
        switchedTo (initially user) user past := by simp [switchedTo]
    cases found : d.tasks n with
    | none =>
      have absent := h.absent n found
      simp only [Desk.step, found]
      exact h.keep (fun m _ => .fork (.inr absent)) (fun m none => by simp [sessionOf, absent, none])
        (h.holds.keep same)
    | some t =>
      simp only [Desk.step, found]
      refine h.put ((h.tasks n t found).fork child) ?_ (h.holds.keep same)
      intro m ne
      exact .fork (.inl (Ne.symm ne))
  | on n deed =>
    cases found : d.tasks n with
    | none =>
      have absent := h.absent n found
      simp only [Desk.step, found]
      refine h.keep ?_ (fun m none => none) (h.holds.keep fun user => switchedTo_absent absent deed _ user)
      intro m present
      refine .on ?_ deed
      rintro rfl
      rw [found] at present
      cases present
    | some t =>
      have task := h.tasks n t found
      simp only [Desk.step, found]
      refine h.put (task.deed enabled deed d.shared) ?_ (h.holds.deed enabled keeps task deed)
      intro m ne
      exact .on (Ne.symm ne) deed
  | lookup operation =>
    refine h.keep (fun m _ => .lookup operation) (fun m none => none) ?_
    have after : Holds e view initially past { d.shared with
        lookups := ((e.declared operation).run d.shared.lookups).2 } :=
      ⟨(e.declared_answer h.holds.sound operation).2, h.holds.users⟩
    exact after.keep fun user => by simp [switchedTo]

theorem Follows.after {d : Desk σ} (enabled : e.tenants.enabled = true) (keeps : e.tenants.store.Keeps view)
    (h : Follows e view initially past d) (events : List Event) :
    Follows e view initially (events.reverse ++ past) (d.after e k events) := by
  refine after_induction ?_ h events
  intro past d event h
  exact h.step enabled keeps event

end

/-! ## Tenancy that is not enabled -/

/-- Whatever a task does while tenancy is disabled, the store stays as it is. -/
theorem deed_disabled (disabled : e.tenants.enabled = false) (t : Task) {shared : Shared σ}
    (sound : shared.lookups.Sound e.config.operations) (deed : Deed) :
    (deed.run e k t shared).2.2.lookups.Sound e.config.operations ∧
      (deed.run e k t shared).2.2.store = shared.store := by
  cases deed with
  | call c => exact ⟨sound, rfl⟩
  | enterTenant tenant => exact ⟨sound, rfl⟩
  | leaveTenant =>
    simp only [Deed.run]
    cases t.outer <;> exact ⟨sound, rfl⟩
  | setDynamic tenant forUser =>
    simpa only [Deed.run, Task.change, setDynamic_disabled disabled, and_true] using sound
  | clearDynamic =>
    simpa only [Deed.run, Task.change, clearDynamic_disabled disabled, and_true] using sound
  | ask q =>
    -- All of the store is in view, and nothing of it is read.
    have readsAt : e.tenants.ReadsAt (fun store (_ : String) => store) "" t.context := by
      intro enabled
      rw [disabled] at enabled
      cases enabled
    obtain ⟨sound, kept⟩ := (q.private_answer readsAt k).keeps shared sound
    exact ⟨sound, congrFun kept ""⟩

/-- The store is as it was before, and no lookup is wrong. -/
structure Rests (e : Enforcer σ) (store : σ) (d : Desk σ) : Prop where
  sound : d.shared.lookups.Sound e.config.operations
  same : d.shared.store = store

theorem Rests.step {d : Desk σ} {store : σ} (disabled : e.tenants.enabled = false) (rests : Rests e store d)
    (event : Event) : Rests e store (d.step e k event).2 := by
  cases event with
  | start n session => exact ⟨rests.sound, rests.same⟩
  | fork n child =>
    simp only [Desk.step]
    cases d.tasks n <;> exact ⟨rests.sound, rests.same⟩
  | on n deed =>
    simp only [Desk.step]
    cases d.tasks n with
    | none => exact rests
    | some t =>
      obtain ⟨sound, same⟩ := deed_disabled (k := k) disabled t rests.sound deed
      exact ⟨sound, same.trans rests.same⟩
  | lookup operation => exact ⟨(e.declared_answer rests.sound operation).2, rests.same⟩

theorem after_disabled (disabled : e.tenants.enabled = false) (store : σ) (events : List Event) :
    ((Desk.empty store).after e k events).shared.store = store := by
  have start : Rests e store (Desk.empty store) := ⟨Lookups.sound_none _, rfl⟩
  have step (past : List Event) (d : Desk σ) (event : Event) (h : Rests e store d) :
      Rests e store (d.step e k event).2 := h.step disabled event
  exact (@after_induction σ e k (fun _ d => Rests e store d) step [] _ start events).same

/-! ## The effective tenant -/

/-- The effective tenant of a task is the one that its history says, whatever the other tasks did meanwhile,
and it is not blank. With tenancy disabled there is none, and the store, which may count its calls, is as it
was. -/
theorem effective_of_history (e : Enforcer σ) (k : CacheKeys) (store : σ) (events : List Event) {n : Nat}
    {t : Task} (known : ((Desk.empty store).after e k events).tasks n = some t) :
    let d := (Desk.empty store).after e k events
    let answer := (d.step e k (.on n (.ask .effective))).1
    (e.tenants.enabled = true → ∀ view, e.tenants.store.Keeps view →
      let tenant := tenantOf (fun user => view store (e.tenants.key user)) n events.reverse
      answer = .text tenant ∧ ∀ name ∈ tenant, Text.isBlank name = false) ∧
    (e.tenants.enabled = false → answer = .text none ∧ d.shared.store = store) := by
  intro d answer
  have found : d.tasks n = some t := known
  have answered : answer = answerOf .text ((e.tenants.effective t.context).run.run d.shared.store).1 := by
    change (d.step e k (.on n (.ask .effective))).1 = _
    simp only [Desk.step, found, Deed.run, Question.answer, Enforcing.told_storing]
  constructor
  · intro enabled view keeps tenant
    have follows := (Follows.empty e view store).after (k := k) enabled keeps events
    rw [List.append_nil] at follows
    have task := follows.tasks n t known
    have said : tenant = [t.context.localTenant,
        t.context.session.userId.bind fun user => view d.shared.store (e.tenants.key user),
        t.context.session.tenantId].findSome? Text.nonBlank := by
      change tenantOf _ n events.reverse = _
      simp only [tenantOf, ← task.localTenant, task.userOf_eq, task.session, Option.bind_some]
      exact congrArg (fun tenants => [_, t.context.session.userId.bind tenants, _].findSome? Text.nonBlank)
        (funext fun user => (follows.holds.users user).symm)
    constructor
    · rw [answered, effective_kept enabled keeps, said]
      rfl
    · intro name member
      rw [said, Option.mem_def] at member
      obtain ⟨candidate, -, kept⟩ := List.exists_of_findSome?_eq_some member
      simpa using (Option.filter_eq_some_iff.mp kept).2
  · intro disabled
    refine ⟨?_, after_disabled disabled store events⟩
    rw [answered, effective, disabled]
    rfl

/-! ## A shift at the desk -/

namespace Shift

/-- An enforcer over a store in memory, with tenancy enabled or not. -/
def enforcer (enabled : Bool) : Enforcer Memory where
  config := { tenancy := { enabled } }
  tenants := ⟨enabled, "global:", Store.memory⟩
  directory := Departments.directory ⟨[], []⟩

def keys : CacheKeys := ⟨"", "global:"⟩

def clerk : Session := .user ⟨"clerk", some "home", none, [], false⟩

/-- A clerk forks a task within a scope. Another task of the clerk switches the user and then itself, to a
tenant that is blank. Somebody unknown would switch the user too. -/
def events : List Event :=
  [.start 0 clerk, .start 1 clerk, .on 0 (.enterTenant "visit"), .fork 0 2,
    .on 1 (.setDynamic "branch" true), .on 0 .leaveTenant, .on 1 (.setDynamic " " false),
    .start 3 .anonymous, .on 3 (.setDynamic "elsewhere" true)]

/-- The answer to a task that asks for its tenant after the events. -/
def tenantAfter (enabled : Bool) (n : Nat) : Script.Answer :=
  ((Desk.after (enforcer enabled) keys (.empty .empty) events).step (enforcer enabled) keys
    (.on n (.ask .effective))).1

/-- The scope has ended for the first task but not for its child, and the clerk is at the branch. -/
theorem clerk_at_branch :
    tenantAfter true 0 = .text (some "branch") ∧ tenantAfter true 1 = .text (some "branch") ∧
      tenantAfter true 2 = .text (some "visit") ∧ tenantAfter true 3 = .text (some "elsewhere") ∧
      tenantAfter false 0 = .text none := by
  have known : ∀ enabled, ∀ n < 4,
      ((Desk.after (enforcer enabled) keys (.empty .empty) events).tasks n).isSome = true := by decide
  have tenants : ∀ n < 4, tenantOf (fun _ => none) n events.reverse =
      ["branch", "branch", "visit", "elsewhere"][n]? := by decide +kernel
  have told (n : Nat) (small : n < 4) :
      tenantAfter true n = .text (tenantOf (fun _ => none) n events.reverse) := by
    obtain ⟨t, found⟩ := Option.isSome_iff_exists.mp (known true n small)
    exact ((effective_of_history (enforcer true) keys .empty events found).1 rfl Memory.get?
      Store.memory_keeps).1
  obtain ⟨t, found⟩ := Option.isSome_iff_exists.mp (known false 0 (by decide))
  refine ⟨?_, ?_, ?_, ?_, ((effective_of_history (enforcer false) keys .empty events found).2 rfl).1⟩
  all_goals
    rw [told _ (by decide), tenants _ (by decide)]
    rfl

end Shift

end Desk

end RowAccess
