import RowAccess.Proofs.Desk
/-!
# Users at a desk

Users do not notice each other: without the steps of all other users, and of callers who are not known, the
tasks of a user are given the same answers. Tasks of one user notice of each other only what they switch the
user to, and a child the tenant of its parent (`users_apart`).

A statement is handed over with each step that is about it, and handed back with the answer, so nobody shares
one.
-/

namespace RowAccess

open Script (Answer)

variable {σ κ β γ : Type} {e : Enforcer σ} {k : CacheKeys} {view : σ → String → κ} {u : String} {t : Task}

/-- Whether a call was made without a failure. -/
def Script.Answer.isDone : Answer → Bool
  | .done => true
  | _ => false

/-! ## What is shared, as a user sees it -/

/-- The user is given the same by the one and by the other. -/
structure Shared.Alike (e : Enforcer σ) (view : σ → String → κ) (u : String) (x y : Shared σ) : Prop where
  sound : x.lookups.Sound e.config.operations
  sound' : y.lookups.Sound e.config.operations
  held : view x.store (e.tenants.key u) = view y.store (e.tenants.key u)

namespace Shared.Alike

variable {x y : Shared σ}

theorem symm (alike : Alike e view u x y) : Alike e view u y x :=
  ⟨alike.sound', alike.sound, alike.held.symm⟩

theorem lookup (alike : Alike e view u x y) (operation : String) :
    Alike e view u { x with lookups := ((e.declared operation).run x.lookups).2 } y :=
  ⟨(e.declared_answer alike.sound operation).2, alike.sound', alike.held⟩

/-- Nobody notices a question. -/
theorem ask (keyed : e.tenants.store.Keyed view) (alike : Alike e view u x y) (q : Question) :
    Alike e view u ((q.answer e k t.context).run x).2 y := by
  obtain ⟨key, readsAt⟩ := Store.Keyed.readable keyed t.context
  obtain ⟨sound, kept⟩ := (q.private_answer readsAt k).keeps x alike.sound
  exact ⟨sound, alike.sound', (congrFun kept _).trans alike.held⟩

/-- Nobody else notices what a task does. -/
theorem elsewhere (keyed : e.tenants.store.Keyed view) (alike : Alike e view u x y)
    (other : t.context.session.userId ≠ some u) (deed : Deed) :
    Alike e view u (deed.run e k t x).2.2 y := by
  rcases deed.ask_or_acts with ⟨q, rfl⟩ | acts
  · exact alike.ask keyed q
  · obtain ⟨t', -, ran⟩ := Deed.switches_of_acts (e := e) (k := k) acts t
    rw [ran]
    cases writes : deed.write? e t.context.session with
    | none => exact alike
    | some write =>
      obtain ⟨user, value, known, -, written⟩ := Deed.write?_keyed keyed writes
      have ne : user ≠ u := by
        rintro rfl
        exact other known
      exact ⟨alike.sound, alike.sound', (written.elsewhere _ _ (e.tenants.key_injective.ne ne.symm)).trans
        alike.held⟩

/-- The user is given the same answer, and the same from then on. -/
theorem here (keyed : e.tenants.store.Keyed view) (alike : Alike e view u x y)
    (own : t.context.session.userId = some u) (deed : Deed) :
    (deed.run e k t x).1 = (deed.run e k t y).1 ∧
      Alike e view u (deed.run e k t x).2.2 (deed.run e k t y).2.2 := by
  rcases deed.ask_or_acts with ⟨q, rfl⟩ | acts
  · have readsAt : e.tenants.ReadsAt view (e.tenants.key u) t.context :=
      keyed.readsAt fun user known => by rw [Option.some.inj (known.symm.trans own)]
    exact ⟨(q.private_answer readsAt k).same x y alike.sound alike.sound' alike.held,
      ((alike.ask keyed q).symm.ask keyed q).symm⟩
  · obtain ⟨t', -, ran⟩ := Deed.switches_of_acts (e := e) (k := k) acts t
    rw [ran, ran]
    cases writes : deed.write? e t.context.session with
    | none => exact ⟨rfl, alike⟩
    | some write =>
      obtain ⟨user, value, known, -, written⟩ := Deed.write?_keyed keyed writes
      cases Option.some.inj (known.symm.trans own)
      obtain ⟨answer, held⟩ := written.here _ _ alike.held
      refine ⟨?_, alike.sound, alike.sound', held⟩
      simp only [Deed.switching]
      rw [answer]

/-- Other tasks of the user do not notice a step that does not switch the user, or fails to. -/
theorem unnoticed (keyed : e.tenants.store.Keyed view) (alike : Alike e view u x y) {deed : Deed}
    (quiet : deed.switch? = none ∨ (deed.run e k t x).1.isDone = false) :
    Alike e view u (deed.run e k t x).2.2 y := by
  rcases deed.ask_or_acts with ⟨q, rfl⟩ | acts
  · exact alike.ask keyed q
  · obtain ⟨t', -, ran⟩ := Deed.switches_of_acts (e := e) (k := k) acts t
    rw [ran] at quiet ⊢
    cases writes : deed.write? e t.context.session with
    | none => exact alike
    | some write =>
      obtain ⟨user, value, -, switches, written⟩ := Deed.write?_keyed keyed writes
      rw [writes, switches] at quiet
      cases result : (write.run.run x.store).1 with
      | ok done => simp [Deed.switching, result, Except.mapError, answerOf, Answer.isDone] at quiet
      | error fault =>
        exact ⟨alike.sound, alike.sound', (congrFun (written.failing _ fault result) _).trans alike.held⟩

/-- It does not matter which tasks of the user switch the user to the same tenant. -/
theorem switched (keyed : e.tenants.store.Keyed view) (alike : Alike e view u x y) {t t' : Task}
    (own : t.context.session.userId = some u) (own' : t'.context.session.userId = some u) {deed deed' : Deed}
    {value : Option String} (switches : deed.switch? = some value) (switches' : deed'.switch? = some value) :
    Alike e view u (deed.run e k t x).2.2 (deed'.run e k t' y).2.2 := by
  have acts {deed : Deed} (switches : deed.switch? = some value) (q : Question) : deed ≠ .ask q := by
    rintro rfl
    cases switches
  obtain ⟨_, -, ran⟩ := Deed.switches_of_acts (e := e) (k := k) (acts switches) t
  obtain ⟨_, -, ran'⟩ := Deed.switches_of_acts (e := e) (k := k) (acts switches') t'
  have same : deed'.write? e t'.context.session = deed.write? e t.context.session := by
    simp [Deed.write?, switches, switches', Tenants.keyOf?, own, own']
  rw [ran, ran', same]
  cases writes : deed.write? e t.context.session with
  | none => exact alike
  | some write =>
    obtain ⟨user, -, known, -, written⟩ := Deed.write?_keyed keyed writes
    cases Option.some.inj (known.symm.trans own)
    exact ⟨alike.sound, alike.sound', (written.here _ _ alike.held).2⟩

end Shared.Alike

namespace Desk

/-! ## What is heard at a desk -/

/-- The user of a task, if known. -/
def user? (d : Desk σ) (n : Nat) : Option String := (d.tasks n).bind (·.context.session.userId)

/-- What somebody hears who listens to all events. -/
def heard (e : Enforcer σ) (k : CacheKeys) (listen : Desk σ → Event → Option β) : Desk σ → List Event → List β
  | _, [] => []
  | d, event :: events => (listen d event).toList ++ heard e k listen (d.step e k event).2 events

theorem heard_cons (listen : Desk σ → Event → Option β) (d : Desk σ) (event : Event) (events : List Event) :
    heard e k listen d (event :: events) =
      (listen d event).toList ++ heard e k listen (d.step e k event).2 events := rfl

/-- Whether an event is a step of a task of the user, or makes one. -/
def concerns (d : Desk σ) (u : String) : Event → Bool
  | .start _ session => session.userId == some u
  | .fork n _ | .on n _ => d.user? n == some u
  | .lookup _ => false

/-- The event, if it concerns the user. -/
def own (u : String) (d : Desk σ) (event : Event) : Option Event :=
  if d.concerns u event then some event else none

/-- The answer, if the event concerns the user. -/
def told (e : Enforcer σ) (k : CacheKeys) (u : String) (d : Desk σ) (event : Event) : Option Answer :=
  if d.concerns u event then some (d.step e k event).1 else none

/-! ## Without the steps of others -/

/-- The second desk is the same to the user. It may lack tasks of others. -/
structure Shows (e : Enforcer σ) (view : σ → String → κ) (u : String) (d d' : Desk σ) : Prop where
  shared : d.shared.Alike e view u d'.shared
  tasks : ∀ n, d.user? n = some u → d'.tasks n = d.tasks n

namespace Shows

variable {d d' : Desk σ}

/-- The task of somebody else need not be there. -/
theorem put_other (shows : Shows e view u d d') {shared : Shared σ} (alike : shared.Alike e view u d'.shared)
    (other : t.context.session.userId ≠ some u) (n : Nat) :
    Shows e view u ({ d with shared }.put n t) d' where
  shared := alike
  tasks m mine := by
    rw [user?, tasks_put] at mine
    rw [tasks_put]
    by_cases same : m = n
    · rw [if_pos same] at mine
      exact absurd mine other
    · rw [if_neg same] at mine ⊢
      exact shows.tasks m mine

theorem put_both (shows : Shows e view u d d') {shared shared' : Shared σ}
    (alike : shared.Alike e view u shared') (n : Nat) (t : Task) :
    Shows e view u ({ d with shared }.put n t) ({ d' with shared := shared' }.put n t) where
  shared := alike
  tasks m mine := by
    rw [user?, tasks_put] at mine
    rw [tasks_put, tasks_put]
    by_cases same : m = n
    · rw [if_pos same, if_pos same]
    · rw [if_neg same] at mine ⊢
      rw [if_neg same]
      exact shows.tasks m mine

/-- What does not concern the user can be left out. -/
theorem leave_out (keyed : e.tenants.store.Keyed view) (shows : Shows e view u d d') {event : Event}
    (other : d.concerns u event = false) : Shows e view u (d.step e k event).2 d' := by
  cases event with
  | start n session => exact shows.put_other shows.shared (by simpa [concerns, Context.start] using other) n
  | lookup operation => exact ⟨shows.shared.lookup operation, shows.tasks⟩
  | fork n child =>
    cases found : d.tasks n with
    | none => simpa only [Desk.step, found] using shows
    | some t =>
      simp only [Desk.step, found]
      exact shows.put_other shows.shared (by simpa [concerns, user?, found, Context.fork] using other) child
  | on n deed =>
    cases found : d.tasks n with
    | none => simpa only [Desk.step, found] using shows
    | some t =>
      have other : t.context.session.userId ≠ some u := by simpa [concerns, user?, found] using other
      simp only [Desk.step, found]
      refine shows.put_other (shows.shared.elsewhere keyed other deed) ?_ n
      rw [deed.run_session]
      exact other

/-- What concerns the user is answered in the same way. -/
theorem take_in (keyed : e.tenants.store.Keyed view) (shows : Shows e view u d d') {event : Event}
    (mine : d.concerns u event = true) :
    told e k u d event = told e k u d' event ∧
      Shows e view u (d.step e k event).2 (d'.step e k event).2 := by
  have mine' : d'.concerns u event = true := by
    cases event with
    | start n session => exact mine
    | lookup operation => cases mine
    | fork n child | on n deed =>
      have user : d.user? n = some u := by simpa [concerns] using mine
      simpa [concerns, user?, shows.tasks n user] using user
  have step : (d.step e k event).1 = (d'.step e k event).1 ∧
      Shows e view u (d.step e k event).2 (d'.step e k event).2 := by
    cases event with
    | start n session => exact ⟨rfl, shows.put_both shows.shared n _⟩
    | lookup operation => cases mine
    | fork n child =>
      have user : d.user? n = some u := by simpa [concerns] using mine
      obtain ⟨t, found, -⟩ := Option.bind_eq_some_iff.mp user
      have found' : d'.tasks n = some t := (shows.tasks n user).trans found
      simp only [Desk.step, found, found', true_and]
      exact shows.put_both shows.shared child _
    | on n deed =>
      have user : d.user? n = some u := by simpa [concerns] using mine
      obtain ⟨t, found, own⟩ := Option.bind_eq_some_iff.mp user
      have found' : d'.tasks n = some t := (shows.tasks n user).trans found
      obtain ⟨answer, alike⟩ := shows.shared.here (k := k) keyed own deed
      simp only [Desk.step, found, found']
      rw [deed.run_task t d'.shared d.shared]
      exact ⟨answer, shows.put_both alike n _⟩
  refine ⟨?_, step.2⟩
  rw [told, told, if_pos mine, if_pos mine', step.1]

/-- All that a user is told is the same without what does not concern the user. -/
theorem told_own (keyed : e.tenants.store.Keyed view) (shows : Shows e view u d d') (events : List Event) :
    heard e k (told e k u) d' (heard e k (own u) d events) = heard e k (told e k u) d events := by
  induction events generalizing d d' with
  | nil => rfl
  | cons event events ih =>
    rw [heard_cons, heard_cons]
    cases mine : d.concerns u event with
    | false =>
      rw [own, told, mine]
      exact ih (shows.leave_out keyed mine)
    | true =>
      obtain ⟨answer, shows⟩ := shows.take_in (k := k) keyed mine
      rw [own, mine, if_pos rfl, answer]
      exact congrArg (_ ++ ·) (ih shows)

end Shows

end Desk

/-! ## Tasks of one user -/

/-- Whether a task does something, or begins for a session. -/
def Event.isOf (n : Nat) : Event → Bool
  | .start m _ | .fork m _ | .on m _ => m == n
  | .lookup _ => false

/-- What a task notices: its own steps, its begin as a child, and what other tasks switch the user to. -/
inductive Notice where
  | own (event : Event)
  | begun (session : Session) (localTenant : Option String)
  | switched (tenant : Option String)

namespace Desk

/-- What a task of a user notices of an event. -/
def notice (e : Enforcer σ) (k : CacheKeys) (n : Nat) (u : String) (d : Desk σ) (event : Event) :
    Option Notice :=
  if event.isOf n then some (.own event)
  else match event with
    | .fork m child =>
      if child = n then (d.tasks m).map fun t => .begun t.context.session t.context.localTenant else none
    | .on m deed =>
      if d.user? m = some u ∧ (d.step e k event).1.isDone then deed.switch?.map .switched else none
    | .start _ _ | .lookup _ => none

/-- The answer to a step of a task while it is the user's. -/
def answered (e : Enforcer σ) (k : CacheKeys) (n : Nat) (u : String) (d : Desk σ) (event : Event) :
    Option Answer :=
  if event.isOf n && d.user? n == some u then some (d.step e k event).1 else none

theorem notice_eq_some {n : Nat} {d : Desk σ} {event : Event} {x : Notice}
    (noticed : notice e k n u d event = some x) :
    (event.isOf n = true ∧ x = .own event) ∨
      (∃ m t, event = .fork m n ∧ event.isOf n = false ∧ d.tasks m = some t ∧
        x = .begun t.context.session t.context.localTenant) ∨
      ∃ m t deed value, event = .on m deed ∧ m ≠ n ∧ d.tasks m = some t ∧
        t.context.session.userId = some u ∧ deed.switch? = some value ∧ x = .switched value := by
  unfold notice at noticed
  cases mine : event.isOf n with
  | true =>
    rw [mine, if_pos rfl, Option.some.injEq] at noticed
    exact .inl ⟨rfl, noticed.symm⟩
  | false =>
    rw [mine, if_neg Bool.false_ne_true] at noticed
    right
    cases event with
    | start m session | lookup operation => cases noticed
    | fork m child =>
      left
      dsimp only at noticed
      by_cases same : child = n
      · subst same
        rw [if_pos rfl, Option.map_eq_some_iff] at noticed
        obtain ⟨t, found, rfl⟩ := noticed
        exact ⟨m, t, rfl, rfl, found, rfl⟩
      · rw [if_neg same] at noticed
        cases noticed
    | on m deed =>
      right
      dsimp only at noticed
      split at noticed
      case isFalse => cases noticed
      case isTrue switched =>
        obtain ⟨t, found, user⟩ := Option.bind_eq_some_iff.mp switched.1
        obtain ⟨value, switches, rfl⟩ := Option.map_eq_some_iff.mp noticed
        exact ⟨m, t, deed, value, rfl, by simpa [Event.isOf] using mine, found, user, switches, rfl⟩

/-- A task is the same at both desks, and so is what is shared to its user. -/
structure SameTask (e : Enforcer σ) (view : σ → String → κ) (u : String) (n : Nat) (d d' : Desk σ) :
    Prop where
  shared : d.shared.Alike e view u d'.shared
  task : d.tasks n = d'.tasks n

namespace SameTask

variable {n : Nat} {d d' : Desk σ}

theorem symm (same : SameTask e view u n d d') : SameTask e view u n d' d :=
  ⟨same.shared.symm, same.task.symm⟩

/-- Another task at one desk. -/
theorem put_other (same : SameTask e view u n d d') {shared : Shared σ}
    (alike : shared.Alike e view u d'.shared) {m : Nat} (other : m ≠ n) (t : Task) : SameTask e view u n ({ d with shared }.put m t) d' where
  shared := alike
  task := by
    rw [tasks_put, if_neg other.symm]
    exact same.task

/-- The same change of the task at both desks. -/
theorem put_both (same : SameTask e view u n d d') {shared shared' : Shared σ}
    (alike : shared.Alike e view u shared') (m : Nat) (t : Task) :
    SameTask e view u n ({ d with shared }.put m t) ({ d' with shared := shared' }.put m t) where
  shared := alike
  task := by
    rw [tasks_put, tasks_put]
    by_cases itself : n = m
    · rw [if_pos itself, if_pos itself]
    · rw [if_neg itself, if_neg itself]
      exact same.task

/-- Nothing changes for the task by what it does not notice. -/
theorem unnoticed (keyed : e.tenants.store.Keyed view) (same : SameTask e view u n d d') {event : Event}
    (quiet : notice e k n u d event = none) :
    SameTask e view u n (d.step e k event).2 d' ∧ answered e k n u d event = none := by
  have other : event.isOf n = false := by
    cases mine : event.isOf n with
    | false => rfl
    | true => simp [notice, mine] at quiet
  refine ⟨?_, by simp [answered, other]⟩
  cases event with
  | start m session => exact same.put_other same.shared (by simpa [Event.isOf] using other) _
  | lookup operation => exact ⟨same.shared.lookup operation, same.task⟩
  | fork m child =>
    cases found : d.tasks m with
    | none => simpa only [Desk.step, found] using same
    | some t =>
      have child_ne : child ≠ n := by
        rintro rfl
        simp [notice, other, found] at quiet
      simp only [Desk.step, found]
      exact same.put_other same.shared child_ne _
  | on m deed =>
    cases found : d.tasks m with
    | none => simpa only [Desk.step, found] using same
    | some t =>
      have ne : m ≠ n := by simpa [Event.isOf] using other
      simp only [Desk.step, found]
      refine same.put_other ?_ ne _
      by_cases own : t.context.session.userId = some u
      · refine same.shared.unnoticed keyed ?_
        simp only [notice, other, user?, found, Option.bind_some, own, Desk.step] at quiet
        by_cases done : (deed.run e k t d.shared).1.isDone = true
        · left
          simpa [done] using quiet
        · right
          simpa using done
      · exact same.shared.elsewhere keyed own deed

/-- What a task does itself is answered the same, and changes the same for it. -/
theorem itself (keyed : e.tenants.store.Keyed view) (same : SameTask e view u n d d') {event : Event}
    (mine : event.isOf n = true) :
    SameTask e view u n (d.step e k event).2 (d'.step e k event).2 ∧
      answered e k n u d event = answered e k n u d' event := by
  have users : d'.user? n = d.user? n := by rw [user?, user?, same.task]
  have task' {found : Option Task} (h : d.tasks n = found) : d'.tasks n = found := same.task.symm.trans h
  simp only [answered, mine, users]
  cases event with
  | lookup operation => cases mine
  | start m session => exact ⟨same.put_both same.shared m _, rfl⟩
  | fork m child =>
    obtain rfl : m = n := by simpa [Event.isOf] using mine
    cases found : d.tasks m with
    | none => simpa only [Desk.step, found, task' found, and_true] using same
    | some t =>
      simp only [Desk.step, found, task' found, and_true]
      exact same.put_both same.shared child _
  | on m deed =>
    obtain rfl : m = n := by simpa [Event.isOf] using mine
    cases found : d.tasks m with
    | none => simpa only [Desk.step, found, task' found, and_true] using same
    | some t =>
      simp only [Desk.step, found, task' found]
      rw [deed.run_task t d'.shared d.shared]
      by_cases own : t.context.session.userId = some u
      · obtain ⟨answer, alike⟩ := same.shared.here (k := k) keyed own deed
        exact ⟨same.put_both alike m _, by rw [answer]⟩
      · have alike := (same.shared.elsewhere (k := k) keyed own deed).symm.elsewhere (k := k) keyed own deed
        exact ⟨same.put_both alike.symm m _, by simp [user?, found, own]⟩

/-- By what a task notices the same changes for it, and it is answered the same. -/
theorem noticed (keyed : e.tenants.store.Keyed view) (same : SameTask e view u n d d') {event event' : Event}
    {x : Notice} (seen : notice e k n u d event = some x) (seen' : notice e k n u d' event' = some x) :
    SameTask e view u n (d.step e k event).2 (d'.step e k event').2 ∧
      answered e k n u d event = answered e k n u d' event' := by
  rcases notice_eq_some seen with ⟨mine, rfl⟩ | ⟨m, t, rfl, other, found, rfl⟩ |
    ⟨m, t, deed, value, rfl, ne, found, own, switches, rfl⟩
  · rcases notice_eq_some seen' with ⟨-, eq⟩ | ⟨_, _, -, -, -, eq⟩ | ⟨_, _, _, _, -, -, -, -, -, eq⟩
    · cases eq
      exact same.itself keyed mine
    · cases eq
    · cases eq
  · rcases notice_eq_some seen' with ⟨-, eq⟩ | ⟨m', t', rfl, other', found', eq⟩ |
      ⟨_, _, _, _, -, -, -, -, -, eq⟩
    · cases eq
    · obtain ⟨session, localTenant⟩ := Notice.begun.inj eq
      have fork : t'.context.fork = t.context.fork := by
        rw [Context.fork, Context.fork, session, localTenant]
      simp only [Desk.step, found, found', fork]
      exact ⟨same.put_both same.shared n _, by simp [answered, other, other']⟩
    · cases eq
  · rcases notice_eq_some seen' with ⟨-, eq⟩ | ⟨_, _, -, -, -, eq⟩ |
      ⟨m', t', deed', value', rfl, ne', found', own', switches', eq⟩
    · cases eq
    · cases eq
    · cases eq
      simp only [Desk.step, found, found']
      refine ⟨⟨same.shared.switched keyed own own' switches switches', ?_⟩, ?_⟩
      · rw [tasks_put, tasks_put, if_neg ne.symm, if_neg ne'.symm]
        exact same.task
      · simp [answered, Event.isOf, ne, ne']

/-- A task that notices nothing of events is not answered either. -/
theorem answered_nothing (keyed : e.tenants.store.Keyed view) (same : SameTask e view u n d d')
    {events : List Event} (quiet : heard e k (notice e k n u) d events = []) :
    heard e k (answered e k n u) d events = [] := by
  induction events generalizing d with
  | nil => rfl
  | cons event events ih =>
    rw [heard_cons, List.append_eq_nil_iff, Option.toList_eq_nil_iff] at quiet
    obtain ⟨same, silent⟩ := same.unnoticed keyed quiet.1
    rw [heard_cons, silent]
    exact ih same quiet.2

/-- What a task is answered depends on what it notices. -/
theorem answered_alike (keyed : e.tenants.store.Keyed view) (same : SameTask e view u n d d')
    {events events' : List Event}
    (alike : heard e k (notice e k n u) d events = heard e k (notice e k n u) d' events') :
    heard e k (answered e k n u) d events = heard e k (answered e k n u) d' events' := by
  induction events generalizing d d' events' with
  | nil => exact (same.symm.answered_nothing keyed alike.symm).symm
  | cons event events ih =>
    cases seen : notice e k n u d event with
    | none =>
      obtain ⟨same, silent⟩ := same.unnoticed keyed seen
      rw [heard_cons, seen] at alike
      rw [heard_cons, silent]
      exact ih same alike
    | some x =>
      -- The first event of the other run that is noticed is the one to compare with.
      induction events' generalizing d' with
      | nil =>
        rw [heard_cons, seen] at alike
        cases alike
      | cons event' events' ih' =>
        cases seen' : notice e k n u d' event' with
        | none =>
          obtain ⟨same, silent⟩ := same.symm.unnoticed keyed seen'
          rw [heard_cons _ d', seen'] at alike
          rw [heard_cons _ d', silent]
          exact ih' same.symm alike
        | some x' =>
          rw [heard_cons, heard_cons, seen, seen'] at alike
          obtain ⟨rfl, later⟩ := List.cons.inj alike
          obtain ⟨same, answer⟩ := same.noticed keyed seen seen'
          rw [heard_cons, heard_cons, answer]
          exact congrArg (_ ++ ·) (ih same later)

end SameTask

/-! ## Users apart -/

/-- Without the steps of others and without lookups for nobody, a user is told the same. A task of a user is
answered the same, whatever the other tasks do, as long as it notices the same and begins with the same in
the store for its user. -/
theorem users_apart (e : Enforcer σ) (k : CacheKeys) (keyed : e.tenants.store.Keyed view) (u : String) :
    (∀ store events, heard e k (told e k u) (.empty store) (heard e k (own u) (.empty store) events) =
      heard e k (told e k u) (.empty store) events) ∧
    ∀ n store store' events events', view store (e.tenants.key u) = view store' (e.tenants.key u) →
      heard e k (notice e k n u) (.empty store) events = heard e k (notice e k n u) (.empty store') events' →
      heard e k (answered e k n u) (.empty store) events =
        heard e k (answered e k n u) (.empty store') events' := by
  have fresh {store store' : σ} (held : view store (e.tenants.key u) = view store' (e.tenants.key u)) :
      (Desk.empty store).shared.Alike e view u (Desk.empty store').shared :=
    ⟨Lookups.sound_none _, Lookups.sound_none _, held⟩
  constructor
  · intro store events
    exact Shows.told_own keyed ⟨fresh rfl, fun _ _ => rfl⟩ events
  · intro n store store' events events' held alike
    exact SameTask.answered_alike keyed ⟨fresh held, rfl⟩ alike

/-! ## Two offices -/

namespace Offices

def enforcer : Enforcer Memory where
  config := { tenancy := { enabled := true } }
  tenants := ⟨true, "global:", Store.memory⟩
  directory := Departments.directory ⟨[], []⟩

def keys : CacheKeys := ⟨"", "global:"⟩

def session (user : String) : Session := .user ⟨user, some "home", none, [], false⟩

/-- Two tasks of one clerk, and one of another who works elsewhere. -/
def events : List Event :=
  [.start 0 (session "clerk"), .start 1 (session "clerk"), .start 2 (session "other"),
    .on 2 (.setDynamic "elsewhere" true), .on 1 (.setDynamic "branch" true), .lookup "orders",
    .on 0 (.ask .effective), .on 2 .clearDynamic, .on 0 (.ask (.map "key"))]

/-- The same for the first task, with the clerk switched by a child of the second one. -/
def events' : List Event :=
  [.start 0 (session "clerk"), .start 1 (session "clerk"), .on 1 (.enterTenant "visit"), .fork 1 3,
    .on 3 (.ask .effective), .on 3 (.setDynamic "branch" true), .on 0 (.ask .effective),
    .on 1 .leaveTenant, .on 0 (.ask (.map "key"))]

/-- The clerk does not notice the other one, nor the first task which of the clerk's tasks switched it. -/
theorem clerk_undisturbed :
    heard enforcer keys (told enforcer keys "clerk") (.empty .empty)
        (heard enforcer keys (own "clerk") (.empty .empty) events) =
      heard enforcer keys (told enforcer keys "clerk") (.empty .empty) events ∧
    heard enforcer keys (answered enforcer keys 0 "clerk") (.empty .empty) events' =
      [.text (some "branch"), .text (some "branch:key")] := by
  have keyed : enforcer.tenants.store.Keyed Memory.get? := Store.memory_keeps.keyed
  obtain ⟨apart, alike⟩ := users_apart enforcer keys keyed "clerk"
  refine ⟨apart .empty events, ?_⟩
  rw [← alike 0 .empty .empty events events' rfl rfl]
  rfl

end Offices

end Desk

end RowAccess
