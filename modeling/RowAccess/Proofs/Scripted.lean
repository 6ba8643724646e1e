import RowAccess.Proofs.Desk
/-!
# Scripts at a desk

The steps of a script are run one after the other, and its scopes are around steps. What it comes to is
nevertheless what a desk comes to by some events, with the same answers (`script_at_desk`): its contexts are
tasks with their places for numbers, and the scope of a tenant is an event at its begin, those of its steps,
and an event at its end. What holds at a desk whatever has happened there holds of scripts too.

Left out are scripts that change the store past its calls, as no task does.
-/

namespace RowAccess.Script

variable {e : Enforcer Memory} {k : CacheKeys} {w w' : World} {d : Desk Memory} {name : String}
  {place : Nat} {ctx : Context} {t t' : Task} {shared : Shared Memory}

/-! ## Worlds and desks -/

/-- The contexts of a world are those of tasks, by their places, and the desk shares what the world does. -/
structure Stages (d : Desk Memory) (w : World) : Prop where
  shared : d.shared = w.shared
  contexts : ∀ place, (d.tasks place).map Task.context = w.contexts[place]?

/-- By some events a desk comes to a world. Its tasks are in the scopes that they were in before. -/
structure Plays (e : Enforcer Memory) (k : CacheKeys) (d : Desk Memory) (w : World)
    (events : List Event) : Prop where
  stages : Stages (d.after e k events) w
  outer : ∀ place scopes, (d.tasks place).map Task.outer = some scopes →
    ((d.after e k events).tasks place).map Task.outer = some scopes

theorem stages_empty : Stages (.empty .empty) .start := ⟨rfl, fun _ => rfl⟩

theorem Stages.task (stages : Stages d w) (found : w.contexts[place]? = some ctx) :
    ∃ t, d.tasks place = some t ∧ t.context = ctx := by
  rw [← stages.contexts, Option.map_eq_some_iff] at found
  exact found

/-- With a task in place of the one that had its number, or with a new one. -/
theorem Stages.put (stages : Stages d w) (same : shared = w'.shared)
    (contexts : ∀ p, w'.contexts[p]? = if p = place then some t.context else w.contexts[p]?) :
    Stages ({ d with shared }.put place t) w' where
  shared := same
  contexts p := by
    rw [Desk.tasks_put, contexts]
    split
    · rfl
    · exact stages.contexts p

theorem Stages.plays (stages : Stages d w) : Plays e k d w [] := ⟨stages, fun _ _ same => same⟩

theorem Plays.append {events more : List Event} (first : Plays e k d w events)
    (next : Plays e k (d.after e k events) w' more) : Plays e k d w' (events ++ more) := by
  have after : d.after e k (events ++ more) = (d.after e k events).after e k more := List.foldl_append
  constructor
  · rw [after]
    exact next.stages
  · intro place scopes before
    rw [after]
    exact next.outer place scopes (first.outer place scopes before)

/-- A task goes on in the scopes that it is in. -/
theorem Plays.still {events : List Event} (plays : Plays e k d w events) (known : d.tasks place = some t) :
    ∃ t', (d.after e k events).tasks place = some t' ∧ t'.outer = t.outer ∧
      w.contexts[place]? = some t'.context := by
  have scopes := plays.outer place t.outer (by rw [known, Option.map_some])
  obtain ⟨t', still, outer⟩ := Option.map_eq_some_iff.mp scopes
  refine ⟨t', still, outer, ?_⟩
  rw [← plays.stages.contexts, still, Option.map_some]

/-! ## Steps as events -/

/-- A new context is a new task. -/
theorem Stages.add (stages : Stages d w) (name : String) (ctx : Context) {event : Event}
    (adds : (d.step e k event).2 = d.put w.contexts.length ⟨ctx, []⟩) :
    Plays e k d (w.addContext name ctx) [event] := by
  have after : d.after e k [event] = d.put w.contexts.length ⟨ctx, []⟩ := adds
  constructor
  · rw [after]
    refine stages.put stages.shared fun p => ?_
    rw [World.addContext, List.getElem?_append, List.getElem?_singleton]
    split <;> split <;> grind
  · intro p scopes before
    rw [after, Desk.tasks_put]
    split
    case isFalse => exact before
    case isTrue same =>
      obtain ⟨t, found, -⟩ := Option.map_eq_some_iff.mp before
      have absent := stages.contexts w.contexts.length
      rw [← same, found, same, List.getElem?_eq_none (Nat.le_refl _)] at absent
      cases absent

theorem Stages.lookup (stages : Stages d w) (operation : String) :
    Plays e k d (looking (e.declared operation) .rule w).2 [.lookup operation] where
  stages := by
    refine ⟨?_, stages.contexts⟩
    change { d.shared with lookups := ((e.declared operation).run d.shared.lookups).2 } = _
    rw [stages.shared]
    rfl
  outer _ _ same := same

theorem contexts_changed (found : w.contexts[place]? = some ctx) (f : Context → Context) (p : Nat) :
    (w.changeContext place f).contexts[p]? = if p = place then some (f ctx) else w.contexts[p]? := by
  rw [getElem?_changeContext]
  split
  case isTrue same => rw [← same, found, Option.map_some, if_pos rfl]
  case isFalse other => simp only [if_neg (Ne.symm other), Option.map_id']

theorem after_deed (found : d.tasks place = some t) {deed : Deed}
    (ran : (deed.run e k t d.shared).2 = (t', shared)) :
    d.after e k [.on place deed] = { d with shared }.put place t' := by
  change (d.step e k (.on place deed)).2 = _
  simp only [Desk.step, found, ran]

/-- What a task does that neither enters nor leaves the scope of a tenant. -/
theorem Stages.deed (stages : Stages d w) (found : d.tasks place = some t) {deed : Deed}
    (ran : (deed.run e k t d.shared).2 = (t', w'.shared)) (same : t'.outer = t.outer)
    (contexts : ∀ p, w'.contexts[p]? = if p = place then some t'.context else w.contexts[p]?) :
    Plays e k d w' [.on place deed] := by
  constructor
  · rw [after_deed found ran]
    exact stages.put rfl contexts
  · intro p scopes before
    rw [after_deed found ran, Desk.tasks_put]
    split
    case isFalse => exact before
    case isTrue here =>
      rw [here, found] at before
      rwa [Option.map_some, same]

theorem Stages.call (stages : Stages d w) (found : w.contexts[place]? = some ctx) (c : Suppression.Call) :
    Plays e k d (w.changeContext place (·.call c)) [.on place (.call c)] := by
  obtain ⟨t, known, rfl⟩ := stages.task found
  have ran : (Deed.run e k t d.shared (.call c)).2 = ({ t with context := t.context.call c }, w.shared) := by
    rw [stages.shared]
    rfl
  exact stages.deed known ran rfl (contexts_changed found _)

theorem changing_run (place : Nat) (ctx : Context) (a : InContext Memory Unit) (w : World) :
    changing place ctx a w = (answerOf (fun () => .done) (a.run.run (ctx, w.shared.store)).1,
      { w.changeContext place fun _ => (a.run.run (ctx, w.shared.store)).2.1 with
        shared := { w.shared with store := (a.run.run (ctx, w.shared.store)).2.2 } }) := by
  simp only [changing, ExceptT.run, StateT.run]
  rcases a (ctx, w.shared.store) with ⟨_ | _, _⟩ <;> rfl

/-- What may change the context of a task. -/
theorem Stages.changing (stages : Stages d w) (found : w.contexts[place]? = some ctx)
    {a : InContext Memory Unit} {deed : Deed}
    (changes : ∀ t shared, deed.run e k t shared = t.change shared a) :
    Plays e k d (changing place ctx a w).2 [.on place deed] := by
  obtain ⟨t, known, rfl⟩ := stages.task found
  have ran : (deed.run e k t d.shared).2 =
      ({ t with context := (a.run.run (t.context, w.shared.store)).2.1 },
        { w.shared with store := (a.run.run (t.context, w.shared.store)).2.2 }) := by
    rw [changes, stages.shared]
    rfl
  rw [changing_run]
  exact stages.deed known ran rfl (contexts_changed found _)

/-! ### Scopes of tenants -/

/-- The scope of a tenant as the events of its steps, between its begin and its end. -/
def within (place : Nat) (tenant : String) (events : List Event) : List Event :=
  .on place (.enterTenant tenant) :: events ++ [.on place .leaveTenant]

/-- The task within a scope that it begins. -/
def begun (e : Enforcer Memory) (tenant : String) (t : Task) : Task :=
  ⟨e.tenants.enter tenant t.context, t.context.localTenant :: t.outer⟩

theorem Stages.enter (stages : Stages d w) (known : d.tasks place = some t) (tenant : String) :
    Stages (d.put place (begun e tenant t)) (w.changeContext place (e.tenants.enter tenant)) := by
  refine stages.put stages.shared (contexts_changed ?_ _)
  rw [← stages.contexts, known]
  rfl

/-- A task in a scope that its steps have not left ends it. -/
theorem Plays.scope {tenant : String} {events : List Event} (known : d.tasks place = some t)
    (inside : Plays e k (d.put place (begun e tenant t)) w events) :
    Plays e k d (w.changeContext place (e.tenants.leave t.context.localTenant))
      (within place tenant events) := by
  obtain ⟨t', still, outer, here⟩ := inside.still (t := begun e tenant t) (by rw [Desk.tasks_put, if_pos rfl])
  have ran : (Deed.run e k t' ((d.put place (begun e tenant t)).after e k events).shared .leaveTenant).2 =
      (⟨e.tenants.leave t.context.localTenant t'.context, t.outer⟩, w.shared) := by
    rw [← inside.stages.shared]
    simp only [Deed.run, outer, begun]
  have after : d.after e k (within place tenant events) =
      { (d.put place (begun e tenant t)).after e k events with shared := w.shared }.put place
        ⟨e.tenants.leave t.context.localTenant t'.context, t.outer⟩ := by
    have entered : d.after e k (within place tenant events) =
        ((d.after e k [.on place (.enterTenant tenant)]).after e k events).after e k
          [.on place .leaveTenant] := by
      rw [within, Desk.after, List.foldl_append]
      rfl
    rw [entered, after_deed known rfl]
    exact after_deed still ran
  constructor
  · rw [after]
    exact inside.stages.put rfl (contexts_changed here _)
  · intro p scopes before
    rw [after, Desk.tasks_put]
    split
    case isTrue same =>
      rw [same, known] at before
      exact before
    case isFalse other =>
      refine inside.outer p scopes ?_
      rwa [Desk.tasks_put, if_neg other]

/-! ### Questions -/

/-- What an act asks about; nothing where it is about a statement that is not known. -/
def Act.question? (w : World) : Act → Option Question
  | .suppression => some .suppression
  | .dynamic => some .dynamic
  | .effective => some .effective
  | .resolve operation => some (.resolve operation)
  | .predicates rule scope => some (.predicates rule scope)
  | .map key => some (.map key)
  | .unmap key => some (.unmap key)
  | .plan target => (w.statement? target).map .plan
  | .query target => (w.statement? target).map .query
  | .prepare target => (w.statement? target).map .prepare
  | _ => none

/-- An act is answered as what it asks about, which changes no context. -/
structure Answered (e : Enforcer Memory) (k : CacheKeys) (ctx : Context) (q : Question) (w : World)
    (ran : Answer × World) : Prop where
  answer : ran.1 = ((q.answer e k ctx).run w.shared).1
  shared : ran.2.shared = ((q.answer e k ctx).run w.shared).2
  contexts : ran.2.contexts = w.contexts

theorem storing_answered {α : Type} {q : Question} {a : Stored Memory α} {answer : α → Answer}
    (asks : q.answer e k ctx = (Enforcing.storing a).told answer) (w : World) :
    Answered e k ctx q w (storing a answer w) := by
  have told := Enforcing.told_storing a answer w.shared
  rw [← asks] at told
  have ran : storing a answer w = (answerOf answer (a.run.run w.shared.store).1,
      { w with shared := { w.shared with store := (a.run.run w.shared.store).2 } }) := by
    simp only [storing, ExceptT.run, StateT.run]
    rcases a w.shared.store with ⟨_ | _, _⟩ <;> rfl
  rw [ran]
  constructor
  · rw [told]
  · rw [told]
  · rfl

theorem planning_answered {run : BoundStatement → Enforcing Memory (Option Plan)} {q : Question}
    {target : Target} {s : BoundStatement} (found : w.statement? target = some s)
    (asks : q.answer e k ctx = (run s).told (.plan s.sql)) :
    Answered e k ctx q w (planning run target w) := by
  have told : (q.answer e k ctx).run w.shared =
      (answerOf (.plan s.sql) ((run s).run.run w.shared).1, ((run s).run.run w.shared).2) := by
    rw [asks]
    rfl
  have ran : planning run target w =
      (answerOf (.plan s.sql) ((run s).run.run w.shared).1,
        { w with shared := ((run s).run.run w.shared).2 }) := by
    rw [planning_run, found]
    simp only [enforcing, ExceptT.run, StateT.run]
    rcases run s w.shared with ⟨_ | _, _⟩ <;> rfl
  rw [ran]
  constructor
  · rw [told]
  · rw [told]
  · rfl

theorem hook_answered {run : BoundStatement → Enforcing Memory BoundStatement} {q : Question}
    {target : Target} {s : BoundStatement} (found : w.statement? target = some s)
    (asks : q.answer e k ctx =
      (fun (after, fault) => .statement after fault) <$> Enforcing.held run s) :
    Answered e k ctx q w (hook run target w) := by
  have told : (q.answer e k ctx).run w.shared =
      (.statement ((Enforcing.held run s).run w.shared).1.1 ((Enforcing.held run s).run w.shared).1.2,
        ((Enforcing.held run s).run w.shared).2) := by
    rw [asks]
    rfl
  have ran : hook run target w = _ := hook_held run found
  rcases held : (Enforcing.held run s).run w.shared with ⟨⟨after, fault⟩, shared⟩
  rw [held] at told ran
  constructor
  · rw [ran, told]
  · rw [ran, told]
    cases fault with
    | some fault => rfl
    | none => cases target <;> rfl
  · exact (hook_untouched run target w).2

theorem runAct_answered (place : Nat) {act : Act} {q : Question} (asks : act.question? w = some q) :
    Answered e k ctx q w (runAct e k place ctx act w) := by
  cases act with
  | suppression | resolve operation =>
    cases asks
    rw [runAct]
    exact ⟨rfl, rfl, rfl⟩
  | dynamic | effective | predicates _ _ | map _ | unmap _ =>
    cases asks
    rw [runAct]
    exact storing_answered rfl w
  | plan target =>
    obtain ⟨s, found, rfl⟩ := Option.map_eq_some_iff.mp asks
    rw [runAct]
    exact planning_answered found rfl
  | query target | prepare target =>
    obtain ⟨s, found, rfl⟩ := Option.map_eq_some_iff.mp asks
    rw [runAct]
    exact hook_answered found rfl
  | _ => cases asks

/-- What a script asks about in a context, the task of the context asks about at the desk. -/
theorem Stages.ask (stages : Stages d w) (found : w.contexts[place]? = some ctx) {act : Act} {q : Question}
    (asks : act.question? w = some q) :
    (runAct e k place ctx act w).1 = (d.step e k (.on place (.ask q))).1 ∧
      Plays e k d (runAct e k place ctx act w).2 [.on place (.ask q)] := by
  obtain ⟨t, known, rfl⟩ := stages.task found
  have answered : Answered e k t.context q w (runAct e k place t.context act w) := runAct_answered place asks
  have ran : Deed.run e k t d.shared (.ask q) =
      ((runAct e k place t.context act w).1, t, (runAct e k place t.context act w).2.shared) := by
    rw [answered.answer, answered.shared, stages.shared]
    rfl
  constructor
  · simp only [Desk.step, known, ran]
  · refine stages.deed known (congrArg Prod.snd ran) rfl fun p => ?_
    rw [answered.contexts]
    split
    case isTrue same => rw [same, found]
    case isFalse => rfl

theorem planning_unknown {run : BoundStatement → Enforcing Memory (Option Plan)} {target : Target}
    (missing : w.statement? target = none) : planning run target w = (.unknownStatement, w) := by
  rw [planning_run, missing]
  rfl

theorem hook_unknown {run : BoundStatement → Enforcing Memory BoundStatement} {target : Target}
    (missing : w.statement? target = none) : hook run target w = (.unknownStatement, w) := by
  rw [hook_run, missing]
  rfl

/-- An act about a statement, which may not be known. -/
theorem Stages.about (stages : Stages d w) (found : w.contexts[place]? = some ctx) {act : Act}
    {target : Target} {question : BoundStatement → Question}
    (asks : act.question? w = (w.statement? target).map question)
    (rests : w.statement? target = none → (runAct e k place ctx act w).2 = w) :
    ∃ events, Plays e k d (runAct e k place ctx act w).2 events := by
  cases known : w.statement? target with
  | none =>
    rw [rests known]
    exact ⟨[], stages.plays⟩
  | some s =>
    rw [known, Option.map_some] at asks
    exact ⟨_, (stages.ask found asks).2⟩

/-! ## Runs -/

mutual

/-- Whether a step changes the store by its calls alone. -/
def Step.isCalling : Step → Bool
  | .storeSet _ _ => false
  | .on _ act => act.isCalling
  | _ => true

/-- Whether the steps within an act do. -/
def Act.isCalling : Act → Bool
  | .withTenant _ steps _ | .suppressed _ steps _ => areCalling steps
  | _ => true

/-- Whether all of the steps do. -/
def areCalling : List Step → Bool
  | [] => true
  | s :: rest => s.isCalling && areCalling rest

end

mutual

theorem runStep_plays (e : Enforcer Memory) (k : CacheKeys) :
    ∀ (s : Step) {d : Desk Memory} {w : World}, s.isCalling = true → Stages d w →
      ∃ events, Plays e k d (runStep e k s w).2 events
  | .context name session, d, w, _, stages => by
    rw [runStep]
    exact ⟨[.start w.contexts.length session], stages.add name _ rfl⟩
  | .statement _ _, d, w, _, stages | .storeGet _, d, w, _, stages
  | .unreadable _, d, w, _, stages => by
    rw [runStep]
    exact ⟨[], Stages.plays ⟨stages.shared, stages.contexts⟩⟩
  | .declared operation, d, w, _, stages => by
    rw [runStep]
    exact ⟨[.lookup operation], stages.lookup operation⟩
  | .storeSet _ _, d, w, calling, _ => by cases calling
  | .on name act, d, w, calling, stages => by
    match found : w.context? name with
    | none =>
      rw [runStep_unknown found]
      exact ⟨[], stages.plays⟩
    | some (place, ctx) =>
      rw [runStep_on found]
      exact runAct_plays e k act calling stages (getElem?_context found)

theorem runAct_plays (e : Enforcer Memory) (k : CacheKeys) {place : Nat} {ctx : Context} :
    ∀ (act : Act) {d : Desk Memory} {w : World}, act.isCalling = true → Stages d w →
      w.contexts[place]? = some ctx → ∃ events, Plays e k d (runAct e k place ctx act w).2 events
  | .fork name, d, w, _, stages, found => by
    obtain ⟨t, known, rfl⟩ := stages.task found
    rw [runAct]
    refine ⟨[.fork place w.contexts.length], stages.add name _ ?_⟩
    simp only [Desk.step, known]
  | .enable c, d, w, _, stages, found => by
    rw [runAct]
    exact ⟨_, stages.call found (.enable c)⟩
  | .disable c, d, w, _, stages, found => by
    rw [runAct]
    exact ⟨_, stages.call found (.disable c)⟩
  | .clearSuppression, d, w, _, stages, found => by
    rw [runAct]
    exact ⟨_, stages.call found .clear⟩
  | .setDynamic tenant forUser, d, w, _, stages, found => by
    rw [runAct]
    exact ⟨[.on place (.setDynamic tenant forUser)], stages.changing found fun _ _ => rfl⟩
  | .clearDynamic, d, w, _, stages, found => by
    rw [runAct]
    exact ⟨[.on place .clearDynamic], stages.changing found fun _ _ => rfl⟩
  | .withTenant tenant steps exit, d, w, calling, stages, found => by
    obtain ⟨t, known, rfl⟩ := stages.task found
    rw [runAct_withTenant]
    obtain ⟨events, inside⟩ := runSteps_plays e k steps calling (stages.enter known tenant)
    exact ⟨_, inside.scope known⟩
  | .suppressed c steps exit, d, w, calling, stages, found => by
    rw [runAct_suppressed]
    have entered := stages.call (e := e) (k := k) found (.enable c)
    obtain ⟨events, inside⟩ := runSteps_plays e k steps calling entered.stages
    obtain ⟨t, known, -⟩ := stages.task found
    obtain ⟨t', -, -, here⟩ := (entered.append inside).still known
    exact ⟨_, (entered.append inside).append ((entered.append inside).stages.call here (.disable c))⟩
  | .plan target, d, w, _, stages, found =>
    stages.about found rfl fun missing => by rw [runAct, planning_unknown missing]
  | .query target, d, w, _, stages, found | .prepare target, d, w, _, stages, found =>
    stages.about found rfl fun missing => by rw [runAct, hook_unknown missing]
  | .suppression, d, w, _, stages, found | .dynamic, d, w, _, stages, found
  | .effective, d, w, _, stages, found | .resolve _, d, w, _, stages, found
  | .predicates _ _, d, w, _, stages, found | .map _, d, w, _, stages, found
  | .unmap _, d, w, _, stages, found => ⟨_, (stages.ask found rfl).2⟩
  | .session, d, w, _, stages, _ | .depth _, d, w, _, stages, _ | .unreadable _, d, w, _, stages, _ => by
    rw [runAct]
    exact ⟨[], stages.plays⟩

theorem runSteps_plays (e : Enforcer Memory) (k : CacheKeys) :
    ∀ (steps : List Step) {d : Desk Memory} {w : World}, areCalling steps = true → Stages d w →
      ∃ events, Plays e k d (runSteps e k steps w).2 events
  | [], d, w, _, stages => by
    rw [runSteps]
    exact ⟨[], stages.plays⟩
  | s :: rest, d, w, calling, stages => by
    rw [areCalling, Bool.and_eq_true] at calling
    obtain ⟨events, first⟩ := runStep_plays e k s calling.1 stages
    obtain ⟨more, next⟩ := runSteps_plays e k rest calling.2 first.stages
    rw [runSteps_cons]
    exact ⟨events ++ more, first.append next⟩

end

/-- What a script comes to from the start is what a desk comes to by some events, and whatever a context of
the script then asks about is answered as it is at the desk. -/
theorem script_at_desk (e : Enforcer Memory) (k : CacheKeys) {steps : List Step}
    (calling : areCalling steps = true) :
    ∃ events,
      let d := (Desk.empty .empty).after e k events
      let w := (runSteps e k steps .start).2
      Stages d w ∧ ∀ name place ctx act q, w.context? name = some (place, ctx) → act.question? w = some q →
        (runStep e k (.on name act) w).1 = (d.step e k (.on place (.ask q))).1 := by
  obtain ⟨events, plays⟩ := runSteps_plays e k steps calling stages_empty
  refine ⟨events, plays.stages, ?_⟩
  intro name place ctx act q found asks
  rw [runStep_on found]
  exact (plays.stages.ask (getElem?_context found) asks).1

end RowAccess.Script
