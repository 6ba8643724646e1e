import RowAccess.Explain
import RowAccess.Proofs.Histories
import RowAccess.Proofs.Hooks
/-!
# What is explained is what happens

An inquiry plans a statement with a store of its own, in which nothing is kept. Where the statement is issued it
passes a hook, over the store of that place and with whatever rules are remembered there. A plan needs no more of
either than the tenant that is kept for the user (`Enforcer.plan_mirrors`). So the explanation shows the text that
the hook answers, and fails as the hook fails, except for inserts: the hook lets them pass without a plan, and the
inquiry fails with the plan (`Inquiry.explained_iff`).
-/

namespace RowAccess

variable {σ τ ε α β : Type}

/-! ## Two stores -/

/-- The computations answer the same from related states of their stores, and leave them related. -/
def Mirrors (R : σ → τ → Prop) (a : ExceptT ε (StateM σ) α) (a' : ExceptT ε (StateM τ) α) : Prop :=
  ∀ s s', R s s' → (a.run.run s).1 = (a'.run.run s').1 ∧ R (a.run.run s).2 (a'.run.run s').2

namespace Mirrors

variable {R : σ → τ → Prop}

theorem pure (x : α) :
    Mirrors R (Pure.pure x : ExceptT ε (StateM σ) α) (Pure.pure x : ExceptT ε (StateM τ) α) :=
  fun _ _ related => ⟨rfl, related⟩

theorem throw (fault : ε) :
    Mirrors R (throw fault : ExceptT ε (StateM σ) α) (throw fault : ExceptT ε (StateM τ) α) :=
  fun _ _ related => ⟨rfl, related⟩

theorem bind {a : ExceptT ε (StateM σ) α} {a' : ExceptT ε (StateM τ) α} {f : α → ExceptT ε (StateM σ) β}
    {f' : α → ExceptT ε (StateM τ) β} (first : Mirrors R a a') (next : ∀ x, Mirrors R (f x) (f' x)) :
    Mirrors R (a >>= f) (a' >>= f') := by
  intro s s' related
  obtain ⟨answer, related'⟩ := first s s' related
  rw [ExceptT.run_bind, StateT.run_bind, ExceptT.run_bind, StateT.run_bind]
  rcases ran : a.run.run s with ⟨x, s₁⟩
  rcases ran' : a'.run.run s' with ⟨x', s₁'⟩
  rw [ran, ran'] at answer related'
  obtain rfl : x = x' := answer
  cases x with
  | error fault => exact ⟨rfl, related'⟩
  | ok x => exact next x s₁ s₁' related'

theorem steps (R : σ → τ → Prop) : StoreSteps fun {α} (a : Stored σ α) (a' : Stored τ α) => Mirrors R a a' :=
  ⟨pure, throw, bind⟩

end Mirrors

/-- What is kept for the user of a session is the same in both stores, if it is not blank. -/
def SameUser (view : σ → String → Option String) (view' : τ → String → Option String)
    (key : String → String) (session : Session) (s : σ) (s' : τ) : Prop :=
  ∀ user, session.userId = some user →
    Text.nonBlank (view s (key user)) = Text.nonBlank (view' s' (key user))

section

variable {view : σ → String → Option String} {view' : τ → String → Option String} {e : Enforcer σ}
  {store : Store τ} {ctx : Context}

/-- Over both stores the tenant of a context is the same. -/
theorem Tenants.effective_mirrors (keeps : e.tenants.store.Keeps view) (keeps' : store.Keeps view')
    (ctx : Context) :
    Mirrors (SameUser view view' e.tenants.key ctx.session) (e.tenants.effective ctx)
      ((e.withStore store).tenants.effective ctx) := by
  intro s s' same
  have kept : view ((e.tenants.effective ctx).run.run s).2 = view s :=
    Tenants.preserves_effective (fun key s => (keeps.get key s).2) ctx s
  have kept' : view' (((e.withStore store).tenants.effective ctx).run.run s').2 = view' s' :=
    Tenants.preserves_effective (t := (e.withStore store).tenants) (fun key s => (keeps'.get key s).2) ctx s'
  refine ⟨?_, ?_⟩
  · cases enabled : e.tenants.enabled with
    | false =>
      have rests : (e.withStore store).tenants.enabled = false := enabled
      rw [effective, effective, enabled, rests]
      rfl
    | true =>
      rw [effective_kept enabled keeps, effective_kept (t := (e.withStore store).tenants) enabled keeps']
      cases known : ctx.session.userId with
      | none => rfl
      | some user =>
        have key : (e.withStore store).tenants.key user = e.tenants.key user := rfl
        simp only [List.findSome?_cons, Option.bind_some, key, same user known]
  · intro user known
    rw [kept, kept']
    exact same user known

/-- A plan is the same over another store that keeps the same for the user, whatever rules are remembered. -/
theorem Enforcer.plan_mirrors (keeps : e.tenants.store.Keeps view) (keeps' : store.Keeps view')
    (s : BoundStatement) {shared : Shared σ} {shared' : Shared τ}
    (sound : shared.lookups.Sound e.config.operations) (sound' : shared'.lookups.Sound e.config.operations)
    (same : SameUser view view' e.tenants.key ctx.session shared.store shared'.store) :
    ((e.plan ctx s).run.run shared).1 = (((e.withStore store).plan ctx s).run.run shared').1 := by
  have due : ((e.due ctx s).run shared.lookups).1 = e.pending ctx s := (e.due_answer ctx sound s).1
  have due' : (((e.withStore store).due ctx s).run shared'.lookups).1 = e.pending ctx s :=
    ((e.withStore store).due_answer ctx sound' s).1
  cases pending : e.pending ctx s with
  | none =>
    rw [pending] at due due'
    rw [plan_rest due, plan_rest due']
  | some r =>
    rw [pending] at due due'
    rw [plan_run _ due, plan_run _ due']
    have mirrors := (Mirrors.steps _).predicates store (Tenants.effective_mirrors keeps keeps' ctx) r
    have rewritten := (Mirrors.steps _).rewriteWith _ _ mirrors (.ofDialect e.config.dialect) s.sql
    exact congrArg (Except.map fun result => some (Plan.mk result r.concerns)) (rewritten _ _ same).1

end

/-! ## Texts after a plan -/

/-- A text to which nothing is added stays as it is. -/
theorem rewriteWith_unchanged (codec : Sql.Codec) {source : Source σ} {sql : String} {result : Rewritten}
    {s s' : σ} (ran : (rewriteWith codec source sql).run.run s = (.ok result, s'))
    (unchanged : result.isChanged = false) : result.sql = sql := by
  cases parsed : codec.parse sql with
  | none =>
    rw [rewriteWith_malformed codec source parsed] at ran
    cases ran
  | some list =>
    rw [rewriteWith_run codec source parsed] at ran
    rcases walked : Rewrite.outcome (Rewrite.statements codec source (1 < list.length) list) .nothing s with
      ⟨fault | ⟨list', added⟩, s₁⟩
    all_goals
      rw [walked] at ran
      cases ran
    · have nothing : added.isNothing = true := by simpa [Rewritten.isChanged] using unchanged
      exact if_pos nothing

namespace Enforcer

variable {e : Enforcer σ} {ctx : Context} {s : BoundStatement} {shared : Shared σ}

/-- After its plan a statement has the text that the plan shows. -/
theorem afterPlan_sql {plan : Option Plan} (planned : ((e.plan ctx s).run.run shared).1 = .ok plan) :
    (afterPlan s plan).sql = plan.elim s.sql (·.result.sql) := by
  cases plan with
  | none => rfl
  | some p =>
    cases changed : p.result.isChanged with
    | true =>
      rw [afterPlan, if_pos changed, (BoundStatement.foldl_mark_sql _ _).1]
      rfl
    | false =>
      rw [afterPlan, if_neg (Bool.eq_false_iff.mp changed), Option.elim_some]
      cases due : ((e.due ctx s).run shared.lookups).1 with
      | none =>
        rw [plan_rest due] at planned
        cases planned
      | some r =>
        rw [plan_run _ due] at planned
        rcases ran : (rewrite e.config.dialect (e.predicates ctx r) s.sql).run.run shared.store with
          ⟨fault | result, store⟩
        all_goals rw [ran] at planned; cases planned
        exact (rewriteWith_unchanged _ ran changed).symm

end Enforcer

/-! ## Inquiries -/

/-- The hook that passes what is issued as a command. -/
def Command.hook : Command → Hook
  | select | unknown => .query
  | insert | update | delete => .prepare

theorem Command.hook_restricts (command : Command) :
    command.hook.restricts command = !decide (command = .insert) := by
  cases command <;> rfl

namespace Inquiry

variable {c : Config} {q : Inquiry} {d : Departments} {session : Session} {store : Store σ}
  {shared : Shared σ}

/-- The context of the caller: a new one, in work that is done with the tenant it is switched to. -/
def context (q : Inquiry) (t : Tenants σ) (session : Session) : Context :=
  match q.dynamicTenant with
  | some tenant => t.enter tenant (.start session)
  | none => .start session

/-- What becomes of the statement where it is issued: an enforcer is built, and the hook for the command
passes the statement in the context of the caller. -/
def issued (c : Config) (d : Departments) (session : Session) (store : Store σ) (shared : Shared σ)
    (q : Inquiry) : Except Error BoundStatement := do
  let e ← Enforcer.build c store d.directory
  ((q.command.hook.run e (q.context e.tenants session) q.statement).run.run shared).1

/-- The statement is issued as an insert, and planning it like others fails. -/
structure RefusedInsert (c : Config) (d : Departments) (session : Session) (store : Store σ)
    (shared : Shared σ) (q : Inquiry) (fault : Error) : Prop where
  insert : q.command = .insert
  planned : ∃ e, Enforcer.build c store d.directory = .ok e ∧
    ((e.plan (q.context e.tenants session) q.statement).run.run shared).1 = .error fault

theorem context_session (q : Inquiry) (t : Tenants σ) (session : Session) :
    (q.context t session).session = session := by
  rw [context]
  cases q.dynamicTenant with
  | none => rfl
  | some tenant =>
    change (t.enter tenant (.start session)).session = session
    rw [Tenants.enter]
    split <;> rfl

/-- Where it is issued, a statement passes as it is if that is an insert, and else becomes what its plan shows. -/
theorem issued_eq {e : Enforcer σ} (built : Enforcer.build c store d.directory = .ok e) :
    issued c d session store shared q =
      if q.command = .insert then .ok q.statement
      else ((e.plan (q.context e.tenants session) q.statement).run.run shared).1.map
        (Enforcer.afterPlan q.statement) := by
  have restricts : q.command.hook.restricts q.statement.command = !decide (q.command = .insert) :=
    q.command.hook_restricts
  rw [issued, built]
  change ((q.command.hook.run e (q.context e.tenants session) q.statement).run.run shared).1 = _
  rw [Hook.run_eq, restricts]
  by_cases insert : q.command = .insert
  · rw [if_pos insert, if_neg (by simp [insert])]
    rfl
  · rw [if_neg insert, if_pos (by simp [insert]), e.beforeQuery_run]
    rfl

end Inquiry

theorem Explanation.ofPlan_rewritten (q : Inquiry) (rule : Option Rule) (plan : Option Plan) :
    (ofPlan q rule plan).rewritten =
      if q.command = .insert then q.sql else plan.elim q.sql (·.result.sql) := by
  cases plan with
  | none => exact (ite_self _).symm
  | some p =>
    rw [ofPlan]
    split <;> rfl

theorem Explanation.of_run {c : Config} {q : Inquiry} {d : Departments} {session : Session}
    (departments : Inquiry.departments q.roleDepts q.deptParents = .ok d) (caller : q.session = .ok session)
    {e : Enforcer Memory} (built : Enforcer.build c .memory d.directory = .ok e) :
    Explanation.of c q = (do
      let (plan, shared) := (e.plan (q.context e.tenants session) q.statement).run.run ⟨.none, .empty⟩
      return ofPlan q ((e.declared q.operation).run shared.lookups).1 (← plan.mapError .refused)) := by
  rw [of, departments]
  simp only [bind, Except.bind, built, caller]
  rfl

/-- The explanation shows the text of the plan, and that of an insert as it was. It fails as the plan fails. -/
theorem Explanation.of_eq {c : Config} {q : Inquiry} {d : Departments} {session : Session}
    (departments : Inquiry.departments q.roleDepts q.deptParents = .ok d) (caller : q.session = .ok session)
    {e : Enforcer Memory} (built : Enforcer.build c .memory d.directory = .ok e) :
    (Explanation.of c q).map (·.rewritten) =
      (((e.plan (q.context e.tenants session) q.statement).run.run ⟨.none, .empty⟩).1.map fun plan =>
        if q.command = .insert then q.sql else plan.elim q.sql (·.result.sql)).mapError .refused := by
  rw [of_run departments caller built]
  rcases (e.plan (q.context e.tenants session) q.statement).run.run ⟨.none, .empty⟩ with ⟨fault | plan, shared⟩
  · rfl
  · exact congrArg Except.ok (ofPlan_rewritten q _ plan)

/-- If no enforcer can be built, there is no explanation either. -/
theorem Explanation.of_unbuilt {c : Config} {q : Inquiry} {d : Departments}
    (departments : Inquiry.departments q.roleDepts q.deptParents = .ok d) {fault : Error}
    (refused : Enforcer.build c .memory d.directory = .error fault) :
    Explanation.of c q = .error (.refused fault) := by
  rw [of, departments]
  simp only [bind, Except.bind, refused]
  rfl

/-- An enforcer is built over one store as over another. -/
theorem Enforcer.build_withStore (c : Config) (store : Store σ) (other : Store τ) (directory : Directory) :
    build c other directory = (build c store directory).map (·.withStore other) := by
  rw [build, build]
  cases c.fault? with
  | some fault => rfl
  | none =>
    dsimp only
    split <;> rfl

namespace Inquiry

variable {c : Config} {q : Inquiry} {d : Departments} {session : Session} {store : Store σ}
  {shared : Shared σ} {view : σ → String → Option String}

section

variable (keeps : store.Keeps view) (departments : Inquiry.departments q.roleDepts q.deptParents = .ok d)
  (caller : q.session = .ok session) (sound : shared.lookups.Sound c.operations)
  (unswitched : ∀ user, session.userId = some user →
    Text.nonBlank (view shared.store ((Tenants.ofTenancy c.tenancy store).key user)) = none)

include keeps departments caller sound unswitched

/-- What is explained is the plan that is made where the statement is issued. -/
theorem explained_planned {e : Enforcer σ} (built : Enforcer.build c store d.directory = .ok e) :
    (Explanation.of c q).map (·.rewritten) =
      (((e.plan (q.context e.tenants session) q.statement).run.run shared).1.map fun plan =>
        if q.command = .insert then q.sql else plan.elim q.sql (·.result.sql)).mapError .refused := by
  have builtAside : Enforcer.build c .memory d.directory = .ok (e.withStore .memory) := by
    rw [Enforcer.build_withStore c store, built]
    rfl
  have planned : ((e.plan (q.context e.tenants session) q.statement).run.run shared).1 =
      (((e.withStore .memory).plan (q.context e.tenants session) q.statement).run.run ⟨.none, .empty⟩).1 := by
    obtain ⟨-, -, rfl⟩ := Enforcer.build_eq_ok.mp built
    refine Enforcer.plan_mirrors keeps Store.memory_keeps _ sound (Lookups.sound_none _) ?_
    intro user known
    rw [context_session] at known
    exact unswitched user known
  rw [planned]
  exact Explanation.of_eq departments caller builtAside

/-- Unless it is an insert that cannot be planned, the statement is explained as it is issued. -/
theorem explained_issued (plannable : ∀ fault, ¬ RefusedInsert c d session store shared q fault) :
    (Explanation.of c q).map (·.rewritten) =
      ((issued c d session store shared q).map (·.sql)).mapError .refused := by
  cases built : Enforcer.build c store d.directory with
  | error fault =>
    have refused : Enforcer.build c .memory d.directory = .error fault := by
      rw [Enforcer.build_withStore c store, built]
      rfl
    rw [Explanation.of_unbuilt departments refused, issued, built]
    rfl
  | ok e =>
    rw [explained_planned keeps departments caller sound unswitched built, issued_eq built]
    by_cases insert : q.command = .insert
    · rw [if_pos insert]
      cases plan : ((e.plan (q.context e.tenants session) q.statement).run.run shared).1 with
      | error fault => exact absurd ⟨insert, e, built, plan⟩ (plannable fault)
      | ok plan => exact congrArg Except.ok (if_pos insert)
    · rw [if_neg insert]
      cases plan : ((e.plan (q.context e.tenants session) q.statement).run.run shared).1 with
      | error fault => rfl
      | ok plan => exact congrArg Except.ok ((if_neg insert).trans (Enforcer.afterPlan_sql plan).symm)

/-- An insert that cannot be planned has no explanation, and is issued as it is. -/
theorem explained_refused {fault : Error} (refused : RefusedInsert c d session store shared q fault) :
    Explanation.of c q = .error (.refused fault) ∧ issued c d session store shared q = .ok q.statement := by
  obtain ⟨insert, e, built, plan⟩ := refused
  have shown := explained_planned keeps departments caller sound unswitched built
  rw [plan] at shown
  constructor
  · cases explained : Explanation.of c q with
    | error reason =>
      rw [explained] at shown
      cases shown
      rfl
    | ok x =>
      rw [explained] at shown
      cases shown
  · rw [issued_eq built, if_pos insert]

/-- What is explained, with a store in which nothing is kept, is what happens where the statement is issued, over
any store in which the user is not switched to a tenant and whatever rules are remembered: the explanation shows
the text that the hook answers, and fails with what the enforcer or the hook fails with. It does so unless the
statement is issued as an insert that cannot be planned. That one passes the hook as it is, and has no
explanation. -/
theorem explained_iff :
    ((Explanation.of c q).map (·.rewritten) =
        ((issued c d session store shared q).map (·.sql)).mapError .refused ↔
      ∀ fault, ¬ RefusedInsert c d session store shared q fault) ∧
    ∀ fault, RefusedInsert c d session store shared q fault →
      Explanation.of c q = .error (.refused fault) ∧ issued c d session store shared q = .ok q.statement := by
  have passed {fault : Error} (refused : RefusedInsert c d session store shared q fault) :=
    explained_refused keeps departments caller sound unswitched refused
  refine ⟨⟨?_, explained_issued keeps departments caller sound unswitched⟩, fun _ refused => passed refused⟩
  intro same fault refused
  rw [(passed refused).1, (passed refused).2] at same
  cases same

end

/-! ## An archive -/

namespace Archive

/-- All that is done with the archive is restricted to a tenant. -/
def config : Config where
  tenancy := { enabled := true }
  operations := [("archive", { tenant := true })]

def reading : Inquiry where
  sql := "SELECT * FROM archive"
  operation := "archive"
  user := some "clerk"
  tenant := some "t1"

/-- Two inserts at once. -/
def adding : Inquiry :=
  { reading with
    sql := "INSERT INTO archive (id) VALUES (1); INSERT INTO archive (id) VALUES (2)"
    command := .insert }

def clerk : Session := .user ⟨"clerk", some "t1", none, [], false⟩

def enforcer : Enforcer Memory := ⟨config, .ofTenancy config.tenancy .memory, Departments.empty.directory⟩

/-- What the clerk reads is explained. The inserts pass the hook, and have no explanation. -/
theorem adding_unexplained :
    (Explanation.of config reading).map (·.rewritten) =
      ((issued config .empty clerk .memory ⟨.none, .empty⟩ reading).map (·.sql)).mapError .refused ∧
    Explanation.of config adding = .error (.refused (.unscopable (.stacked .insert))) ∧
    issued config .empty clerk .memory ⟨.none, .empty⟩ adding = .ok adding.statement := by
  refine ⟨?_, ?_⟩
  · refine (explained_iff Store.memory_keeps rfl rfl (Lookups.sound_none _) fun _ _ => rfl).1.mpr ?_
    rintro fault ⟨insert, -⟩
    cases insert
  · refine (explained_iff Store.memory_keeps rfl rfl (Lookups.sound_none _) fun _ _ => rfl).2 _ ⟨rfl, ?_⟩
    refine ⟨enforcer, rfl, ?_⟩
    have failed : ((enforcer.plan (adding.context enforcer.tenants clerk) adding.statement).run.run
        ⟨.none, .empty⟩).1.map (fun _ => ()) = .error (.unscopable (.stacked .insert)) := by decide +kernel
    cases planned : ((enforcer.plan (adding.context enforcer.tenants clerk) adding.statement).run.run
        ⟨.none, .empty⟩).1 with
    | ok plan =>
      rw [planned] at failed
      cases failed
    | error fault =>
      rw [planned] at failed
      cases failed
      rfl

end Archive

end Inquiry

end RowAccess
