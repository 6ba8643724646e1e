import RowAccess.Proofs.Desk
/-!
# Statements that pass hooks

A statement passes hooks one after the other, in any contexts, while others may be at work. A hook that
fails leaves everything as it was: the statement, the context, what the store holds and the rules that are
found. What has been dealt with for a statement stays marked, each concern once, and when all that its rule
asks for is marked, no further hook does anything to it (`hooks_atomic`).
-/

namespace RowAccess

variable {σ κ ε α β : Type}

/-! ## What is left as it is -/

/-- The computation leaves all that is in view of the store as it is, also where it fails. -/
def Preserves (view : σ → κ) (a : ExceptT ε (StateM σ) α) : Prop :=
  ∀ s, view (a.run.run s).2 = view s

namespace Preserves

variable {view : σ → κ}

theorem pure (x : α) : Preserves view (Pure.pure x : ExceptT ε (StateM σ) α) := fun _ => rfl

theorem throw (fault : ε) : Preserves view (throw fault : ExceptT ε (StateM σ) α) := fun _ => rfl

theorem bind {a : ExceptT ε (StateM σ) α} {f : α → ExceptT ε (StateM σ) β} (first : Preserves view a)
    (next : ∀ x, Preserves view (f x)) : Preserves view (a >>= f) := by
  intro s
  have kept := first s
  rw [ExceptT.run_bind, StateT.run_bind]
  rcases ran : a.run.run s with ⟨fault | x, s₁⟩
  · rw [ran] at kept
    exact kept
  · rw [ran] at kept
    exact (next x s₁).trans kept

theorem steps (view : σ → κ) : StoreSteps fun {α} (a _ : Stored σ α) => Preserves view a :=
  ⟨pure, throw, bind⟩

theorem call {c : StoreCall σ α} (kept : Preserves view c) : Preserves view (Tenants.call c) := kept

end Preserves

section

variable {view : σ → κ} {e : Enforcer σ} {ctx : Context}

theorem Tenants.preserves_effective {t : Tenants σ} (reading : ∀ key, Preserves view (t.store.get key))
    (ctx : Context) : Preserves view (t.effective ctx) := by
  rw [effective_eq]
  split
  · exact .pure none
  · split
    · exact .pure _
    · exact .pure _
    · exact (Preserves.call (reading _)).bind fun _ => .pure _

theorem Enforcer.preserves_predicates (reading : ∀ key, Preserves view (e.tenants.store.get key)) (r : Rule)
    (scope : Scope) : Preserves view (e.predicates ctx r scope) :=
  (Preserves.steps view).predicates e.tenants.store (Tenants.preserves_effective reading ctx) r scope

theorem preserves_rewriteWith (codec : Sql.Codec) {source : Source σ}
    (kept : ∀ scope, Preserves view (source scope)) (sql : String) :
    Preserves view (rewriteWith codec source sql) :=
  (Preserves.steps view).rewriteWith source source kept codec sql

/-- Planning a statement leaves what is in view of the store as it is, and every rule is found as before. -/
theorem Enforcer.plan_preserves (reading : ∀ key, Preserves view (e.tenants.store.get key)) (ctx : Context)
    (s : BoundStatement) (shared : Shared σ) :
    view ((e.plan ctx s).run.run shared).2.store = view shared.store ∧
      ∀ operation, ((e.declared operation).run ((e.plan ctx s).run.run shared).2.lookups).1 =
        ((e.declared operation).run shared.lookups).1 := by
  have lookups (operation : String) : ((e.declared operation).run ((e.due ctx s).run shared.lookups).2).1 =
      ((e.declared operation).run shared.lookups).1 := Lookups.find_find s.operation operation
  cases due : ((e.due ctx s).run shared.lookups).1 with
  | none =>
    rw [plan_rest due]
    exact ⟨rfl, lookups⟩
  | some r =>
    rw [e.plan_run due]
    exact ⟨preserves_rewriteWith _ (preserves_predicates reading r) s.sql shared.store, lookups⟩

end

/-! ## Hooks -/

/-- The hooks that statements pass. -/
inductive Hook where
  /-- The one before a query runs. -/
  | query
  /-- The one before a change of rows is prepared. -/
  | prepare
deriving DecidableEq, Repr, Inhabited

namespace Hook

/-- What the hook makes of a statement. -/
def run (e : Enforcer σ) (ctx : Context) : Hook → BoundStatement → Enforcing σ BoundStatement
  | query => e.beforeQuery ctx
  | prepare => e.beforePrepare ctx

/-- The question that a task asks by sending a statement through the hook. -/
def question (s : BoundStatement) : Hook → Question
  | query => .query s
  | prepare => .prepare s

/-- Whether the hook restricts what is issued as a command. -/
def restricts : Hook → Command → Bool
  | query, _ => true
  | prepare, .update | prepare, .delete => true
  | prepare, _ => false

/-- A task that sends a statement through the hook is told what becomes of it, and stays as it is. -/
theorem ask_run (e : Enforcer σ) (k : CacheKeys) (t : Task) (shared : Shared σ) (hook : Hook)
    (s : BoundStatement) :
    (Deed.ask (hook.question s)).run e k t shared =
      let held := (Enforcing.held (hook.run e t.context) s).run shared
      (.statement held.1.1 held.1.2, t, held.2) := by
  cases hook <;> rfl

variable {e : Enforcer σ} {ctx : Context}

/-- What is held after a hook that plans a statement is what becomes of it by the plan. -/
theorem held_planned {run : BoundStatement → Enforcing σ BoundStatement} {s : BoundStatement}
    (plans : run s = e.beforeQuery ctx s) (shared : Shared σ) :
    (Enforcing.held run s).run shared =
      ((match ((e.plan ctx s).run.run shared).1 with
        | .ok plan => (Enforcer.afterPlan s plan, none)
        | .error fault => (s, some fault)), ((e.plan ctx s).run.run shared).2) := by
  rw [Enforcing.held_run, plans, Enforcer.beforeQuery, ExceptT.run_bind, StateT.run_bind]
  rcases (e.plan ctx s).run.run shared with ⟨_ | _, _⟩ <;> rfl

/-- A hook that restricts a command plans what is issued as one, and any other one answers it as it is. -/
theorem run_eq (hook : Hook) (s : BoundStatement) :
    hook.run e ctx s = if hook.restricts s.command then e.beforeQuery ctx s else pure s := by
  cases hook with
  | query => rfl
  | prepare =>
    change e.beforePrepare ctx s = _
    rw [Enforcer.beforePrepare]
    cases s.command <;> rfl

/-- A hook that restricts a statement holds what becomes of it by its plan, and any other one leaves it
alone. -/
theorem held_run (hook : Hook) (s : BoundStatement) (shared : Shared σ) :
    (Enforcing.held (hook.run e ctx) s).run shared =
      if hook.restricts s.command then
        ((match ((e.plan ctx s).run.run shared).1 with
          | .ok plan => (Enforcer.afterPlan s plan, none)
          | .error fault => (s, some fault)), ((e.plan ctx s).run.run shared).2)
      else ((s, none), shared) := by
  have run : hook.run e ctx s = _ := run_eq hook s
  split
  case isTrue restricted =>
    rw [if_pos restricted] at run
    exact held_planned run shared
  case isFalse unrestricted =>
    rw [if_neg unrestricted] at run
    rw [Enforcing.held_run, run]
    rfl

end Hook

/-! ## Marks -/

namespace BoundStatement

theorem mark_applied (s : BoundStatement) (c : Concern) :
    (s.mark c).applied = if c ∈ s.applied then s.applied else s.applied ++ [c] := by
  rw [mark, List.contains_eq_mem]
  by_cases marked : c ∈ s.applied <;> simp [marked]

/-- Marking concerns keeps the marks there are, adds each of them once, and nothing else. -/
theorem foldl_mark (s : BoundStatement) (cs : List Concern) :
    s.applied <+: (cs.foldl mark s).applied ∧
      (s.applied.Nodup → (cs.foldl mark s).applied.Nodup) ∧
      ∀ c, c ∈ (cs.foldl mark s).applied ↔ c ∈ s.applied ∨ c ∈ cs := by
  induction cs generalizing s with
  | nil => exact ⟨List.prefix_rfl, id, by simp⟩
  | cons c cs ih =>
    obtain ⟨longer, nodup, members⟩ := ih (s.mark c)
    rw [mark_applied] at longer nodup members
    rw [List.foldl_cons]
    by_cases marked : c ∈ s.applied
    · rw [if_pos marked] at longer nodup members
      refine ⟨longer, nodup, fun d => ?_⟩
      rw [members, List.mem_cons]
      constructor
      · rintro (h | h) <;> simp [h]
      · rintro (h | rfl | h)
        · exact .inl h
        · exact .inl marked
        · exact .inr h
    · rw [if_neg marked] at longer nodup members
      refine ⟨(List.prefix_append _ _).trans longer, fun h => nodup ?_, fun d => ?_⟩
      · exact List.nodup_append.mpr ⟨h, by simp, by
          rintro a mem b only rfl
          exact marked (List.mem_singleton.mp only ▸ mem)⟩
      · rw [members, List.mem_append, List.mem_singleton, List.mem_cons, or_assoc]

theorem foldl_mark_sql (s : BoundStatement) (cs : List Concern) :
    (cs.foldl mark s).sql = s.sql ∧ (cs.foldl mark s).operation = s.operation ∧
      (cs.foldl mark s).command = s.command := by
  induction cs generalizing s with
  | nil => exact ⟨rfl, rfl, rfl⟩
  | cons c cs ih =>
    obtain ⟨sql, operation, command⟩ := ih (s.mark c)
    have kept : (s.mark c).sql = s.sql ∧ (s.mark c).operation = s.operation ∧
        (s.mark c).command = s.command := by
      rw [mark]
      split <;> exact ⟨rfl, rfl, rfl⟩
    exact ⟨sql.trans kept.1, operation.trans kept.2.1, command.trans kept.2.2⟩

end BoundStatement

/-! ## Calls of hooks -/

/-- A call of a hook, in some context and at some moment. Whatever others have done by then, the rules that
are remembered are those that are declared. -/
structure HookCall (e : Enforcer σ) where
  hook : Hook
  context : Context
  shared : Shared σ
  sound : shared.lookups.Sound e.config.operations

namespace HookCall

variable {e : Enforcer σ}

/-- The statement as it is held after the call, and why the call failed if it did. -/
def held (c : HookCall e) (s : BoundStatement) : BoundStatement × Option Error :=
  ((Enforcing.held (c.hook.run e c.context) s).run c.shared).1

/-- The plan by which the call changes the text of a statement, if it does. -/
def change? (c : HookCall e) (s : BoundStatement) : Option Plan :=
  if c.hook.restricts s.command then
    ((((e.plan c.context s).run.run c.shared).1.toOption).bind id).filter fun p => p.result.isChanged
  else none

/-- A call changes a statement by its plan or not at all. -/
theorem held_fst (c : HookCall e) (s : BoundStatement) :
    (c.held s).1 = match c.change? s with
      | some p => p.concerns.foldl .mark { s with sql := p.result.sql }
      | none => s := by
  rw [held, Hook.held_run, change?]
  by_cases restricts : c.hook.restricts s.command = true
  · rw [if_pos restricts, if_pos restricts]
    rcases ((e.plan c.context s).run.run c.shared).1 with fault | _ | p
    · rfl
    · rfl
    · change Enforcer.afterPlan s (some p) = match Option.filter (fun p => p.result.isChanged) (some p) with
        | some p => p.concerns.foldl .mark { s with sql := p.result.sql }
        | none => s
      rw [Enforcer.afterPlan, Option.filter_some]
      by_cases changed : p.result.isChanged = true
      · rw [if_pos changed, if_pos changed]
      · rw [if_neg changed, if_neg changed]
  · rw [if_neg restricts, if_neg restricts]

/-- Where nothing is pending a call succeeds, and the statement stays as it is. -/
theorem held_nothing (c : HookCall e) {s : BoundStatement} (nothing : e.pending c.context s = none) :
    c.held s = (s, none) := by
  have due := (e.due_answer c.context c.sound s).1.trans nothing
  rw [held, Hook.held_run, Enforcer.plan_rest due]
  split <;> rfl

end HookCall

namespace BoundStatement

variable {e : Enforcer σ}

/-- The statement as it is held after calls of hooks, one after the other. -/
def after (s : BoundStatement) (calls : List (HookCall e)) : BoundStatement :=
  calls.foldl (fun s c => (c.held s).1) s

theorem after_append (s : BoundStatement) (calls more : List (HookCall e)) :
    s.after (calls ++ more) = (s.after calls).after more := List.foldl_append

/-- What each call keeps is kept by all of them. -/
theorem after_induction (kept : BoundStatement → Prop) (step : ∀ (c : HookCall e) s, kept s → kept (c.held s).1)
    {s : BoundStatement} (start : kept s) (calls : List (HookCall e)) : kept (s.after calls) := by
  induction calls generalizing s with
  | nil => exact start
  | cons c calls ih => exact ih (step c s start)

/-- A call adds marks and takes none back. -/
theorem held_applied (c : HookCall e) (s : BoundStatement) :
    s.applied <+: (c.held s).1.applied ∧ (s.applied.Nodup → (c.held s).1.applied.Nodup) := by
  rw [c.held_fst]
  split
  · next p _ =>
    obtain ⟨longer, nodup, -⟩ := foldl_mark { s with sql := p.result.sql } p.concerns
    exact ⟨longer, nodup⟩
  · exact ⟨List.prefix_rfl, id⟩

theorem after_applied (s : BoundStatement) (calls : List (HookCall e)) :
    s.applied <+: (s.after calls).applied ∧ (s.applied.Nodup → (s.after calls).applied.Nodup) := by
  refine after_induction (fun s' => s.applied <+: s'.applied ∧ (s.applied.Nodup → s'.applied.Nodup)) ?_
    ⟨List.prefix_rfl, id⟩ calls
  rintro c s' ⟨longer, nodup⟩
  obtain ⟨longer', nodup'⟩ := held_applied c s'
  exact ⟨longer.trans longer', fun start => nodup' (nodup start)⟩

/-- Calls change neither the operation of a statement nor its command. -/
theorem after_issued (s : BoundStatement) (calls : List (HookCall e)) :
    (s.after calls).operation = s.operation ∧ (s.after calls).command = s.command := by
  refine after_induction (fun s' => s'.operation = s.operation ∧ s'.command = s.command) ?_
    ⟨rfl, rfl⟩ calls
  rintro c s' ⟨operation, command⟩
  rw [c.held_fst]
  split
  · next p _ =>
    obtain ⟨-, operation', command'⟩ := foldl_mark_sql { s' with sql := p.result.sql } p.concerns
    exact ⟨operation'.trans operation, command'.trans command⟩
  · exact ⟨operation, command⟩

end BoundStatement

/-- Nothing is pending of a rule whose concerns are all marked. -/
theorem Enforcer.pending_marked {e : Enforcer σ} (ctx : Context) {s : BoundStatement}
    (marked : ∀ r, Declarations.find? e.config.operations s.operation = some r →
      ∀ c ∈ r.concerns, c ∈ s.applied) : e.pending ctx s = none := by
  rw [pending]
  cases declared : Declarations.find? e.config.operations s.operation with
  | none => rfl
  | some r =>
    cases inForce : e.inForce ctx r with
    | none => rw [Option.bind_some, inForce, Option.bind_none]
    | some r' =>
      rw [Option.bind_some, inForce, Option.bind_some]
      obtain rfl := Rule.filter_some inForce
      refine Rule.filter_eq_none_iff.mpr fun c mem => ?_
      have kept : c ∈ r.concerns := (Rule.mem_concerns_masked.mp mem).1
      simpa using marked r declared c kept

/-! ## Atomic hooks -/

/-- A hook that fails leaves the statement as it was, the context of the task that calls it, all that is in
view of the store, and what every rule is found to be. Calls of hooks only add marks to a statement, each
concern once; and as soon as all concerns are marked that its declared rule is for, every further call
succeeds and leaves it as it is. -/
theorem hooks_atomic (e : Enforcer σ) (k : CacheKeys) {view : σ → κ}
    (reading : ∀ key, Preserves view (e.tenants.store.get key)) :
    (∀ (hook : Hook) (s held : BoundStatement) (t t' : Task) (shared shared' : Shared σ) (fault : Error),
      (Deed.ask (hook.question s)).run e k t shared = (.statement held (some fault), t', shared') →
        held = s ∧ t' = t ∧ view shared'.store = view shared.store ∧
          ∀ operation, ((e.declared operation).run shared'.lookups).1 =
            ((e.declared operation).run shared.lookups).1) ∧
      (∀ (s : BoundStatement) (calls more : List (HookCall e)), s.applied.Nodup →
        (s.after calls).applied <+: (s.after (calls ++ more)).applied ∧
          (s.after (calls ++ more)).applied.Nodup) ∧
      ∀ (s : BoundStatement) (calls : List (HookCall e)),
        (∀ r, Declarations.find? e.config.operations s.operation = some r →
          ∀ c ∈ r.concerns, c ∈ (s.after calls).applied) →
        ∀ c : HookCall e, c.held (s.after calls) = (s.after calls, none) := by
  refine ⟨?_, ?_, ?_⟩
  · intro hook s held t t' shared shared' fault failed
    rw [hook.ask_run, Hook.held_run] at failed
    by_cases restricts : hook.restricts s.command = true
    · rw [if_pos restricts] at failed
      obtain ⟨kept, rules⟩ := Enforcer.plan_preserves reading t.context s shared
      rcases ran : ((e.plan t.context s).run.run shared).1 with fault' | plan
      · rw [ran] at failed
        cases failed
        exact ⟨rfl, rfl, kept, rules⟩
      · rw [ran] at failed
        cases failed
    · rw [if_neg restricts] at failed
      cases failed
  · intro s calls more nodup
    rw [BoundStatement.after_append]
    obtain ⟨-, nodup₁⟩ := s.after_applied calls
    obtain ⟨longer, nodup₂⟩ := (s.after calls).after_applied more
    exact ⟨longer, nodup₂ (nodup₁ nodup)⟩
  · intro s calls marked c
    refine c.held_nothing (Enforcer.pending_marked c.context ?_)
    rw [(s.after_issued calls).1]
    exact marked

/-! ## A store that does not answer -/

namespace Outage

/-- A store in memory that answers no question, and counts how many it is asked. -/
def store : Store (Memory × Nat) where
  get _ := fun (m, asked) => (.error "out of order", m, asked + 1)
  set key value := fun (m, asked) => (.ok (), m.insert key value, asked)
  delete key := fun (m, asked) => (.ok (), m.erase key, asked)

def enforcer : Enforcer (Memory × Nat) where
  config := orderRules.config
  tenants := .ofTenancy orderRules.config.tenancy store
  directory := orderRules.directory

/-- A task of a user whose tenant the store would have to be asked for. -/
def clerk : Task := ⟨.start (.user ⟨"clerk", some "home", none, [], false⟩), []⟩

/-- What is shared at first: somebody was switched to a tenant. -/
def fresh : Shared (Memory × Nat) := ⟨.none, Memory.empty.insert "global:other" "branch", 0⟩

/-- The call of the hook for changes of rows in a context. -/
def prepared (ctx : Context) : HookCall enforcer := ⟨.prepare, ctx, fresh, Lookups.sound_none _⟩

/-- The update after it was prepared for the clerk, and then for somebody within the scope of a tenant. -/
def dealtWith : BoundStatement :=
  OrderUpdate.statement.after [prepared clerk.context, prepared (contextOf "t1")]

/-- The update fails for the clerk after it has asked the store, and nothing comes of it. When it has been
dealt with elsewhere it succeeds for the clerk as well, and stays as it is. -/
theorem update_retried :
    (∃ shared, (Deed.ask (Hook.prepare.question OrderUpdate.statement)).run enforcer ⟨"", ""⟩ clerk fresh =
        (.statement OrderUpdate.statement (some (.internal "out of order")), clerk, shared) ∧
      shared.store.1 = fresh.store.1 ∧ shared.store.2 = 1) ∧
      dealtWith.applied = [.tenant] ∧ (prepared clerk.context).held dealtWith = (dealtWith, none) := by
  have reading : ∀ key, Preserves Prod.fst (enforcer.tenants.store.get key) := fun _ _ => rfl
  obtain ⟨failing, -, marked⟩ := hooks_atomic enforcer ⟨"", ""⟩ reading
  have held : ((Enforcing.held (Hook.prepare.run enforcer clerk.context) OrderUpdate.statement).run fresh).1 =
      (OrderUpdate.statement, some (.internal "out of order")) := by decide +kernel
  have asked : ((Enforcing.held (Hook.prepare.run enforcer clerk.context)
      OrderUpdate.statement).run fresh).2.store.2 = 1 := by decide +kernel
  have failed : (Deed.ask (Hook.prepare.question OrderUpdate.statement)).run enforcer ⟨"", ""⟩ clerk fresh =
      (.statement OrderUpdate.statement (some (.internal "out of order")), clerk,
        ((Enforcing.held (Hook.prepare.run enforcer clerk.context) OrderUpdate.statement).run fresh).2) := by
    rw [Hook.ask_run]
    dsimp only
    rw [held]
  obtain ⟨-, -, kept, -⟩ := failing .prepare _ _ _ _ _ _ _ failed
  have applied : dealtWith.applied = [.tenant] := by decide +kernel
  have rule : Declarations.find? enforcer.config.operations OrderUpdate.statement.operation =
      some OrderUpdate.rule := by decide +kernel
  have concerns : OrderUpdate.rule.concerns = [.tenant] := rfl
  refine ⟨⟨_, failed, kept, asked⟩, applied, marked OrderUpdate.statement _ ?_ (prepared clerk.context)⟩
  intro r declared c mem
  obtain rfl := Option.some.inj (rule.symm.trans declared)
  rw [concerns] at mem
  exact applied ▸ mem

end Outage

end RowAccess
