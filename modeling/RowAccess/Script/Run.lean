import RowAccess.Script.Step
/-!
# Running scripts

The steps of a script change contexts, statements and the store. A step that fails changes no more than
its failure lets it, and the script goes on. However the scope of a tenant or of a suppression is left,
it is undone on the context that it was entered with.
-/

namespace RowAccess.Script

/-- What the steps of a script change. -/
structure World where
  /-- The contexts, in the order in which they were made. -/
  contexts : List Context
  /-- The places of named contexts among all. -/
  names : List (String × Nat)
  statements : List (String × BoundStatement)
  shared : Shared Memory

namespace World

/-- Before the first step. -/
def start : World := ⟨[], [], [], ⟨.none, .empty⟩⟩

/-- With a new context under a name. -/
def addContext (w : World) (name : String) (ctx : Context) : World :=
  { w with contexts := w.contexts ++ [ctx], names := (name, w.contexts.length) :: w.names }

/-- The place of the context with a name, and the context. -/
def context? (w : World) (name : String) : Option (Nat × Context) := do
  let place ← w.names.lookup name
  return (place, ← w.contexts[place]?)

/-- With the context at a place changed. -/
def changeContext (w : World) (place : Nat) (change : Context → Context) : World :=
  { w with contexts := w.contexts.modify place change }

/-- With a statement under a name. -/
def addStatement (w : World) (name : String) (s : BoundStatement) : World :=
  { w with statements := (name, s) :: w.statements }

/-- The statement that a step is about. -/
def statement? (w : World) : Target → Option BoundStatement
  | .named name => w.statements.lookup name
  | .fresh s => some s

/-- With the statement that a step is about replaced, if it has a name. -/
def putStatement (w : World) (target : Target) (s : BoundStatement) : World :=
  match target with
  | .named name => w.addStatement name s
  | .fresh _ => w

end World

/-- An answer that changes the world. -/
abbrev Running := StateM World

/-- The answer to something that needs the store. -/
def storing {α : Type} (a : Stored Memory α) (answer : α → Answer) : Running Answer := fun w =>
  let (result, store) := a w.shared.store
  let answered := match result with
    | .ok v => answer v
    | .error e => .failed e
  (answered, { w with shared := { w.shared with store } })

/-- The answer to something that may change the context at a place. -/
def changing (place : Nat) (ctx : Context) (a : InContext Memory Unit) : Running Answer := fun w =>
  let (result, ctx, store) := a (ctx, w.shared.store)
  let w := { w.changeContext place fun _ => ctx with shared := { w.shared with store } }
  match result with
  | .ok () => (.done, w)
  | .error e => (.failed e, w)

/-- The answer to something that looks up rules. -/
def looking {α : Type} (a : StateM Lookups α) (answer : α → Answer) : Running Answer := fun w =>
  let (v, lookups) := a w.shared.lookups
  (answer v, { w with shared := { w.shared with lookups } })

/-- The answer to something that enforces rules, with the world as it is after success. -/
def enforcing {α : Type} (a : Enforcing Memory α) (answer : Except Error α → Answer)
    (after : World → α → World) : Running Answer := fun w =>
  let (result, shared) := a w.shared
  let w := { w with shared }
  match result with
  | .ok v => (answer (.ok v), after w v)
  | .error e => (answer (.error e), w)

/-- The answer to a hook for a statement, which is replaced where the hook succeeds. -/
def hook (run : BoundStatement → Enforcing Memory BoundStatement) (target : Target) :
    Running Answer := do
  match (← get).statement? target with
  | none => return .unknownStatement
  | some s =>
    let answer : Except Error BoundStatement → Answer
      | .ok after => .statement after none
      | .error e => .statement s (some e)
    enforcing (run s) answer fun w after => w.putStatement target after

/-- The answer to a plan of a statement. -/
def planning (run : BoundStatement → Enforcing Memory (Option Plan)) (target : Target) :
    Running Answer := do
  match (← get).statement? target with
  | none => return .unknownStatement
  | some s =>
    let answer : Except Error (Option Plan) → Answer
      | .ok plan => .plan s.sql plan
      | .error e => .failed e
    enforcing (run s) answer fun w _ => w

theorem hook_run (run : BoundStatement → Enforcing Memory BoundStatement) (target : Target) (w : World) :
    hook run target w = (match w.statement? target with
      | none => pure .unknownStatement
      | some s => enforcing (run s) (fun
          | .ok after => .statement after none
          | .error e => .statement s (some e)) fun w after => w.putStatement target after :
        Running Answer) w := rfl

theorem planning_run (run : BoundStatement → Enforcing Memory (Option Plan)) (target : Target) (w : World) :
    planning run target w = (match w.statement? target with
      | none => pure .unknownStatement
      | some s => enforcing (run s) (fun
          | .ok plan => .plan s.sql plan
          | .error e => .failed e) fun w _ => w : Running Answer) w := rfl

/-- Changes the suppression of the context at a place. -/
def suppressing (place : Nat) (ctx : Context) (change : Context → Context) : Running Answer := do
  modify fun w => w.changeContext place change
  return .suppression (change ctx).suppression

mutual

/-- Runs a step. -/
def runStep (e : Enforcer Memory) (k : CacheKeys) : Step → Running Answer
  | .context name session => do
    modify fun w => w.addContext name (.start session)
    return .done
  | .statement name s => do
    modify fun w => w.addStatement name s
    return .done
  | .declared operation => looking (e.declared operation) .rule
  | .storeGet key => do return .text ((← get).shared.store.get? key)
  | .storeSet key value => do
    modify fun w => { w with shared := { w.shared with store := w.shared.store.insert key value } }
    return .done
  | .on name act => do
    match (← get).context? name with
    | none => return .unknownContext
    | some (place, ctx) => runAct e k place ctx act
  | .unreadable what => return .unreadable what

/-- Does something in the context at a place, which is `ctx`. -/
def runAct (e : Enforcer Memory) (k : CacheKeys) (place : Nat) (ctx : Context) :
    Act → Running Answer
  | .fork name => do
    modify fun w => w.addContext name ctx.fork
    return .done
  | .session => return .session ctx.session
  | .enable c => suppressing place ctx (·.enable c)
  | .disable c => suppressing place ctx (·.disable c)
  | .clearSuppression => suppressing place ctx (·.clearSuppression)
  | .suppression => return .suppression ctx.suppression
  | .depth c => return .depth (ctx.suppression.depth c) (ctx.isSuppressed c)
  | .setDynamic tenant forUser => changing place ctx (e.tenants.setDynamic tenant forUser)
  | .clearDynamic => changing place ctx e.tenants.clearDynamic
  | .dynamic => storing (e.tenants.dynamic ctx) .text
  | .effective => storing (e.tenants.effective ctx) .text
  | .withTenant tenant steps exit => do
    modify fun w => w.changeContext place (e.tenants.enter tenant)
    let answers ← runSteps e k steps
    modify fun w => w.changeContext place (e.tenants.leave ctx.localTenant)
    return .scope exit answers
  | .suppressed c steps exit => do
    modify fun w => w.changeContext place (·.enable c)
    let answers ← runSteps e k steps
    modify fun w => w.changeContext place (·.disable c)
    return .scope exit answers
  | .resolve operation => looking (e.resolve ctx operation) .rule
  | .predicates rule scope => storing (e.predicates ctx rule scope) .predicates
  | .map key => storing (k.map e.tenants ctx key) .text
  | .unmap key => storing (k.unmap e.tenants ctx key) .text
  | .plan target => planning (e.plan ctx) target
  | .query target => hook (e.beforeQuery ctx) target
  | .prepare target => hook (e.beforePrepare ctx) target
  | .unreadable what => return .unreadable what

/-- Runs steps one after the other. -/
def runSteps (e : Enforcer Memory) (k : CacheKeys) : List Step → Running (List Answer)
  | [] => return []
  | s :: rest => do
    let answer ← runStep e k s
    return answer :: (← runSteps e k rest)

end

/-- What the steps of a script answer, from the start. -/
def run (e : Enforcer Memory) (k : CacheKeys) (steps : List Step) : List Answer :=
  (runSteps e k steps .start).1

end RowAccess.Script
