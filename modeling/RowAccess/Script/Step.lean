import RowAccess.CacheKey
import RowAccess.Enforcer.Statement
/-!
# Scripts

A script is a run of steps over named contexts and statements that share an enforcer and a store. Steps
may stand within the scope of a tenant or of a suppression.
-/

namespace RowAccess.Script

/-- How a scope is left. -/
inductive Exit where
  | returned
  | failed
  | panicked
deriving DecidableEq, Repr, Inhabited

namespace Exit

/-- The name of a way to leave a scope. -/
def name : Exit → String
  | returned => "return"
  | failed => "error"
  | panicked => "panic"

/-- The way to leave a scope with the given name. -/
def ofName? (s : String) : Option Exit :=
  [returned, failed, panicked].find? fun e => e.name == s

end Exit

/-- The statement that a step is about. -/
inductive Target where
  /-- One that was named before. -/
  | named (name : String)
  | fresh (statement : BoundStatement)
deriving DecidableEq, Repr, Inhabited

mutual

/-- A step of a script. -/
inductive Step where
  /-- Names a new context. -/
  | context (name : String) (session : Session)
  /-- Names a statement. -/
  | statement (name : String) (statement : BoundStatement)
  | declared (operation : String)
  /-- What the store holds, past its calls. -/
  | storeGet (key : String)
  | storeSet (key value : String)
  /-- Something done in a context. -/
  | on (name : String) (act : Act)
  /-- A step that cannot be read; nothing is done. -/
  | unreadable (what : String)

/-- Something done in a context. -/
inductive Act where
  | fork (name : String)
  | session
  | enable (concern : Concern)
  | disable (concern : Concern)
  | clearSuppression
  | suppression
  | depth (concern : Concern)
  | setDynamic (tenant : String) (forUser : Bool)
  | clearDynamic
  | dynamic
  | effective
  /-- Steps within the scope of a tenant. -/
  | withTenant (tenant : String) (steps : List Step) (exit : Exit)
  /-- Steps within the scope of a suppression. -/
  | suppressed (concern : Concern) (steps : List Step) (exit : Exit)
  | resolve (operation : String)
  | predicates (rule : Rule) (scope : Scope)
  | map (key : String)
  | unmap (key : String)
  | plan (target : Target)
  | query (target : Target)
  | prepare (target : Target)
  /-- An act that cannot be read; nothing is done. -/
  | unreadable (what : String)

end

instance : Inhabited Step := ⟨.unreadable ""⟩

instance : Inhabited Act := ⟨.unreadable ""⟩

/-- What a step answers. -/
inductive Answer where
  | done
  | text (value : Option String)
  | rule (rule : Option Rule)
  | session (session : Session)
  | suppression (state : Suppression)
  | depth (depth : Nat) (suppressed : Bool)
  | predicates (list : List Predicate)
  | plan (sql : String) (plan : Option Plan)
  /-- A statement after its hook, and why the hook failed if it did. -/
  | statement (statement : BoundStatement) (error : Option Error)
  /-- How a scope was left, and what its steps answered. -/
  | scope (exit : Exit) (answers : List Answer)
  | failed (error : Error)
  | unknownContext
  | unknownStatement
  | unreadable (what : String)
deriving Inhabited

end RowAccess.Script
