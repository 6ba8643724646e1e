import RowAccess.Enforcer.Basic
/-!
# Statements on their way to the database

A statement is issued under the id of an operation. Before it runs it passes through a hook, which adds
the predicates of the rule in force and marks the concerns that are dealt with, so that they are not
dealt with again. Where a hook fails the statement must not run.
-/

namespace RowAccess

/-- What a statement is issued as. -/
inductive Command where
  | select
  | insert
  | update
  | delete
  | unknown
deriving DecidableEq, Repr, Inhabited

namespace Command

/-- The name of a command. -/
def name : Command → String
  | select => "select"
  | insert => "insert"
  | update => "update"
  | delete => "delete"
  | unknown => "unknown"

/-- Every command that is known. -/
def known : List Command := [select, insert, update, delete]

/-- The known command with the given name. -/
def ofName? (s : String) : Option Command := known.find? fun c => c.name == s

end Command

/-- A statement on its way to the database. -/
structure BoundStatement where
  sql : String
  /-- The id of the operation that it is issued under. -/
  operation : String
  command : Command
  /-- The concerns that are dealt with, each once. -/
  applied : List Concern
deriving DecidableEq, Repr, Inhabited

namespace BoundStatement

/-- A statement that no concern has been dealt with for. -/
def start (operation : String) (command : Command) (sql : String) : BoundStatement :=
  ⟨sql, operation, command, []⟩

/-- The statement with a concern marked as dealt with. -/
def mark (s : BoundStatement) (c : Concern) : BoundStatement :=
  if s.applied.contains c then s else { s with applied := s.applied ++ [c] }

end BoundStatement

/-- What becomes of a statement. -/
structure Plan where
  result : Rewritten
  /-- The concerns that the statement was checked for. -/
  concerns : List Concern
deriving Repr, Inhabited

/-- What enforcers share: the lookups of rules, and the store. -/
structure Shared (σ : Type) where
  lookups : Lookups
  store : σ

/-- An answer that may look up rules and need the store. Both outlive a failure. -/
abbrev Enforcing (σ : Type) := ExceptT Error (StateM (Shared σ))

namespace Enforcing

variable {σ α : Type}

/-- An answer that looks up rules. -/
def looking (a : StateM Lookups α) : Enforcing σ α :=
  fun s => let (answer, lookups) := a s.lookups; (.ok answer, { s with lookups })

/-- An answer that needs the store. -/
def storing (a : ExceptT Error (StateM σ) α) : Enforcing σ α :=
  fun s => let (answer, store) := a s.store; (answer, { s with store })

end Enforcing

namespace Enforcer

variable {σ : Type}

/-- What is in force for a statement and not yet dealt with. -/
def due (e : Enforcer σ) (ctx : Context) (s : BoundStatement) : StateM Lookups (Option Rule) := do
  return (← e.resolve ctx s.operation).bind (Rule.filter fun c => !s.applied.contains c)

/-- What becomes of a statement; nothing if no rule applies to it. -/
def plan (e : Enforcer σ) (ctx : Context) (s : BoundStatement) : Enforcing σ (Option Plan) := do
  match ← Enforcing.looking (e.due ctx s) with
  | none => return none
  | some r =>
    let result ← Enforcing.storing (rewrite e.config.dialect (e.predicates ctx r) s.sql)
    return some ⟨result, r.concerns⟩

/-- The statement after its plan. It stays as it is, without marks, where no predicate was added. -/
def afterPlan (s : BoundStatement) : Option Plan → BoundStatement
  | none => s
  | some p =>
    if p.result.isChanged then p.concerns.foldl .mark { s with sql := p.result.sql } else s

/-- The statement that runs as a query in place of `s`. -/
def beforeQuery (e : Enforcer σ) (ctx : Context) (s : BoundStatement) :
    Enforcing σ BoundStatement := do
  return afterPlan s (← e.plan ctx s)

/-- The statement that is prepared as a change of rows in place of `s`. Only updates and deletes are
restricted. -/
def beforePrepare (e : Enforcer σ) (ctx : Context) (s : BoundStatement) :
    Enforcing σ BoundStatement :=
  match s.command with
  | .update | .delete => e.beforeQuery ctx s
  | _ => return s

end Enforcer

end RowAccess
