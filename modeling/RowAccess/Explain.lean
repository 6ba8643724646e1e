import RowAccess.Explain.Inquiry
import RowAccess.Text.Json
/-!
# Explaining a rewrite

Shows how a statement would be rewritten for a caller, without a database.
-/

namespace RowAccess

/-- How a statement would be rewritten. -/
structure Explanation where
  operation : String
  /-- What the rule that applies is declared under, if one does. -/
  rule : Option String
  concerns : List Concern
  original : String
  rewritten : String
  added : Added
deriving DecidableEq, Repr, Inhabited

namespace Explanation

/-- A statement that no rule applies to. -/
def unchanged (q : Inquiry) : Explanation := ⟨q.operation, none, [], q.sql, q.sql, .nothing⟩

/-- What a plan does to a statement. An insert passes as it is. -/
def ofPlan (q : Inquiry) (rule : Option Rule) : Option Plan → Explanation
  | some p =>
    if q.command = .insert then unchanged q
    else ⟨q.operation, rule.map (·.declaredAs), p.concerns, q.sql, p.result.sql, p.result.added⟩
  | none => unchanged q

/-- The answer to an inquiry under a configuration. -/
def of (c : Config) (q : Inquiry) : Except Inquiry.Failure Explanation := do
  let departments ← Inquiry.departments q.roleDepts q.deptParents
  let e ← (Enforcer.build c .memory departments.directory).mapError .refused
  let ctx := Context.start (← q.session)
  let ctx := match q.dynamicTenant with
    | some tenant => e.tenants.enter tenant ctx
    | none => ctx
  let (plan, shared) := (e.plan ctx q.statement).run.run ⟨.none, .empty⟩
  let rule := (e.declared q.operation |>.run shared.lookups).1
  return ofPlan q rule (← plan.mapError .refused)

/-- An explanation in lines for a reader. -/
def lines (x : Explanation) : List String :=
  let names := x.concerns.map (·.name)
  let rule := match x.rule with
    | some rule => "Rule:       " ++ rule ++ " (" ++ ", ".intercalate names ++ ")"
    | none => "Rule:       none (statement passes through)"
  let added :=
    if x.added.isNothing then []
    else ("Tables:     " ++ ", ".intercalate x.added.tables) :: "Predicates:" ::
      x.added.predicates.map fun p => "  - " ++ p
  [rule, "Original:   " ++ x.original, "Rewritten:  " ++ x.rewritten] ++ added

/-- An explanation as JSON. -/
def json (x : Explanation) : String :=
  Text.jsonRecord [
    ("operation_id", .text x.operation),
    ("rule", .ofOption x.rule),
    ("concerns", .list (x.concerns.map (·.name))),
    ("original_sql", .text x.original),
    ("rewritten_sql", .text x.rewritten),
    ("tables_scoped", .list x.added.tables),
    ("predicates_added", .list x.added.predicates)]

end Explanation

end RowAccess
