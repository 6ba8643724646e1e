import RowAccess.Config.Load
import RowAccess.Error
import RowAccess.Rules
import RowAccess.Sql.Parser
/-!
# Auditing a configuration

An audit tells whether a configuration would be accepted, and which of its rules load but do not do what
they say: rules for concerns that are not enabled, columns of tables that all tenants share, and rules
that stand in for those of a namespace.
-/

namespace RowAccess.Audit

/-- How grave a finding is. -/
inductive Severity where
  | info
  | warning
  /-- The configuration is refused. -/
  | error
deriving DecidableEq, Repr, Inhabited

namespace Severity

/-- The name of a severity. -/
def name : Severity → String
  | info => "INFO"
  | warning => "WARN"
  | error => "ERROR"

/-- The rank of a severity; graver ones come first. -/
def rank : Severity → Nat
  | error => 0
  | warning => 1
  | info => 2

end Severity

/-- What is found. -/
inductive Finding where
  /-- The configuration at a path cannot be loaded. -/
  | notLoaded (path : String) (reason : Config.LoadError)
  /-- The condition that denies all is no expression. -/
  | badDenyPredicate (text : String)
  /-- No rule is declared. -/
  | noRules
  /-- An operation asks for the tenant, which is not enabled. -/
  | tenantNotEnabled (id : String)
  /-- An operation asks for data permissions, which are not enabled. -/
  | dataNotEnabled (id : String)
  /-- A table with settings of its own is shared by all tenants. -/
  | sharedTable (table : String)
  /-- The rule of an operation stands in for that of a namespace. -/
  | overrides (id namespaceId : String)
deriving DecidableEq, Repr, Inhabited

namespace Finding

/-- How grave a finding is. -/
def severity : Finding → Severity
  | notLoaded .. | badDenyPredicate _ => .error
  | overrides .. => .info
  | _ => .warning

/-- What a finding is about. -/
def category : Finding → String
  | notLoaded .. => "config"
  | badDenyPredicate _ => "deny-predicate"
  | noRules | overrides .. => "operations"
  | tenantNotEnabled _ | sharedTable _ => "tenancy"
  | dataNotEnabled _ => "data-permission"

/-- The message for a finding. -/
def message : Finding → String
  | notLoaded _ reason => reason.message
  | badDenyPredicate text => (Error.invalidPredicate text).message
  | noRules => "No operation rules declared; no statement will ever be scoped"
  | tenantNotEnabled id =>
    "Operation '" ++ id ++ "' requests tenant scoping but tenancy.enabled is false"
  | dataNotEnabled id =>
    "Operation '" ++ id ++ "' declares data_permission but it is disabled globally"
  | sharedTable table =>
    "Table '" ++ table ++ "' has a tenant column but is listed in global_tables"
  | overrides id namespaceId =>
    "Rule for '" ++ id ++ "' overrides the rule for namespace '" ++ namespaceId ++ "'"

/-- Where in the configuration a finding is. -/
def location? : Finding → Option String
  | notLoaded path _ => some path
  | badDenyPredicate _ => some "data_permission.deny_predicate"
  | noRules => none
  | tenantNotEnabled id | dataNotEnabled id | overrides id _ => some ("operations." ++ id)
  | sharedTable table => some ("tenancy.tables." ++ table)

end Finding

/-! ## The checks -/

/-- Whether the condition that denies all is an expression. -/
def denyPredicate (c : Config) : List Finding :=
  let text := c.dataPermission.denyPredicate
  if (Sql.parseExpr c.dialect text).isSome then [] else [.badDenyPredicate text]

/-- What an operation asks for that is not enabled. -/
def notEnabled (c : Config) (id : String) (r : Config.OperationRule) : List Finding :=
  (if r.tenant && !c.tenancy.enabled then [.tenantNotEnabled id] else []) ++
    (if r.data.isSome && !c.dataPermission.enabled then [.dataNotEnabled id] else [])

/-- Rules that never apply, or that there are none. -/
def idleRules (c : Config) : List Finding :=
  (if c.operations.isEmpty then [.noRules] else []) ++
    c.operations.flatMap fun (id, r) => notEnabled c id r

/-- Tables with settings of their own that all tenants share, in the order of their names. -/
def sharedTables (c : Config) : List Finding :=
  let shared := c.tenancy.tables.filter fun (name, t) => !t.global && c.tenancy.isGlobal name
  ((shared.map (·.1)).mergeSort fun a b => decide (a ≤ b)).map .sharedTable

/-- Rules that stand in for the rule of a namespace; of several namespaces it is the nearest one. -/
def overridingRules (c : Config) : List Finding :=
  c.operations.filterMap fun (id, _) =>
    ((namespacesOf id).find? fun n => (c.operations.lookup n).isSome).map (.overrides id)

/-- The findings in a configuration that loads. -/
def ofConfig (c : Config) : List Finding :=
  denyPredicate c ++ idleRules c ++ sharedTables c ++ overridingRules c

/-- The findings in the configuration at a path. -/
def ofFile (files : Files) (path : String) : List Finding :=
  match Config.load files path with
  | .error reason => [.notLoaded path reason]
  | .ok c => ofConfig c

/-- How many findings have a severity. -/
def count (findings : List Finding) (s : Severity) : Nat :=
  findings.countP fun f => f.severity == s

/-- Whether a finding refuses the configuration. -/
def hasErrors (findings : List Finding) : Bool := findings.any fun f => f.severity == .error

/-! ## The report -/

/-- The sign of a severity. -/
def Severity.sign : Severity → String
  | .error => "✗"
  | .warning => "⚠"
  | .info => "ℹ"

/-- The line for a finding. -/
def line (f : Finding) : String :=
  let location := match f.location? with
    | some l => " [" ++ l ++ "]"
    | none => ""
  "  " ++ f.severity.sign ++ " " ++ f.severity.name ++ " [" ++ f.category ++ "]" ++ location ++
    ": " ++ f.message

/-- Whether a finding is reported before another one: graver ones are, and of equal ones those whose
category comes first. -/
def precedes (a b : Finding) : Bool :=
  decide (a.severity.rank < b.severity.rank) ||
    (a.severity.rank == b.severity.rank && decide (a.category ≤ b.category))

/-- The last line of a report. -/
def verdict (findings : List Finding) : String :=
  let errors := count findings .error
  let warnings := count findings .warning
  if errors = 0 && warnings = 0 then "✔ All checks passed!"
  else "Summary: " ++ toString errors ++ " error(s), " ++ toString warnings ++ " warning(s)"

/-- The lines of a report. -/
def report (findings : List Finding) : List String :=
  (findings.mergeSort precedes).map line ++
    ["", String.ofList (List.replicate 60 '═'), verdict findings]

end RowAccess.Audit
