import RowAccess.Sql.Parser.Definition.Option
/-!
# Reading statements on rights
-/

namespace RowAccess.Sql.Parser

/-! ## Rights -/

/-- Rights of several words, which come before those of one word. -/
def longRights : List (List String) :=
  [["IMPORTED", "PRIVILEGES"], ["ADD", "SEARCH", "OPTIMIZATION"], ["ATTACH", "LISTING"],
    ["ATTACH", "POLICY"], ["BIND", "SERVICE", "ENDPOINT"], ["EVOLVE", "SCHEMA"], ["IMPORT", "SHARE"],
    ["MANAGE", "VERSIONS"], ["MANAGE", "RELEASES"], ["OVERRIDE", "SHARE", "RESTRICTIONS"],
    ["PURCHASE", "DATA", "EXCHANGE", "LISTING"], ["RESOLVE", "ALL"], ["READ", "SESSION"]]

/-- Rights of one word that nothing follows. -/
def shortRights : List String :=
  ["APPLYBUDGET", "AUDIT", "CONNECT", "DELETE", "FAILOVER", "OPERATE", "READ", "REPLICATE", "TEMPORARY",
    "TRIGGER", "TRUNCATE", "USAGE", "OWNERSHIP", "DROP"]

/-- Rights that may be on some columns only. -/
def columnRights : List String := ["INSERT", "REFERENCES", "SELECT", "UPDATE"]

/-- What may be applied. -/
def appliedKinds : List (List String) :=
  [["AGGREGATION", "POLICY"], ["AUTHENTICATION", "POLICY"], ["JOIN", "POLICY"], ["MASKING", "POLICY"],
    ["PACKAGES", "POLICY"], ["PASSWORD", "POLICY"], ["PROJECTION", "POLICY"],
    ["ROW", "ACCESS", "POLICY"], ["SESSION", "POLICY"], ["TAG"]]

/-- What may be created. -/
def createdKinds : List (List String) :=
  [["APPLICATION", "PACKAGE"], ["COMPUTE", "POOL"], ["DATA", "EXCHANGE", "LISTING"],
    ["EXTERNAL", "VOLUME"], ["FAILOVER", "GROUP"], ["NETWORK", "POLICY"], ["ORGANIZATION", "LISTING"],
    ["REPLICATION", "GROUP"], ["ACCOUNT"], ["APPLICATION"], ["DATABASE"], ["INTEGRATION"], ["ROLE"],
    ["SCHEMA"], ["SHARE"], ["USER"], ["WAREHOUSE"]]

/-- What may be executed. -/
def executedKinds : List (List String) :=
  [["DATA", "METRIC", "FUNCTION"], ["MANAGED", "ALERT"], ["MANAGED", "TASK"], ["ALERT"], ["TASK"]]

/-- What may be managed. -/
def managedKinds : List (List String) :=
  [["ACCOUNT", "SUPPORT", "CASES"], ["EVENT", "SHARING"], ["GRANTS"],
    ["LISTING", "AUTO", "FULFILLMENT"], ["ORGANIZATION", "SUPPORT", "CASES"],
    ["USER", "SUPPORT", "CASES"], ["WAREHOUSES"]]

/-- What may be modified. -/
def modifiedKinds : List (List String) :=
  [["LOG", "LEVEL"], ["TRACE", "LEVEL"], ["SESSION", "LOG", "LEVEL"], ["SESSION", "TRACE", "LEVEL"]]

/-- What may be monitored. -/
def monitoredKinds : List (List String) := [["EXECUTION"], ["SECURITY"], ["USAGE"]]

/-- A right that a word introduces. -/
def wordedRight : P String := do
  match ← oneOf ["APPLY", "CREATE", "EXEC", "EXECUTE", "MANAGE", "MODIFY", "MONITOR", "ROLE"] with
  | "APPLY" => return "APPLY " ++ (← phrase appliedKinds)
  | "CREATE" => return "CREATE" ++ (← lastPhrase createdKinds)
  | "MANAGE" => return "MANAGE " ++ (← phrase managedKinds)
  | "MODIFY" => return "MODIFY" ++ (← lastPhrase modifiedKinds)
  | "MONITOR" => return "MONITOR" ++ (← lastPhrase monitoredKinds)
  | "ROLE" => return "ROLE " ++ (← nameText)
  | k => return k ++ (← lastPhrase executedKinds)

/-- A right. -/
def right : P String := do
  match ← phrase? longRights with
  | some words => return words
  | none =>
    if ← keywords? ["DATABASE", "ROLE"] then return "DATABASE ROLE " ++ (← nameText)
    match ← oneOf? (shortRights ++ columnRights) with
    | none => wordedRight
    | some k =>
      if columnRights.contains k then
        let columns ← optionalColumns false
        return if columns.isEmpty then k else k ++ " " ++ renderNames columns
      else return k

/-- The rights that are granted or taken, with a space after the words. -/
def rights : P String := do
  if ← keyword? "ALL" then return "ALL " ++ (← wordsIf ["PRIVILEGES"])
  else return ", ".intercalate (← commas right) ++ " "

/-! ## What they are on -/

/-- Everything of a kind in a place, now or in the future. -/
def everythingIn : List (List String) :=
  [["ALL", "TABLES", "IN", "SCHEMA"], ["ALL", "EXTERNAL", "TABLES", "IN", "SCHEMA"],
    ["ALL", "VIEWS", "IN", "SCHEMA"], ["ALL", "MATERIALIZED", "VIEWS", "IN", "SCHEMA"],
    ["ALL", "FUNCTIONS", "IN", "SCHEMA"], ["ALL", "SEQUENCES", "IN", "SCHEMA"],
    ["FUTURE", "SCHEMAS", "IN", "DATABASE"], ["FUTURE", "TABLES", "IN", "SCHEMA"],
    ["FUTURE", "EXTERNAL", "TABLES", "IN", "SCHEMA"], ["FUTURE", "VIEWS", "IN", "SCHEMA"],
    ["FUTURE", "MATERIALIZED", "VIEWS", "IN", "SCHEMA"], ["FUTURE", "SEQUENCES", "IN", "SCHEMA"],
    ["RESOURCE", "MONITOR"], ["COMPUTE", "POOL"], ["FAILOVER", "GROUP"], ["REPLICATION", "GROUP"],
    ["EXTERNAL", "VOLUME"]]

/-- Kinds of things that rights are on. -/
def objectKinds : List String :=
  ["SEQUENCE", "DATABASE", "SCHEMA", "TABLE", "VIEW", "WAREHOUSE", "INTEGRATION", "USER", "CONNECTION",
    "PROCEDURE", "FUNCTION"]

/-- A dotted name in which a star stands for every name. -/
def patternName : P String := do
  let part : P String := do if ← symbol? "*" then return "*" else identText
  let first ← part
  let more ← many (optional (symbol? ".") part)
  return ".".intercalate (first :: more)

/-- The types of the parameters of a function or procedure, if there are any. -/
def parameterTypes (g : Grammar) : P String := do
  let types ← if ← peekSymbol "(" then parens (commasUntil ")" g.type) else pure []
  return if types.isEmpty then "" else "(" ++ ", ".intercalate types ++ ")"

/-- What rights are on. Of several functions or procedures, the first one counts. -/
def rightsObject (g : Grammar) : P String := do
  match ← phrase? everythingIn with
  | some words => return words ++ " " ++ ", ".intercalate (← commas nameText)
  | none =>
    let kind ← oneOf? objectKinds
    let names ← commas patternName
    match kind with
    | none | some "TABLE" => return ", ".intercalate names
    | some k =>
      if ["PROCEDURE", "FUNCTION"].contains k then
        return k ++ " " ++ ", ".intercalate (names.take 1) ++ (← parameterTypes g)
      else return k ++ " " ++ ", ".intercalate names

/-! ## To whom -/

/-- Kinds of those who may have rights. -/
def granteeKinds : List (List String) :=
  [["ROLE"], ["USER"], ["SHARE"], ["GROUP"], ["PUBLIC"], ["DATABASE", "ROLE"], ["APPLICATION", "ROLE"],
    ["APPLICATION"]]

/-- The name of someone who may have rights, with the directory it is from. -/
def granteeName (d : Dialect) : P String := do
  let name ← accountName d
  if ← symbol? ":" then return name ++ ":" ++ (← identText) else return name

/-- Those to whom rights are granted. The kind of one holds for those after it, up to the next kind;
`fuel` bounds their number. -/
def granteeList (d : Dialect) : (kind : String) → (fuel : Nat) → P (List String)
  | _, 0 => throw .tooDeep
  | previous, fuel + 1 => do
    let kind := match ← phrase? granteeKinds with
      | some words => words ++ " "
      | none => previous
    let grantee ← if kind == "PUBLIC " then pure kind else do pure (kind ++ (← granteeName d))
    if ← symbol? "," then return grantee :: (← granteeList d kind fuel) else return [grantee]

/-- Those to whom rights are granted. -/
def grantees (d : Dialect) : P String := do
  return ", ".intercalate (← granteeList d "" ((← get).length + 1))

/-! ## Statements -/

/-- The rights and what they are on, with a space after the words. -/
def rightsOn (g : Grammar) : P String := do
  let list ← rights
  if ← keyword? "ON" then return list ++ "ON " ++ (← rightsObject g) ++ " " else return list

/-- A `GRANT`, after the word. -/
def grant (g : Grammar) : P Statement := do
  let what ← rightsOn g
  keyword "TO"
  let whom ← grantees g.dialect
  let further ← wordsBefore ["WITH", "GRANT", "OPTION"]
  let existing ← lastPhrase [["COPY", "CURRENT", "GRANTS"], ["REVOKE", "CURRENT", "GRANTS"]]
  let grantor ← identClause ["AS"]
  return plain ("GRANT " ++ what ++ "TO " ++ whom ++ further ++ existing ++ grantor ++
    (← identClause ["GRANTED", "BY"]))

/-- A `REVOKE`, after the word. -/
def revoke (g : Grammar) : P Statement := do
  let what ← rightsOn g
  keyword "FROM"
  let whom ← grantees g.dialect
  let grantor ← identClause ["GRANTED", "BY"]
  return plain ("REVOKE " ++ what ++ "FROM " ++ whom ++ grantor ++ (← dropBehavior))

/-- A `DENY`, after the word. -/
def deny (g : Grammar) : P Statement := do
  let list ← rights
  keyword "ON"
  let object ← rightsObject g
  keyword "TO"
  let whom ← grantees g.dialect
  let behavior ← dropBehavior
  return plain ("DENY " ++ list ++ "ON " ++ object ++ " TO " ++ whom ++ behavior ++ (← identClause ["AS"]))

end RowAccess.Sql.Parser
