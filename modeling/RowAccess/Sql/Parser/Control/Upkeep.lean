import RowAccess.Sql.Keyword
import RowAccess.Sql.Parser.Alias
import RowAccess.Sql.Parser.Definition.Table
/-!
# Reading statements on the upkeep of a server

Connections, caches, files, locks and notifications.
-/

namespace RowAccess.Sql.Parser

/-! ## Connections and caches -/

/-- Work to end, after `KILL`. -/
def kill (d : Dialect) : P Statement := do
  let kind ← lastWord (["CONNECTION", "QUERY"] ++ if d == .generic then ["MUTATION"] else [])
  return plain s!"KILL{kind} {← naturalNumber}"

/-- What may be flushed, tables apart. -/
def flushed : List (List String) :=
  [["BINARY", "LOGS"], ["ENGINE", "LOGS"], ["ERROR", "LOGS"], ["GENERAL", "LOGS"], ["HOSTS"],
    ["PRIVILEGES"], ["OPTIMIZER_COSTS"], ["RELAY", "LOGS"], ["SLOW", "LOGS"], ["STATUS"],
    ["USER_RESOURCES"], ["LOGS"]]

/-- Tables to flush, and what the flush is for. -/
structure FlushedTables where
  tables : String := ""
  locked : String := ""
  exported : String := ""

namespace FlushedTables

/-- What is known after the next word, if one is next. Words that say nothing are left out, and the
first token that is no word as well. -/
def next? (t : FlushedTables) : P (Option FlushedTables) := do
  match ← peek with
  | some (.word _ k) =>
    if k == "WITH" then
      skip 1
      return some { t with locked := (← wordsAfter ["READ", "LOCK"] (pure " WITH READ LOCK")) }
    else if k == "FOR" then
      skip 1
      return some { t with exported := (← wordsAfter ["EXPORT"] (pure " FOR EXPORT")) }
    else if isKeyword k then
      skip 1
      return some t
    else return some { t with tables := " " ++ ", ".intercalate (← commas nameText) }
  | _ => do
    skip 1
    return none

end FlushedTables

/-- What is written out or read anew, after `FLUSH`. -/
def flush (d : Dialect) : P Statement := do
  if d == .postgres then unexpected
  let lead := "FLUSH" ++ (← lastWord ["NO_WRITE_TO_BINLOG", "LOCAL"])
  match ← phrase? flushed with
  | some "RELAY LOGS" =>
    return plain (lead ++ " RELAY LOGS" ++ (← nameClause ["FOR", "CHANNEL"]))
  | some words => return plain (lead ++ " " ++ words)
  | none => do
    keyword "TABLES"
    let t ← repeated FlushedTables.next? {}
    return plain (lead ++ " TABLES" ++ t.tables ++ t.locked ++ t.exported)

/-- The query whose rows are cached, up to the end. -/
def cachedQuery (g : Grammar) : P (List Piece) := do
  match ← peek with
  | none => return []
  | some (.word _ _) => do
    let link ← wordsBefore ["AS"]
    return [.text (link ++ " "), .query (← g.query)]
  | _ => unexpected

/-- A table to cache, after `CACHE`. -/
def cache (g : Grammar) : P Statement := do
  let flag ← if ← peekKeyword "TABLE" then pure "" else do pure ((← nameText) ++ " ")
  keyword "TABLE"
  let table ← nameText
  let settings ← options g ["OPTIONS"]
  return .other .other (.text ("CACHE " ++ flag ++ "TABLE " ++ table) :: enclosed " OPTIONS" settings ++
    (← cachedQuery g))

/-- A table that is cached no longer, after `UNCACHE`. -/
def uncache : P Statement := do
  keyword "TABLE"
  return plain ("UNCACHE TABLE " ++ (← whenExists) ++ (← nameText))

/-- What a session forgets, after `DISCARD`. -/
def discard : P Statement := do
  match ← oneOf ["ALL", "PLANS", "SEQUENCES", "TEMP", "TEMPORARY"] with
  | "TEMPORARY" => return plain "DISCARD TEMP"
  | k => return plain ("DISCARD " ++ k)

/-! ## Files and extensions -/

/-- A file to attach as a database, after `ATTACH`. -/
def attach (g : Grammar) : P Statement := do
  let word ← wordsIf ["DATABASE"]
  let file ← g.exprAfter ("ATTACH " ++ word)
  keyword "AS"
  return .other .other (file ++ [Piece.text (" AS " ++ (← identText))])

/-- A database to detach, after `DETACH`. -/
def detach : P Statement := do
  let word ← wordsIf ["DATABASE"]
  return plain ("DETACH " ++ word ++ (← whenExists) ++ (← identText))

/-- What becomes of partitions that are not known, or gone. -/
def partitionRepair : P String := do
  let change ← lastWord ["ADD", "DROP", "SYNC"]
  keyword "PARTITIONS"
  return if change.isEmpty then "" else change ++ " PARTITIONS"

/-- A table whose partitions are looked for, after `MSCK`. -/
def checkPartitions : P Statement := do
  let repair ← wordsIf ["REPAIR"]
  keyword "TABLE"
  let table ← nameText
  let change := (← attempt partitionRepair).getD ""
  return plain ("MSCK " ++ repair ++ "TABLE " ++ table ++ change)

/-! ## Tables -/

/-- Tables with new names, after `RENAME`. -/
def renameTables : P Statement := do
  keyword "TABLE"
  let pair : P String := do
    let old ← nameText
    keyword "TO"
    return old ++ " TO " ++ (← nameText)
  return plain ("RENAME TABLE " ++ ", ".intercalate (← commas pair))

/-- A table to store more compactly, after `OPTIMIZE`. -/
def optimize (g : Grammar) : P Statement := do
  keyword "TABLE"
  let table ← nameText
  let cluster ← onCluster
  let part ← clause ["PARTITION"] do
    if ← keyword? "ID" then return [.text (" PARTITION ID " ++ (← identText))]
    else g.exprAfter " PARTITION "
  let last ← wordsBefore ["FINAL"]
  let distinct ← clause ["DEDUPLICATE"] do
    return .text " DEDUPLICATE" :: (← g.exprClause ["BY"])
  return .other .other (.text ("OPTIMIZE TABLE " ++ table ++ cluster) :: part ++ words last ++ distinct)

/-- Storage to free, after `VACUUM`. -/
def vacuum (d : Dialect) : P Statement := do
  let full ← wordsBefore ["FULL"]
  let sort ← wordsBefore ["SORT", "ONLY"]
  let delete ← wordsBefore ["DELETE", "ONLY"]
  let index ← wordsBefore ["REINDEX"]
  let cluster ← wordsBefore ["RECLUSTER"]
  let lead := "VACUUM" ++ full ++ sort ++ delete ++ index ++ cluster
  match ← attempt nameText with
  | none => return plain lead
  | some table => do
    let threshold ← wordsAfter ["TO"] do
      let share ← literalText d
      keyword "PERCENT"
      return " TO " ++ share ++ " PERCENT"
    return plain (lead ++ " " ++ table ++ threshold ++ (← wordsBefore ["BOOST"]))

/-- Things that comments are on. -/
def commented : List (List String) :=
  [["COLUMN"], ["DATABASE"], ["DOMAIN"], ["EXTENSION"], ["FUNCTION"], ["INDEX"],
    ["MATERIALIZED", "VIEW"], ["PROCEDURE"], ["ROLE"], ["SCHEMA"], ["SEQUENCE"], ["TABLE"], ["TYPE"],
    ["USER"], ["VIEW"]]

/-- A comment on something, after `COMMENT`. -/
def commentOn (d : Dialect) : P Statement := do
  let present ← whenExists
  keyword "ON"
  let kind ← phrase commented
  let name ← nameText
  keyword "IS"
  let comment ← if ← keyword? "NULL" then pure "NULL" else bareQuotedText d
  return plain ("COMMENT " ++ present ++ "ON " ++ kind ++ " " ++ name ++ " IS " ++ comment)

/-- A lock on a table. -/
def tableLock : P String := do
  let table ← identText
  let aliased ← aliasName? fun k => !(["READ", "WRITE", "LOW_PRIORITY"].contains k)
  let kind ← phrase [["READ", "LOCAL"], ["READ"], ["WRITE"], ["LOW_PRIORITY", "WRITE"]]
  return table ++ aliasWords (aliased.map (·.2)) ++ " " ++ kind

/-! ## Notifications -/

/-- A message on a channel, or an interest in one, after the word `k`. -/
def notification (d : Dialect) (k : String) : P Statement := do
  match k with
  | "UNLISTEN" => return plain ("UNLISTEN " ++ (← if ← symbol? "*" then pure "*" else identText))
  | "NOTIFY" => do
    let channel ← identText
    let message ← if ← symbol? "," then do pure (", " ++ (← bareQuotedText d)) else pure ""
    return plain ("NOTIFY " ++ channel ++ message)
  | _ => return plain ("LISTEN " ++ (← identText))

/-! ## Statements -/

/-- A statement on the upkeep of a server, after the word `k`. -/
def upkeep (g : Grammar) (k : String) : P Statement := do
  let d := g.dialect
  match k with
  | "KILL" => kill d
  | "FLUSH" => flush d
  | "CACHE" => cache g
  | "UNCACHE" => uncache
  | "DISCARD" => discard
  | "ATTACH" => attach g
  | "MSCK" => checkPartitions
  | "RENAME" => renameTables
  | "VACUUM" => vacuum d
  | "DETACH" => if d == .generic then detach else unexpected
  | "OPTIMIZE" => if d == .generic then optimize g else unexpected
  | "INSTALL" => if d == .generic then return plain ("INSTALL " ++ (← identText)) else unexpected
  | "LOAD" => if d == .mysql then unexpected else return plain ("LOAD " ++ (← identText))
  | "COMMENT" => if d == .mysql then unexpected else commentOn d
  | "LOCK" => do
    if d != .mysql then unexpected
    keyword "TABLES"
    return plain ("LOCK TABLES " ++ ", ".intercalate (← commas tableLock))
  | "UNLOCK" => do
    if d != .mysql then unexpected
    keyword "TABLES"
    return plain "UNLOCK TABLES"
  | _ => if d == .postgres then notification d k else unexpected

end RowAccess.Sql.Parser
