import RowAccess.Sql.Parser.Definition.Column
/-!
# Reading definitions of schemas, databases and what else is known by its name

Schemas, databases, sequences, extensions, servers and connectors.
-/

namespace RowAccess.Sql.Parser

/-! ## Schemas and databases -/

/-- The name of a schema, or of the one whom it belongs to. -/
def schemaName : P String := do
  if ← keyword? "AUTHORIZATION" then return "AUTHORIZATION " ++ (← identText)
  else
    let name ← nameText
    return name ++ (← identClause ["AUTHORIZATION"])

/-- A schema to create. -/
def createSchema (g : Grammar) : P Statement := do
  let missing ← unlessExists
  let name ← schemaName
  let collation ← g.exprClause ["DEFAULT", "COLLATE"]
  let settings ← options? g "WITH"
  let others ← options? g "OPTIONS"
  let source ← nameClause ["CLONE"]
  return .other .other (.text ("CREATE SCHEMA " ++ missing ++ name) :: collation ++
    enclosedIf " WITH " settings ++ enclosedIf " OPTIONS" others ++ words source)

/-- A change of a schema, after its name. -/
def schemaChange (g : Grammar) : P (List Piece) := do
  if (← peekKeyword "SET") && (← peekKeywordAt 1 "OPTIONS") then
    skip 1
    return enclosedIf " SET OPTIONS " (some (← options g ["OPTIONS"]))
  else if ← keywords? ["SET", "DEFAULT", "COLLATE"] then g.exprAfter " SET DEFAULT COLLATE "
  else if ← keywords? ["ADD", "REPLICA"] then
    let name ← identText
    return .text (" ADD REPLICA " ++ name) :: enclosedIf " OPTIONS " (← options? g "OPTIONS")
  else if ← keywords? ["DROP", "REPLICA"] then return [.text (" DROP REPLICA " ++ (← identText))]
  else if ← keywords? ["RENAME", "TO"] then return [.text (" RENAME TO " ++ (← nameText))]
  else
    keywords ["OWNER", "TO"]
    return [.text (" OWNER TO " ++ (← owner))]

/-- A change of a schema, after `ALTER SCHEMA`. -/
def alterSchema (g : Grammar) : P Statement := do
  let present ← whenExists
  let name ← nameText
  return .other .other (.text ("ALTER SCHEMA " ++ present ++ name) :: (← schemaChange g))

/-- A place of a database with its word, if one is next. -/
def databasePlace? (d : Dialect) : P (Option (String × String)) := do
  match ← oneOf? ["LOCATION", "MANAGEDLOCATION"] with
  | none => return none
  | some k => return some (k, s!" {k} " ++ (← bareQuotedText d))

/-- A database to create. Of each kind of place, the last one holds. -/
def createDatabase (d : Dialect) : P Statement := do
  let missing ← unlessExists
  let name ← nameText
  let places := (← many (databasePlace? d)).reverse
  let source ← nameClause ["CLONE"]
  let written := ["LOCATION", "MANAGEDLOCATION"].filterMap fun k => places.lookup k
  return plain ("CREATE DATABASE " ++ missing ++ name ++ String.join written ++ source)

/-! ## Sequences and extensions -/

/-- A sequence to create, after the words `lead`. -/
def createSequence (g : Grammar) (lead : String) : P Statement := do
  let missing ← unlessExists
  let name ← nameText
  let type ← wordsAfter ["AS"] do return " AS " ++ (← g.type)
  let options ← sequenceOptions g.dialect
  let column ← wordsAfter ["OWNED", "BY"] do
    return " OWNED BY " ++ (← if ← keyword? "NONE" then pure "NONE" else nameText)
  return plain ("CREATE " ++ lead ++ "SEQUENCE " ++ missing ++ name ++ type ++ options ++ column)

/-- An extension to create. -/
def createExtension : P Statement := do
  let missing ← unlessExists
  let name ← identText
  let options ← wordsAfter ["WITH"] do
    let schema ← identClause ["SCHEMA"]
    let version ← identClause ["VERSION"]
    return schema ++ version ++ (← wordsBefore ["CASCADE"])
  return plain ("CREATE EXTENSION " ++ missing ++ name ++ if options.isEmpty then "" else " WITH" ++ options)

/-! ## Servers and connectors -/

/-- A server of other data to create. -/
def createServer : P Statement := do
  let missing ← unlessExists
  let name ← nameText
  let kind ← identClause ["TYPE"]
  let version ← identClause ["VERSION"]
  keywords ["FOREIGN", "DATA", "WRAPPER"]
  let wrapper ← nameText
  let option : P String := do return (← identText) ++ " " ++ (← identText)
  let options ← wordsAfter ["OPTIONS"] do
    return " OPTIONS (" ++ ", ".intercalate (← parens (commas option)) ++ ")"
  return plain ("CREATE SERVER " ++ missing ++ name ++ kind ++ version ++ " FOREIGN DATA WRAPPER " ++ wrapper ++
    options)

/-- A text between single quotes after the word `k`, with the words `lead` before it, if it is next. -/
def textAfter (d : Dialect) (k lead : String) : P String := wordsAfter [k] do
  return lead ++ (← bareQuotedText d)

/-- A connector to create. -/
def createConnector (g : Grammar) : P Statement := do
  let d := g.dialect
  let missing ← unlessExists
  let name ← identText
  let kind ← textAfter d "TYPE" " TYPE "
  let place ← textAfter d "URL" " URL "
  let comment ← wordsAfter ["COMMENT"] do
    let _ ← symbol? "="
    return " COMMENT = '" ++ (← commentText) ++ "'"
  let settings ← options g ["WITH", "DCPROPERTIES"]
  return .other .other (.text ("CREATE CONNECTOR " ++ missing ++ name ++ kind ++ place ++ comment) ::
    enclosed " WITH DCPROPERTIES" settings)

/-- A change of a connector, after `ALTER CONNECTOR`. -/
def alterConnector (g : Grammar) : P Statement := do
  let name ← identText
  keyword "SET"
  let settings ← options g ["DCPROPERTIES"]
  let place ← textAfter g.dialect "URL" " SET URL "
  let holder ← wordsAfter ["OWNER"] do
    return " SET OWNER " ++ (← oneOf ["USER", "ROLE"]) ++ " " ++ (← identText)
  return .other .other (.text ("ALTER CONNECTOR " ++ name) :: enclosed " SET DCPROPERTIES" settings ++
    words (place ++ holder))

end RowAccess.Sql.Parser
