import RowAccess.Sql.Parser.Definition.Index
import RowAccess.Sql.Parser.Definition.Table
/-!
# Reading changes of tables

An `ALTER TABLE` lists changes with commas between them.
-/

namespace RowAccess.Sql.Parser

/-! ## Additions -/

/-- The rows and columns that a projection of a table keeps, in parentheses. -/
def projectionQuery (g : Grammar) : P (List Piece) := parens do
  keyword "SELECT"
  let items ← projection g
  let (groups, groupWords) ← groupClause g
  let order ← orderClause g
  let grouped := if groups.isEmpty then [] else Piece.text " GROUP BY " :: exprPieces groups ++ groupWords
  let ordered := if order.isEmpty then [] else Piece.text " ORDER BY " :: itemsPieces order
  return [Piece.text "(SELECT "] ++ itemsPieces items ++ grouped ++ ordered ++ [Piece.text ")"]

/-- A column, or partitions, to add to a table. -/
def addColumn (g : Grammar) : P (List Piece) := do
  let missing ← unlessExists
  let partitions ← many (optional (keyword? "PARTITION") (g.exprsInParens "PARTITION "))
  if partitions.isEmpty then
    let word ← wordsIf ["COLUMN"]
    let again ← if g.dialect == .mysql then pure "" else unlessExists
    let condition := if g.dialect == .mysql then "" else if again.isEmpty then missing else again
    let column ← columnDefinition g
    return .text ("ADD " ++ word ++ condition) :: column ++ words (← columnPosition g.dialect)
  else return .text ("ADD " ++ missing) :: spaced partitions

/-- An addition to a table, after `ADD`. -/
def addition (g : Grammar) : P (List Piece) := do
  match ← tableConstraint? g with
  | some pieces => return .text "ADD " :: pieces ++ words (← wordsBefore ["NOT", "VALID"])
  | none =>
    if ← onlyIf (g.dialect == .generic) (keyword? "PROJECTION") then
      let missing ← unlessExists
      let name ← identText
      return .text ("ADD PROJECTION " ++ missing ++ name ++ " ") :: (← projectionQuery g)
    else addColumn g

/-! ## Names and switches -/

/-- A new name, after `RENAME`. -/
def tableRenaming (d : Dialect) : P String := do
  if ← onlyIf (d == .postgres) (keyword? "CONSTRAINT") then
    let old ← identText
    keyword "TO"
    return "RENAME CONSTRAINT " ++ old ++ " TO " ++ (← identText)
  match ← oneOf? ["TO", "AS"] with
  | some k => return s!"RENAME {k} " ++ (← nameText)
  | none => do
    let _ ← keyword? "COLUMN"
    let old ← identText
    keyword "TO"
    return "RENAME COLUMN " ++ old ++ " TO " ++ (← identText)

/-- Something that is switched off, after `DISABLE`. -/
def disabling : P String := do
  if ← keywords? ["ROW", "LEVEL", "SECURITY"] then return "DISABLE ROW LEVEL SECURITY"
  let kind ← oneOf ["RULE", "TRIGGER"]
  return "DISABLE " ++ kind ++ " " ++ (← identText)

/-- Something that is switched on, after `ENABLE`. -/
def enabling : P String := do
  if ← keywords? ["ROW", "LEVEL", "SECURITY"] then return "ENABLE ROW LEVEL SECURITY"
  let kind ← phrase [["ALWAYS", "RULE"], ["ALWAYS", "TRIGGER"], ["REPLICA", "RULE"],
    ["REPLICA", "TRIGGER"], ["RULE"], ["TRIGGER"]]
  return "ENABLE " ++ kind ++ " " ++ (← identText)

/-- Which columns tell the rows of a table apart where it is copied, after its words. -/
def replicaIdentity : P String := do
  match ← phrase [["NOTHING"], ["FULL"], ["DEFAULT"], ["USING", "INDEX"]] with
  | "USING INDEX" => return "REPLICA IDENTITY USING INDEX " ++ (← identText)
  | words => return "REPLICA IDENTITY " ++ words

/-! ## Removals -/

/-- A column to remove from a table. -/
def dropColumn : P String := do
  let word ← wordsIf ["COLUMN"]
  let present ← whenExists
  let name ← identText
  return "DROP " ++ word ++ present ++ name ++ (← dropBehavior)

/-- A removal from a table, after `DROP`. The word `PROJECTION` is left out where tables have none. -/
def removal (g : Grammar) : P (List Piece) := do
  if ← keywords? ["IF", "EXISTS", "PARTITION"] then g.exprsInParens "DROP IF EXISTS PARTITION "
  else if ← keyword? "PARTITION" then g.exprsInParens "DROP PARTITION "
  else if ← keyword? "CONSTRAINT" then
    let present ← whenExists
    let name ← identText
    return [.text ("DROP CONSTRAINT " ++ present ++ name ++ (← dropBehavior))]
  else if ← keywords? ["PRIMARY", "KEY"] then
    return [.text ("DROP PRIMARY KEY" ++ (← dropBehavior))]
  else if ← keywords? ["FOREIGN", "KEY"] then
    let name ← identText
    return [.text ("DROP FOREIGN KEY " ++ name ++ (← dropBehavior))]
  else if ← keyword? "INDEX" then return [.text ("DROP INDEX " ++ (← identText))]
  else
    let word ← keyword? "PROJECTION"
    if word && g.dialect == .generic then
      let present ← whenExists
      return [.text ("DROP PROJECTION " ++ present ++ (← identText))]
    else if ← keywords? ["CLUSTERING", "KEY"] then return [.text "DROP CLUSTERING KEY"]
    else return [.text (← dropColumn)]

/-! ## Columns -/

/-- The new type and options of a column, and its place. -/
def redefinition (g : Grammar) (lead : String) : P (List Piece) := do
  let type ← g.type
  let options ← columnOptions g
  return .text (lead ++ type) :: options ++ words (← columnPosition g.dialect)

/-- The new type of a column, after `TYPE`. -/
def newType (g : Grammar) (lead : String) : P (List Piece) := do
  let type ← g.type
  return .text (lead ++ "TYPE " ++ type) ::
    (← if g.dialect == .postgres then g.exprClause ["USING"] else pure [])

/-- How the identity of a row is generated, after `ADD GENERATED`. -/
def newIdentity (d : Dialect) : P String := do
  let kind ← lastPhrase [["ALWAYS"], ["BY", "DEFAULT"]]
  keywords ["AS", "IDENTITY"]
  let options ← if ← peekSymbol "(" then do pure (" (" ++ (← parens (sequenceOptions d)) ++ " )")
    else pure ""
  return "ADD GENERATED" ++ kind ++ " AS IDENTITY" ++ options

/-- A change of a column, after its name. -/
def columnChange (g : Grammar) : P (List Piece) := do
  let plainly? ← phrase? [["SET", "NOT", "NULL"], ["DROP", "NOT", "NULL"], ["DROP", "DEFAULT"]]
  match plainly? with
  | some words => return [.text words]
  | none =>
    if ← keywords? ["SET", "DEFAULT"] then g.exprAfter "SET DEFAULT "
    else if ← keywords? ["SET", "DATA", "TYPE"] then newType g "SET DATA "
    else if ← keyword? "TYPE" then newType g ""
    else
      keywords ["ADD", "GENERATED"]
      return [.text (← newIdentity g.dialect)]

/-- A change of a column, after the word `k`. -/
def alterColumn (g : Grammar) (k : String) : P (List Piece) := do
  let _ ← keyword? "COLUMN"
  let name ← identText
  match k with
  | "CHANGE" => redefinition g ("CHANGE COLUMN " ++ name ++ " " ++ (← identText) ++ " ")
  | "MODIFY" => redefinition g ("MODIFY COLUMN " ++ name ++ " ")
  | _ => return .text ("ALTER COLUMN " ++ name ++ " ") :: (← columnChange g)

/-! ## Parts -/

/-- A change of a projection of a table, if one is next. Its words are left out where tables have no
projections. -/
def projectionChange? (d : Dialect) (k : String) : P (Option String) := do
  if (← keywords? [k, "PROJECTION"]) && d == .generic then
    let present ← whenExists
    let name ← identText
    return some (k ++ " PROJECTION " ++ present ++ name ++ (← identClause ["IN", "PARTITION"]))
  else return none

/-- New names for partitions, after `PARTITION`. -/
def partitionRenaming (g : Grammar) : P (List Piece) := do
  let old ← g.exprsInParens "PARTITION "
  keywords ["RENAME", "TO", "PARTITION"]
  return old ++ (← g.exprsInParens " RENAME TO PARTITION ")

/-- A change of a part of a table, if one is next. -/
def partChange? (g : Grammar) : P (Option (List Piece)) := do
  if g.dialect != .generic then return none
  match ← oneOf? ["ATTACH", "DETACH", "FREEZE", "UNFREEZE"] with
  | none => return none
  | some k =>
    let part ← g.exprAfter (s!"{k} " ++ (← oneOf ["PART", "PARTITION"]) ++ " ")
    let name ← if k.endsWith "FREEZE" then wordsAfter ["WITH"] do
        keyword "NAME"
        return " WITH NAME " ++ (← identText)
      else pure ""
    return some (part ++ words name)

/-- Options to set for a table. -/
def newOptions (g : Grammar) : P (List Piece) := do
  let properties ← options g ["SET", "TBLPROPERTIES"]
  if !properties.isEmpty then return enclosed "SET TBLPROPERTIES" properties
  let settings ← options g ["SET"]
  if settings.isEmpty then unexpected else return enclosed "SET " settings

/-! ## Tables -/

/-- A change of a table that consists of words only, if one is next. -/
def wordedChange? (d : Dialect) : P (Option String) := do
  if ← keywords? ["SWAP"] then
    keyword "WITH"
    return some ("SWAP WITH " ++ (← nameText))
  else if ← onlyIf (d != .mysql) (keywords? ["OWNER", "TO"]) then return some ("OWNER TO " ++ (← owner))
  else if ← keyword? "AUTO_INCREMENT" then
    let sign := if ← symbol? "=" then "= " else ""
    return some ("AUTO_INCREMENT " ++ sign ++ (← numberText d))
  else if ← keywords? ["REPLICA", "IDENTITY"] then return some (← replicaIdentity)
  else if ← keywords? ["VALIDATE", "CONSTRAINT"] then
    return some ("VALIDATE CONSTRAINT " ++ (← identText))
  else
    match ← phrase? [["SUSPEND", "RECLUSTER"], ["RESUME", "RECLUSTER"]] with
    | some words => return some words
    | none => rebuild?

/-- A change of a table that starts with another word than the most common ones. -/
def furtherAlteration (g : Grammar) : P (List Piece) := do
  match ← projectionChange? g.dialect "CLEAR" with
  | some words => return [.text words]
  | none =>
    match ← projectionChange? g.dialect "MATERIALIZE" with
    | some words => return [.text words]
    | none =>
      match ← oneOf? ["DROP", "PARTITION", "CHANGE", "MODIFY", "ALTER"] with
      | some "DROP" => removal g
      | some "PARTITION" => partitionRenaming g
      | some k => alterColumn g k
      | none =>
        match ← wordedChange? g.dialect with
        | some words => return [.text words]
        | none =>
          match ← partChange? g with
          | some pieces => return pieces
          | none =>
            if ← keywords? ["CLUSTER", "BY"] then g.exprsInParens "CLUSTER BY " else newOptions g

/-- A change of a table. -/
def alteration (g : Grammar) : P (List Piece) := do
  match ← oneOf? ["ADD", "RENAME", "DISABLE", "ENABLE"] with
  | some "ADD" => addition g
  | some "RENAME" => return [.text (← tableRenaming g.dialect)]
  | some "DISABLE" => return [.text (← disabling)]
  | some _ => return [.text (← enabling)]
  | none => furtherAlteration g

/-- The new place of the rows of a table. -/
def newLocation : P String := do
  if ← keyword? "LOCATION" then return " LOCATION " ++ (← identText)
  else wordsAfter ["SET", "LOCATION"] do return " SET LOCATION " ++ (← identText)

/-- A change of a table, after the words `lead`. -/
def alterTable (g : Grammar) (lead : String) : P Statement := do
  let present ← whenExists
  let only ← wordsIf ["ONLY"]
  let table ← nameText
  let cluster ← onCluster
  let changes ← commas (alteration g)
  return definition (.text (lead ++ present ++ only ++ table ++ cluster ++ " ") :: separated changes ++
    words (← newLocation))

end RowAccess.Sql.Parser
