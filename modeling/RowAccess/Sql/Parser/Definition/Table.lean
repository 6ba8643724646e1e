import RowAccess.Sql.Parser.Definition.Constraint
import RowAccess.Sql.Parser.Query
/-!
# Reading definitions of tables

The clauses of a definition are read in one order and written in another: each is a field of
`TableClauses`, and `TableClauses.pieces` puts them in the order they are written in.
-/

namespace RowAccess.Sql.Parser

/-! ## Storage -/

/-- A delimiter of the fields of stored rows, after the words `lead`. -/
def delimiter (lead : String) : P String := return lead ++ " " ++ (← identText)

/-- The delimiters of stored rows, if one is next. Words that introduce none are left out. -/
def rowDelimiters? : P (Option (List String)) := do
  match ← oneOf? ["FIELDS", "COLLECTION", "MAP", "LINES", "NULL"] with
  | none => return none
  | some "FIELDS" =>
    if ← keywords? ["TERMINATED", "BY"] then
      let ended ← delimiter "FIELDS TERMINATED BY"
      let escaped ← optional (keywords? ["ESCAPED", "BY"]) (delimiter "ESCAPED BY")
      return some (ended :: escaped.toList)
    else return none
  | some k =>
    let ks := match k with
      | "COLLECTION" => ["ITEMS", "TERMINATED", "BY"]
      | "MAP" => ["KEYS", "TERMINATED", "BY"]
      | "LINES" => ["TERMINATED", "BY"]
      | _ => ["DEFINED", "AS"]
    if ← keywords? ks then return some [← delimiter (" ".intercalate (k :: ks))] else return none

/-- The format of stored rows, after `ROW`. -/
def rowFormat (d : Dialect) : P String := do
  keyword "FORMAT"
  if ← keyword? "SERDE" then return " ROW FORMAT SERDE " ++ (← bareQuotedText d)
  let _ ← keyword? "DELIMITED"
  let delimiters := (← many rowDelimiters?).flatten
  return " ROW FORMAT DELIMITED" ++ String.join (delimiters.map (" " ++ ·))

/-- How and where the rows of a table are stored. -/
structure Storage where
  format : List Piece := []
  /-- The formats that files are read and written in. -/
  files : List Piece := []
  /-- The one format of the files. -/
  file : String := ""
  properties : List Piece := []
  location : String := ""

namespace Storage

/-- The storage with the clause that is next, if one is. -/
def next? (g : Grammar) (s : Storage) : P (Option Storage) := do
  match ← oneOf? ["ROW", "STORED", "LOCATION"] with
  | some "ROW" => return some { s with format := [.text (← rowFormat g.dialect)] }
  | some "STORED" => do
    keyword "AS"
    if ← keyword? "INPUTFORMAT" then
      let input ← g.exprAfter " STORED AS INPUTFORMAT "
      keyword "OUTPUTFORMAT"
      return some { s with files := input ++ (← g.exprAfter " OUTPUTFORMAT "), file := "" }
    else return some { s with file := " STORED AS " ++ (← oneOf fileFormats), files := [] }
  | some _ => return some { s with location := " LOCATION " ++ (← bareQuotedText g.dialect) }
  | none =>
    let properties ← options g ["WITH", "SERDEPROPERTIES"]
    return if properties.isEmpty then none
      else some { s with properties := enclosed " WITH SERDEPROPERTIES " properties }

/-- A storage as it is written; that of an external table has its place last. -/
def pieces (s : Storage) (external : Bool) : List Piece :=
  if external then s.format ++ s.files ++ s.properties ++ words (s.file ++ s.location)
  else s.format ++ s.files ++ words s.file ++ s.properties ++ words s.location

end Storage

/-- How and where the rows of a table are stored. -/
def storage (g : Grammar) : P Storage := repeated (Storage.next? g) {}

/-! ## Parts of a table -/

/-- A cluster that something is defined on. -/
def onCluster : P String := identClause ["ON", "CLUSTER"]

/-- A column or a constraint of a table, and whether it is a column. -/
def tableElement (g : Grammar) : P (Bool × List Piece) := do
  match ← tableConstraint? g with
  | some pieces => return (false, pieces)
  | none =>
    match ← peek with
    | some (.word _ _) => return (true, ← columnDefinition g)
    | _ => unexpected

/-- The columns and constraints of a table in parentheses, the columns first, and whether there are
any. -/
def tableElements (g : Grammar) : P (List Piece × Bool) := do
  let elements ← if ← peekSymbol "(" then parens (commasUntil ")" (tableElement g)) else pure []
  let (columns, constraints) := elements.partition (·.1)
  let list := (columns ++ constraints).map (·.2)
  return (if list.isEmpty then [] else [Piece.text " ("] ++ separated list ++ [Piece.text ")"],
    !list.isEmpty)

/-- The columns by whose values a table is divided. -/
def partitionedBy (g : Grammar) : P (List Piece) := clause ["PARTITIONED", "BY"] do
  return [Piece.text " PARTITIONED BY ("] ++
    separated (← parens (commas (columnDefinition g))) ++ [Piece.text ")"]

/-- The columns by whose values rows are put into buckets. -/
def clusteredBy (g : Grammar) : P (List Piece) := do
  if g.dialect != .generic then return []
  clause ["CLUSTERED", "BY"] do
    let columns ← identsInParens
    let sorted ← clause ["SORTED", "BY"] do
      return [Piece.text " SORTED BY ("] ++ itemsPieces (← parens (commas (orderItem g))) ++
        [Piece.text ")"]
    keyword "INTO"
    let count ← numberText g.dialect
    keyword "BUCKETS"
    return .text (" CLUSTERED BY " ++ renderNames columns) :: sorted ++
      [Piece.text (" INTO " ++ count ++ " BUCKETS")]

/-- Options of a table with values, of which the last clause holds. -/
def valuedOptions (g : Grammar) : P (List Piece) := do
  let plain ← options g ["WITH"]
  let properties ← options g ["TBLPROPERTIES"]
  return if properties.isEmpty then enclosed " WITH " plain
    else enclosed " TBLPROPERTIES " properties

/-- The order of the rows of a table. -/
def tableOrder (g : Grammar) : P (List Piece) := clause ["ORDER", "BY"] do
  if ← peekSymbol "(" then
    let columns ← parens (commasUntil ")" g.expr)
    return [Piece.text " ORDER BY ("] ++ exprPieces columns ++ [Piece.text ")"]
  else g.exprAfter " ORDER BY "

/-- What becomes of the rows of a table when a transaction ends. -/
def onCommit : P String := wordsAfter ["ON", "COMMIT"] do
  return " ON COMMIT " ++ (← phrase [["DELETE", "ROWS"], ["PRESERVE", "ROWS"], ["DROP"]])

/-- The query whose rows a table starts with. -/
def tableQuery (g : Grammar) : P (List Piece) := do
  if (← keyword? "AS") || g.dialect != .postgres && (← peekKeyword "SELECT") then
    return [.text " AS ", .query (← g.query)]
  else return []

/-! ## Tables -/

/-- A table to create, after the words `lead`. -/
def createTable (g : Grammar) (lead : String) : P Statement := do
  let d := g.dialect
  let missing ← unlessExists
  let name ← nameText
  let cluster ← onCluster
  let like ← if (← oneOf? ["LIKE", "ILIKE"]).isSome then do pure (" LIKE " ++ (← nameText))
    else pure ""
  let clone ← if ← keyword? "CLONE" then attempt nameText else pure none
  let (elements, hasElements) ← tableElements g
  let rowid ← wordsBefore ["WITHOUT", "ROWID"]
  let partitioned ← partitionedBy g
  let clustered ← clusteredBy g
  let stored ← storage g
  let parents ← wordsAfter ["INHERITS"] do
    return " INHERITS (" ++ ", ".intercalate (← parens (commas nameText)) ++ ")"
  let valued ← valuedOptions g
  let partition ← if d == .mysql then pure [] else clause ["PARTITION", "BY"] (g.exprAfter " PARTITION BY ")
  let clustering ← if d != .generic then pure [] else clause ["CLUSTER", "BY"] (g.exprsAfter " CLUSTER BY ")
  let late? ← if d != .generic then pure none
    else options? g "OPTIONS"
  let plain ← if valued.isEmpty && late?.isNone then tableOptions d else pure ""
  let key ← if d != .generic then pure [] else clause ["PRIMARY", "KEY"] (g.exprAfter " PRIMARY KEY ")
  let order ← tableOrder g
  let commit ← onCommit
  let strict ← wordsBefore ["STRICT"]
  let query ← tableQuery g
  let columns := if hasElements || !query.isEmpty || !like.isEmpty || clone.isSome then elements
    else [.text " ()"]
  let copied := match clone with
    | some source => " CLONE " ++ source
    | none => ""
  let early := match late? with
    | some _ => []
    | none => valued ++ words (if plain.isEmpty then "" else " " ++ plain)
  return definition
    (.text ("CREATE " ++ lead ++ "TABLE " ++ missing ++ name ++ cluster) :: columns ++
      words (rowid ++ like ++ copied) ++ partitioned ++ clustered ++ stored.pieces false ++ early ++
      key ++ order ++ words parents ++ partition ++ clustering ++ enclosedIf " OPTIONS" late? ++ words (commit ++ strict) ++
      query)

/-- A table whose rows are stored elsewhere, after `EXTERNAL`. -/
def createExternalTable (g : Grammar) (replace : String) : P Statement := do
  keyword "TABLE"
  let missing ← unlessExists
  let name ← nameText
  let (elements, hasElements) ← tableElements g
  let partitioned ← partitionedBy g
  let stored ← storage g
  let properties ← options g ["TBLPROPERTIES"]
  let columns := if hasElements then elements else [.text " ()"]
  return definition
    (.text ("CREATE " ++ replace ++ "EXTERNAL TABLE " ++ missing ++ name) :: columns ++
      partitioned ++ stored.pieces true ++ enclosed " TBLPROPERTIES " properties)

/-- A table that a module provides, after `VIRTUAL`. -/
def createVirtualTable : P Statement := do
  keyword "TABLE"
  let missing ← unlessExists
  let name ← nameText
  keyword "USING"
  let provider ← identText
  let columns ← optionalColumns false
  return plain ("CREATE VIRTUAL TABLE " ++ missing ++ name ++ " USING " ++ provider ++
    if columns.isEmpty then "" else " " ++ renderNames columns)

end RowAccess.Sql.Parser
