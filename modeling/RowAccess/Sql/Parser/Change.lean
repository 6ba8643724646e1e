import RowAccess.Sql.Parser.Definition.Option
import RowAccess.Sql.Parser.Query
/-!
# Reading statements that change rows

`INSERT`, `UPDATE`, `DELETE` and `MERGE`. Each parser starts after the keyword.
-/

namespace RowAccess.Sql.Parser

/-! ## Shared clauses -/

/-- What to do on a conflict, as words before the table. -/
def conflictWords : P String := do
  let ways := ["REPLACE", "ROLLBACK", "ABORT", "FAIL", "IGNORE"]
  match ← phrase? (ways.map (["OR", ·])) with
  | some words => return words ++ " "
  | none => return if ← keyword? "REPLACE" then "OR REPLACE " else ""

/-- The columns that are answered for each changed row. -/
def returningClause (g : Grammar) : P (List Piece) := clause ["RETURNING"] do
  return .text " RETURNING " :: itemsPieces (← commas (selectItem g))

/-! ## Update and delete -/

/-- An `UPDATE`. -/
def update (g : Grammar) : P Update := do
  let conflict ← conflictWords
  let target ← joined g
  let early ← if ← keyword? "FROM" then relations g else pure []
  keyword "SET"
  let list ← commas (assignment g)
  let late ← if early.isEmpty && (← peekKeyword "FROM") then do
      skip 1
      relations g
    else pure []
  let selection ← optional (keyword? "WHERE") g.expr
  let returning ← returningClause g
  let limit ← g.exprClause ["LIMIT"]
  return {
    conflict, target, assignments := list, relationsFirst := !early.isEmpty
    relations := early ++ late, selection, tail := returning ++ limit }

/-- A `DELETE`. -/
def delete (g : Grammar) : P Delete := do
  let fromWord ← keyword? "FROM"
  let (tables, fromWord) ← if fromWord || g.dialect == .generic then pure ([], fromWord) else do
      let tables ← commas objectName
      keyword "FROM"
      pure (tables, true)
  let list ← relations g
  let others ← if ← keyword? "USING" then relations g else pure []
  let selection ← optional (keyword? "WHERE") g.expr
  let returning ← returningClause g
  let order ← orderClause g
  let limit ← if ← keywords? ["LIMIT", "ALL"] then pure [] else g.exprClause ["LIMIT"]
  let ordering := if order.isEmpty then [] else Piece.text " ORDER BY " :: itemsPieces order
  return { tables, fromWord, relations := list, others, selection,
           tail := returning ++ ordering ++ limit }

/-! ## Insert -/

/-- What becomes of a row that is there already, after `ON CONFLICT`. -/
def onConflict (g : Grammar) : P (List Piece) := do
  let target ← if ← keywords? ["ON", "CONSTRAINT"] then do pure (" ON CONSTRAINT " ++ (← nameText))
    else if ← peekSymbol "(" then do pure (renderNames (← identsInParens))
    else pure ""
  keyword "DO"
  if ← keyword? "NOTHING" then return [.text (" ON CONFLICT" ++ target ++ " DO NOTHING")]
  keywords ["UPDATE", "SET"]
  let list ← assignments g
  return .text (" ON CONFLICT" ++ target ++ " DO UPDATE SET ") :: list ++
    (← g.exprClause ["WHERE"])

/-- What becomes of a row that is there already. -/
def conflictClause (g : Grammar) : P (List Piece) := clause ["ON"] do
  if ← keyword? "CONFLICT" then onConflict g
  else
    keywords ["DUPLICATE", "KEY", "UPDATE"]
    return .text " ON DUPLICATE KEY UPDATE " :: (← assignments g)

/-- The name of the inserted row, and of its columns. -/
def rowAlias (d : Dialect) : P String := do
  if d == .postgres then return ""
  wordsAfter ["AS"] do
    let name ← nameText
    let columns ← optionalColumns false
    return " AS " ++ name ++ (if columns.isEmpty then "" else " " ++ renderNames columns)

/-- The rows of an insert, with the columns they are for. -/
def insertSource (g : Grammar) : P (List Piece) := do
  if ← keywords? ["DEFAULT", "VALUES"] then return [.text "DEFAULT VALUES"]
  let subquery := (← peekSymbol "(") && (← peekKeywordAt 1 "SELECT")
  let columns ← if subquery then pure [] else optionalColumns (g.dialect == .mysql)
  let partition ← if subquery then pure [] else clause ["PARTITION"] do
    return [Piece.text "PARTITION ("] ++ exprPieces (← parens (commas g.expr)) ++
      [Piece.text ") "]
  let lead := if columns.isEmpty then [] else [Piece.text (renderNames columns ++ " ")]
  if g.dialect == .mysql && (← peekKeyword "SET") then
    skip 1
    return lead ++ partition ++ [Piece.text "SET "] ++ (← assignments g)
  return lead ++ partition ++ [Piece.query (← g.query)]

/-- An insert of the rows of a query into files, after `DIRECTORY`. -/
def insertDirectory (g : Grammar) (lead : String) : P Statement := do
  let path ← bareQuotedText g.dialect
  let format ← wordsAfter ["STORED", "AS"] do return " STORED AS " ++ (← oneOf fileFormats)
  return .other .export [.text ("INSERT" ++ lead ++ " DIRECTORY " ++ path ++ format ++ " "),
    .query (← g.query)]

/-- An `INSERT`, whose first word is `word`. -/
def insert (g : Grammar) (word : String) : P Statement := do
  let d := g.dialect
  let conflict ← conflictWords
  let priority ← if d == .postgres then pure ""
    else lastWord ["LOW_PRIORITY", "DELAYED", "HIGH_PRIORITY"]
  let ignore ← if d == .postgres then pure "" else wordsBefore ["IGNORE"]
  let overwrite ← wordsBefore ["OVERWRITE"]
  let into ← wordsBefore ["INTO"]
  let here ← wordsBefore ["LOCAL"]
  if ← keyword? "DIRECTORY" then return ← insertDirectory g (overwrite ++ here)
  let tableWord ← wordsBefore ["TABLE"]
  let table ← nameText
  let aliased ← if d == .postgres then wordsAfter ["AS"] do return " AS " ++ (← identText)
    else pure ""
  let source ← insertSource g
  let row ← rowAlias d
  let already ← conflictClause g
  let returning ← returningClause g
  let lead := if conflict.isEmpty then word ++ priority ++ ignore ++ overwrite ++ into ++ tableWord
    else "INSERT " ++ conflict ++ "INTO"
  return .insert table
    ([Piece.text (lead ++ " " ++ table ++ aliased ++ " ")] ++ source ++ [Piece.text row] ++
      already ++ returning)

/-! ## Merge -/

/-- What a merge does with the rows of one kind, if a further clause is next. -/
def mergeClause? (g : Grammar) : P (Option (List Piece)) := do
  if ← keyword? "WHEN" then
    let missing ← keyword? "NOT"
    keyword "MATCHED"
    let side ← if missing then lastPhrase [["BY", "SOURCE"], ["BY", "TARGET"]] else pure ""
    let condition ← g.exprClause ["AND"]
    keyword "THEN"
    let inserts := missing && side != " BY SOURCE"
    let action ← match ← oneOf ["UPDATE", "DELETE", "INSERT"] with
      | "UPDATE" => do
        if inserts then unexpected
        keyword "SET"
        pure (.text "UPDATE SET " :: (← assignments g))
      | "DELETE" => if inserts then unexpected else pure [.text "DELETE"]
      | _ => do
        if !inserts then unexpected
        let columns ← optionalColumns (g.dialect == .mysql)
        let lead := if columns.isEmpty then "INSERT " else "INSERT " ++ renderNames columns ++ " "
        if g.dialect == .generic && (← peekKeyword "ROW") then
          skip 1
          pure [.text (lead ++ "ROW")]
        else
          keyword "VALUES"
          let (rowWord, members) ← rows g (g.dialect == .mysql)
          pure [.text lead, .query (.ofBody (.values "VALUES" rowWord members))]
    return some ([Piece.text ("WHEN " ++ (if missing then "NOT " else "") ++ "MATCHED" ++ side)] ++
      condition ++ [Piece.text " THEN "] ++ action)
  else return none

/-- What is answered for each merged row, and the table it goes into. -/
def mergeOutput (g : Grammar) : P (List Piece) := do
  match ← oneOf? ["OUTPUT", "RETURNING"] with
  | none => return []
  | some word =>
    let items ← projection g
    let into ← if word == "OUTPUT" then intoClause else pure ""
    return .text (" " ++ word ++ " ") :: itemsPieces items ++ words into

/-- A `MERGE`. -/
def merge (g : Grammar) : P Statement := do
  let into ← keyword? "INTO"
  let target ← g.relation
  keyword "USING"
  let source ← g.relation
  keyword "ON"
  let condition ← g.expr
  let clauses ← many (mergeClause? g)
  let output ← mergeOutput g
  return .other .other ([Piece.text (if into then "MERGE INTO " else "MERGE "),
    .relation target, .text " USING ", .relation source, .text " ON ", .expr condition,
    .text " "] ++ spaced clauses ++ output)

/-- A statement that changes rows, if one is next. -/
def change? (g : Grammar) : P (Option Statement) := do
  match ← oneOf? ["INSERT", "UPDATE", "DELETE", "MERGE"] with
  | none => return none
  | some "INSERT" => return some (← insert g "INSERT")
  | some "UPDATE" => return some (.update (← update g))
  | some "DELETE" => return some (.delete (← delete g))
  | some _ => return some (← merge g)

end RowAccess.Sql.Parser
