import RowAccess.Sql.Parser.Definition.Column
import RowAccess.Sql.Parser.Query
/-!
# Reading definitions of views
-/

namespace RowAccess.Sql.Parser

/-- How a view is computed and with whose rights, with a space after each clause. -/
def viewSecurity (d : Dialect) : P String := do
  let algorithm ← wordsAfter ["ALGORITHM"] do
    symbol "="
    return "ALGORITHM = " ++ (← oneOf ["UNDEFINED", "MERGE", "TEMPTABLE"]) ++ " "
  let definer ← wordsAfter ["DEFINER"] do
    symbol "="
    return "DEFINER = " ++ (← accountName d) ++ " "
  let rights ← wordsAfter ["SQL", "SECURITY"] do
    return "SQL SECURITY " ++ (← oneOf ["DEFINER", "INVOKER"]) ++ " "
  return algorithm ++ definer ++ rights

/-- A column of a view with its options. -/
def viewColumn (g : Grammar) : P (List Piece) := do
  let name ← identText
  let options ← many (columnOption? g)
  return .text name :: if options.isEmpty then [] else .text " " :: separated options

/-- The columns of a view in parentheses after a space, if any are named. -/
def viewColumns (g : Grammar) : P (List Piece) := do
  let columns ← if ← peekSymbol "(" then parens (commasUntil ")" (viewColumn g)) else pure []
  return if columns.isEmpty then [] else [Piece.text " ("] ++ separated columns ++ [Piece.text ")"]

/-- The name of a view, with the words that it is only created if it does not exist where they are
written. -/
def viewName : P String := do
  let missing ← unlessExists
  let name ← nameText
  return missing ++ name ++
    (← if missing.isEmpty then wordsBefore ["IF", "NOT", "EXISTS"] else pure "")

/-- The options of a view after its columns: those after `WITH`, and those that come last in their
place. -/
def viewOptions (g : Grammar) (settings : List Piece) : P (List Piece × List Piece) := do
  let late ← if g.dialect == .generic then options g ["OPTIONS"] else pure []
  return if late.isEmpty then (enclosed " WITH " settings, []) else ([], enclosed " OPTIONS" late)

/-- A view to create. The words `lead` stand before those on its security, and `temporary` right
before its word. -/
def createView (g : Grammar) (lead security temporary : String) : P Statement := do
  let secure ← wordsIf ["SECURE"]
  let materialized ← wordsIf ["MATERIALIZED"]
  keyword "VIEW"
  let name ← viewName
  let columns ← viewColumns g
  let settings ← options g ["WITH"]
  let clustered ← if ← keywords? ["CLUSTER", "BY"] then optionalColumns false else pure []
  let (early, late) ← viewOptions g settings
  let target ← if g.dialect == .generic then nameClause ["TO"] else pure ""
  let comment ← if g.dialect != .generic then pure "" else wordsAfter ["COMMENT"] do
    symbol "="
    return " COMMENT = " ++ quoted '\'' (← commentText)
  keyword "AS"
  let q ← g.query
  let unbound ← if g.dialect == .generic then wordsBefore ["WITH", "NO", "SCHEMA", "BINDING"] else pure ""
  let clusters := if clustered.isEmpty then "" else " CLUSTER BY " ++ renderNames clustered
  return definition
    (.text ("CREATE " ++ lead ++ security ++ secure ++ materialized ++ temporary ++ "VIEW " ++ name ++
        target) :: columns ++ early ++ words (comment ++ clusters) ++ late ++
      [Piece.text " AS ", .query q] ++ words unbound)

/-- A change of a view, after `ALTER VIEW`. -/
def alterView (g : Grammar) : P Statement := do
  let name ← nameText
  let columns ← optionalColumns false
  let settings ← options g ["WITH"]
  keyword "AS"
  let list := if columns.isEmpty then "" else " " ++ renderNames columns
  return .other .other (.text ("ALTER VIEW " ++ name) :: enclosed " WITH " settings ++
    [Piece.text (list ++ " AS "), .query (← g.query)])

end RowAccess.Sql.Parser
