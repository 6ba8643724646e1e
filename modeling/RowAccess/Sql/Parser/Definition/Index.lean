import RowAccess.Sql.Parser.Definition.Constraint
/-!
# Reading definitions of indexes
-/

namespace RowAccess.Sql.Parser

/-! ## Rebuilding -/

/-- The way a table is changed after `word`, with the equals sign if it is written. -/
def rebuildChoice (word : String) (ways : List String) : P String := do
  let sign := if ← symbol? "=" then "= " else ""
  return word ++ " " ++ sign ++ (← oneOf ways)

/-- How a table is rebuilt and locked while it is changed, if that is next. -/
def rebuild? : P (Option String) := do
  match ← oneOf? ["ALGORITHM", "LOCK"] with
  | none => return none
  | some "LOCK" => return some (← rebuildChoice "LOCK" ["DEFAULT", "EXCLUSIVE", "NONE", "SHARED"])
  | some _ => return some (← rebuildChoice "ALGORITHM" ["DEFAULT", "INSTANT", "INPLACE", "COPY"])

/-! ## Indexes -/

/-- The name of an index before `ON`, with a space after it, and how the index is built. -/
def indexHead (missing : String) : P (String × Option String) := do
  if ← onlyIf missing.isEmpty (keyword? "ON") then return ("", none)
  let name ← nameText
  let kind ← indexKind?
  keyword "ON"
  return (name ++ " ", kind)

/-- An index to create, after the words `lead`. How it is built is said before the table or after it;
what is said last holds. -/
def createIndex (g : Grammar) (lead : String) : P Statement := do
  let concurrently ← wordsIf ["CONCURRENTLY"]
  let missing ← unlessExists
  let (name, early) ← indexHead missing
  let table ← nameText
  let kind := (← indexKind?).or early
  let columns ← indexColumns g
  let included ← wordsAfter ["INCLUDE"] do return " INCLUDE " ++ renderNames (← identsInParens)
  let nulls ← nullDistinctness
  let settings ← if g.dialect == .mysql then pure [] else clause ["WITH"] (g.exprsInParens " WITH ")
  let condition ← g.exprClause ["WHERE"]
  let options ← indexOptions g.dialect " "
  let rebuilds := (← many rebuild?).map fun words => [Piece.text words]
  let method := match kind with
    | some k => " USING " ++ k ++ " "
    | none => ""
  return definition
    (.text ("CREATE " ++ lead ++ "INDEX " ++ concurrently ++ missing ++ name ++ "ON " ++ table ++ method) ::
      columns ++ words (included ++ nulls) ++ settings ++ condition ++ options ++ afterSpaces rebuilds)

/-- A change of an index, after `ALTER INDEX`. -/
def alterIndex : P Statement := do
  let name ← nameText
  keywords ["RENAME", "TO"]
  return plain ("ALTER INDEX " ++ name ++ " RENAME TO " ++ (← nameText))

end RowAccess.Sql.Parser
