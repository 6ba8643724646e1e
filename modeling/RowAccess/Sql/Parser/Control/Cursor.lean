import RowAccess.Sql.Parser.Literal
/-!
# Reading statements on cursors
-/

namespace RowAccess.Sql.Parser

/-- A cursor on the rows of a query, after `DECLARE`. -/
def declare (g : Grammar) : P Statement := do
  let name ← identText
  let binary ← wordsBefore ["BINARY"]
  let sensitive ← lastWord ["INSENSITIVE", "ASENSITIVE"]
  let scroll ← lastPhrase [["SCROLL"], ["NO", "SCROLL"]]
  keyword "CURSOR"
  let hold ← match ← oneOf? ["WITH", "WITHOUT"] with
    | some k => do
      keyword "HOLD"
      pure (" " ++ k ++ " HOLD")
    | none => pure ""
  keyword "FOR"
  return .other .other [.text ("DECLARE " ++ name ++ binary ++ sensitive ++ scroll ++ " CURSOR" ++ hold ++
    " FOR "), .query (← g.query)]

/-- The rows that are fetched, relative to those fetched before. -/
def fetchDirection (d : Dialect) : P String := do
  match ← oneOf? ["NEXT", "PRIOR", "FIRST", "LAST", "ABSOLUTE", "RELATIVE", "FORWARD", "BACKWARD",
      "ALL"] with
  | none => numberText d
  | some k =>
    if ["ABSOLUTE", "RELATIVE"].contains k then return k ++ " " ++ (← numberText d)
    else if ["FORWARD", "BACKWARD"].contains k then
      return k ++ " " ++ (← if ← keyword? "ALL" then pure "ALL" else numberText d)
    else return k

/-- Rows to fetch from a cursor, after `FETCH`. -/
def fetch (d : Dialect) : P Statement := do
  let rows ← fetchDirection d
  let word ← oneOf ["FROM", "IN"]
  let name ← identText
  return plain ("FETCH " ++ rows ++ " " ++ word ++ " " ++ name ++ (← nameClause ["INTO"]))

/-- A statement on a cursor, after the word `k`. -/
def cursor (g : Grammar) (k : String) : P Statement := do
  match k with
  | "DECLARE" => declare g
  | "FETCH" => fetch g.dialect
  | "CLOSE" => return plain ("CLOSE " ++ (← if ← keyword? "ALL" then pure "ALL" else identText))
  | _ => return plain ("OPEN " ++ (← identText))

end RowAccess.Sql.Parser
