import RowAccess.Sql.Parser.Basic
/-!
# Reading statements on plans and statistics
-/

namespace RowAccess.Sql.Parser

/-! ## Plans -/

/-- Options of a plan in parentheses, with a space after them. -/
def planOptions (g : Grammar) : P (List Piece) := do
  let option : P (List Piece) := do
    let name ← identText
    if (← peekSymbol ",") || (← peekSymbol ")") then return [.text name]
    else g.exprAfter (name ++ " ")
  return [Piece.text "("] ++ separated (← parens (commas option)) ++ [Piece.text ") "]

/-- The format of a plan, with a space after it. -/
def planFormat : P String := wordsAfter ["FORMAT"] do
  let sign := if ← symbol? "=" then "=" else " "
  return "FORMAT" ++ sign ++ (← oneOf ["TEXT", "GRAPHVIZ", "JSON", "TRADITIONAL", "TREE"]) ++ " "

/-- Which plan is asked for and how it is written, with a space after the words. -/
def planWords (g : Grammar) (word : String) : P (List Piece) := do
  if word == "EXPLAIN" && g.dialect != .mysql && (← peekSymbol "(") then return ← planOptions g
  match ← phrase? [["QUERY", "PLAN"], ["ESTIMATE"]] with
  | some words => return [.text (words ++ " ")]
  | none =>
    let analyze ← wordsIf ["ANALYZE"]
    let verbose ← wordsIf ["VERBOSE"]
    return [.text (analyze ++ verbose ++ (← planFormat))]

/-- The plan of a statement, or the columns of a table, after the word `word`. There is no plan of a
plan. -/
def explain (g : Grammar) (word : String) : P Statement := do
  let lead ← planWords g word
  let nested := ["EXPLAIN", "DESCRIBE", "DESC"].contains (← peekWord)
  match ← attempt g.statement with
  | some s =>
    if nested then unexpected
    else return .other .other ([Piece.text (word ++ " ")] ++ lead ++ [Piece.statement s])
  | none =>
    let format := match ← oneOf? ["EXTENDED", "FORMATTED"] with
      | some k => k ++ " "
      | none => ""
    return plain (word ++ " " ++ format ++ (← nameText))

/-! ## Statistics -/

/-- What is gathered on a table. -/
structure Statistics where
  partition : List Piece := []
  computed : String := ""
  unread : String := ""
  cached : String := ""
  columns : String := ""

namespace Statistics

/-- The statistics with the clause that is next, if one is. -/
def next? (g : Grammar) (s : Statistics) : P (Option Statistics) := do
  match ← oneOf? ["PARTITION", "FOR", "CACHE", "NOSCAN", "COMPUTE"] with
  | none => return none
  | some "PARTITION" => return some { s with partition := ← g.exprsInParens " PARTITION " }
  | some "FOR" => do
    keyword "COLUMNS"
    let columns := match ← attempt (commas ident) with
      | some names => " " ++ renderIdents names
      | none => ""
    return some { s with columns := " FOR COLUMNS" ++ columns }
  | some "CACHE" => do
    keyword "METADATA"
    return some { s with cached := " CACHE METADATA" }
  | some "NOSCAN" => return some { s with unread := " NOSCAN" }
  | some _ => do
    keyword "STATISTICS"
    return some { s with computed := " COMPUTE STATISTICS" }

end Statistics

/-- The statistics of a table to gather, after `ANALYZE`. -/
def analyze (g : Grammar) : P Statement := do
  let word ← wordsIf ["TABLE"]
  let table ← nameText
  let s ← repeated (Statistics.next? g) {}
  return .other .other (.text ("ANALYZE " ++ word ++ table) :: s.partition ++
    words (s.computed ++ s.unread ++ s.cached ++ s.columns))

end RowAccess.Sql.Parser
