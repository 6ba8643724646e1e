import RowAccess.Sql.Parser.Assignment
import RowAccess.Sql.Parser.Select
/-!
# Reading pipes

After a query, each `|>` hands the rows so far to an operator. An operator is kept as its words in
normal form.
-/

namespace RowAccess.Sql.Parser

/-! ## Set operations -/

/-- How a set operation treats duplicates and names, with the space before the words. -/
def setQuantifier : P String :=
  lastPhrase [["DISTINCT", "BY", "NAME"], ["BY", "NAME"], ["ALL", "BY", "NAME"], ["ALL"], ["DISTINCT"]]

/-- Queries in parentheses. -/
def pipedQueries (g : Grammar) : P (List Piece) := do
  let queries ← commas (parens g.query)
  return separated (queries.map fun q => [.text "(", .query q, .text ")"])

/-! ## Operators -/

/-- A name that may follow, with or without `AS`. -/
def pipedAlias : P String := do
  if ← keyword? "AS" then return " AS " ++ (← identText)
  else return aliasWords (← attempt ident)

/-- An expression with its alias and its direction. -/
def aggregateItem (g : Grammar) : P (List Piece) := do
  let e ← g.expr
  let aliased ← aliasName? fun k => !(["ASC", "DESC", "GROUP"].contains k)
  return [.expr e, .text (aliasWords (aliased.map (·.2)) ++ (← lastWord ["ASC", "DESC"]))]

/-- Aggregates, with the groups they are taken over. -/
def pipedAggregate (g : Grammar) : P (List Piece) := do
  let aggregates ← if ← peekKeyword "GROUP" then pure [] else do
    pure (.text " " :: separated (← commas (aggregateItem g)))
  let groups ← clause ["GROUP", "BY"] do
    return .text " GROUP BY " :: separated (← commas (aggregateItem g))
  return .text "AGGREGATE" :: aggregates ++ groups

/-- What turns the values of a column into columns. -/
def pipedPivot (g : Grammar) : P (List Piece) := do
  symbol "("
  let aggregates ← commas (namedAggregate g)
  keyword "FOR"
  let column ← nameText
  keyword "IN"
  let values ← parens (pivotValues g)
  symbol ")"
  return [Piece.text "PIVOT("] ++ separated aggregates ++
    [Piece.text (" FOR " ++ column ++ " IN (")] ++ values ++ [Piece.text ("))" ++ (← pipedAlias))]

/-- What turns columns into the values of one column. -/
def pipedUnpivot : P (List Piece) := do
  symbol "("
  let value ← identText
  keyword "FOR"
  let name ← identText
  keyword "IN"
  let columns ← identsInParens
  symbol ")"
  return [.text ("UNPIVOT(" ++ value ++ " FOR " ++ name ++ " IN " ++ renderNames columns ++ ")" ++
    (← pipedAlias))]

/-- A column with its new name. -/
def pipedRename : P String := do
  let old ← identText
  let _ ← keyword? "AS"
  return old ++ " AS " ++ (← identText)

/-- A join of the rows so far. -/
def pipedJoin (g : Grammar) : P (List Piece) := do
  match ← many (join? g) with
  | [.mk _ kind relation _ constraint] =>
    let after := match constraint with
      | .on condition => [Piece.text " ON ", .expr condition]
      | other => [.text other.render]
    return [.text (kind.render ++ " "), .relation relation] ++ after
  | _ => unexpected

/-- The operator that the keyword `k`, which has been read, introduces. -/
def pipeOperator (g : Grammar) (k : String) : P (List Piece) := do
  match k with
  | "SELECT" | "EXTEND" => return .text (k ++ " ") :: itemsPieces (← commas (selectItem g))
  | "SET" => return .text "SET " :: (← assignments g)
  | "DROP" => return [.text ("DROP " ++ renderIdents (← wordsToEnd))]
  | "AS" => return [.text ("AS " ++ (← identText))]
  | "WHERE" => g.exprAfter "WHERE "
  | "LIMIT" => do
    let limit ← g.exprAfter "LIMIT "
    return limit ++ (← g.exprClause ["OFFSET"])
  | "AGGREGATE" => pipedAggregate g
  | "ORDER" => do
    keyword "BY"
    return .text "ORDER BY " :: itemsPieces (← commas (orderItem g))
  | "TABLESAMPLE" => sample g k
  | "RENAME" => return [.text ("RENAME " ++ ", ".intercalate (← commas pipedRename))]
  | "UNION" => do
    let quantifier ← setQuantifier
    return .text ("UNION" ++ quantifier ++ " ") :: (← pipedQueries g)
  | "INTERSECT" | "EXCEPT" => do
    let quantifier ← phrase [["DISTINCT", "BY", "NAME"], ["DISTINCT"]]
    return .text (k ++ " " ++ quantifier ++ " ") :: (← pipedQueries g)
  | "CALL" => do
    let e ← call g (← objectName)
    return [.text "CALL ", .expr e, .text (← pipedAlias)]
  | "PIVOT" => pipedPivot g
  | "UNPIVOT" => pipedUnpivot
  | _ => unexpected

/-- The operators of a query. -/
def pipes (g : Grammar) : P (List Piece) := do
  if g.dialect != .generic then return []
  let pipe : P (List Piece) := do
    let joins := ["JOIN", "INNER", "LEFT", "RIGHT", "FULL", "CROSS"]
    let operator ← if joins.contains (← peekWord) then pipedJoin g else do
      match ← advance with
      | .word _ k => pipeOperator g k
      | _ => unexpected
    return .text " |> " :: operator
  return (← many (optional (symbol? "|>") pipe)).flatten

end RowAccess.Sql.Parser
