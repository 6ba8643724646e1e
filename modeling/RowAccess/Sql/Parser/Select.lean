import RowAccess.Sql.Parser.Relation
/-!
# Reading selects

A `SELECT` with its columns, its relations and the clauses that filter, group and order their rows.
-/

namespace RowAccess.Sql.Parser

/-! ## Columns -/

/-- A name with its new name. -/
def newName : P String := do
  let old ← identText
  keyword "AS"
  return old ++ " AS " ++ (← identText)

/-- An expression that replaces a column, with the name of the column. -/
def replacement (g : Grammar) : P (List Piece) := do
  let e ← g.expr
  let word ← wordsBefore ["AS"]
  return [.expr e, .text (word ++ " " ++ (← identText))]

/-- Names in parentheses, or one name without. -/
def namesOrName : P String := do
  if ← peekSymbol "(" then return renderNames (← identsInParens) else identText

/-- What is left out of a wildcard or changed in it. -/
def wildcardOptions (g : Grammar) : P (List Piece) := do
  if g.dialect != .generic then return []
  let pattern ← wordsAfter ["ILIKE"] do
    match ← advance with
    | .literal (.string s) => return " ILIKE " ++ quoted '\'' s
    | _ => unexpected
  let excluded ← if pattern.isEmpty then
      wordsAfter ["EXCLUDE"] do return " EXCLUDE " ++ (← namesOrName)
    else pure ""
  let except ← wordsAfter ["EXCEPT"] do
    let names ← if ← peekSymbol "(" then identsInParens else do pure [← ident]
    return " EXCEPT " ++ renderNames names
  let replaced ← clause ["REPLACE"] do
    return [Piece.text " REPLACE ("] ++ separated (← parens (commas (replacement g))) ++
      [Piece.text ")"]
  let renamed ← wordsAfter ["RENAME"] do
    if ← peekSymbol "(" then
      return " RENAME (" ++ ", ".intercalate (← parens (commas newName)) ++ ")"
    else return " RENAME " ++ (← newName)
  return words (pattern ++ excluded ++ except) ++ replaced ++ words renamed

/-- A column of a `SELECT`. -/
def selectItem (g : Grammar) : P Item := do
  match ← wildcardOrExpr g with
  | .wildcard qualifier => return .mk (.wildcard qualifier) none (← wildcardOptions g)
  | .name [⟨word, none⟩] =>
    if keywordOf word == "FROM" then unexpected
    else return .mk (.name [⟨word, none⟩]) (← columnAlias?) []
  | e => return .mk e (← columnAlias?) []

/-- Whether the list of columns ends after a comma. -/
def afterLastComma : P Bool := do
  match ← peek with
  | none => return true
  | some (.word _ k) => return reservedForColumn.contains k
  | some (.symbol s) => return [")", ";", "]", "\x7d"].contains s
  | _ => return false

/-- A further column, if the list goes on. -/
def nextSelectItem? (g : Grammar) : P (Option Item) := do
  if ← symbol? "," then
    if g.dialect == .generic && (← afterLastComma) then return none
    else return some (← selectItem g)
  else return none

/-- Columns, at least one. -/
def projection (g : Grammar) : P (List Item) := do
  let first ← selectItem g
  return first :: (← many (nextSelectItem? g))

/-- The columns of a `SELECT`. -/
def selectItems (g : Grammar) : P (List Item) := do
  if g.dialect != .mysql && (← peekKeyword "FROM") then return [] else projection g

/-- Which duplicates a `SELECT` drops. -/
def distinctClause (g : Grammar) : P (List Piece) := do
  let all ← keyword? "ALL"
  clause ["DISTINCT"] do
    if all then unexpected
    if ← keyword? "ON" then
      let on ← parens (commasUntil ")" g.expr)
      return [Piece.text " DISTINCT ON ("] ++ exprPieces on ++ [Piece.text ")"]
    else return [.text " DISTINCT"]

/-- How many rows a `SELECT` takes. -/
def topClause (g : Grammar) : P (List Piece) := clause ["TOP"] do
  let count ← if ← peekSymbol "(" then do
      pure [Piece.text " TOP (", .expr (← parens g.expr), .text ")"]
    else do pure [.text s!" TOP {← naturalNumber}"]
  let percent ← wordsBefore ["PERCENT"]
  return count ++ [Piece.text (percent ++ (← wordsBefore ["WITH", "TIES"]))]

/-- The table a `SELECT` creates. -/
def intoClause : P String := wordsAfter ["INTO"] do
  let temporary := if (← oneOf? ["TEMP", "TEMPORARY"]).isSome then " TEMPORARY" else ""
  let unlogged ← wordsBefore ["UNLOGGED"]
  let table ← wordsBefore ["TABLE"]
  return " INTO" ++ temporary ++ unlogged ++ table ++ " " ++ (← nameText)

/-! ## Groups -/

/-- Expressions in parentheses, of which there may be none. -/
def groupTuple (g : Grammar) : P (List Expr) := parens (commasUntil ")" g.expr)

/-- Expressions in parentheses, of which there may be none, or one without parentheses. -/
def groupMembers (g : Grammar) : P (List Expr) := do
  if ← peekSymbol "(" then groupTuple g else return [← g.expr]

/-- Lists of expressions, each in parentheses, with commas between them. -/
def tuplePieces (lists : List (List Expr)) : List Piece :=
  separated (lists.map fun es => [Piece.text "("] ++ exprPieces es ++ [Piece.text ")"])

/-- Expressions in parentheses, or one without. -/
def liftedTuple (g : Grammar) : P (List Piece) := do
  match ← groupMembers g with
  | [e] => return [.expr e]
  | members => return [Piece.text "("] ++ exprPieces members ++ [Piece.text ")"]

/-- An expression to group by. -/
def groupItem (g : Grammar) : P Expr := do
  if g.dialect == .mysql then return ← g.expr
  if ← keywords? ["GROUPING", "SETS"] then
    let sets ← parens (commas (groupTuple g))
    return .special ([Piece.text "GROUPING SETS ("] ++ tuplePieces sets ++ [Piece.text ")"])
  match ← oneOf? ["CUBE", "ROLLUP"] with
  | some word =>
    let sets ← parens (commas (liftedTuple g))
    return .special ([Piece.text (word ++ " (")] ++ separated sets ++ [Piece.text ")"])
  | none =>
    if (← peekSymbol "(") && (← peekSymbolAt 1 ")") then
      skip 2
      return .tuple []
    else g.expr

/-- The words after the expressions to group by. -/
def groupOptions (g : Grammar) : P (List Piece) := do
  let totals ← if g.dialect != .generic then pure [] else
    many (optional (keyword? "WITH") do
      return Piece.text (" WITH " ++ (← oneOf ["ROLLUP", "CUBE", "TOTALS"])))
  let sets ← clause ["GROUPING", "SETS"] do
    let sets ← parens (commas (groupMembers g))
    return [Piece.text " GROUPING SETS ("] ++ tuplePieces sets ++ [Piece.text ")"]
  return totals ++ sets

/-- The expressions to group by, and the words after them. -/
def groupClause (g : Grammar) : P (List Expr × List Piece) := do
  if ← keywords? ["GROUP", "BY"] then
    let items ← if ← keyword? "ALL" then pure [.name [⟨"ALL", none⟩]] else commas (groupItem g)
    return (items, ← groupOptions g)
  else return ([], [])

/-! ## Selects -/

/-- The views that `LATERAL VIEW` adds: a function of the rows, its name and those of its columns. -/
def lateralView? (g : Grammar) : P (Option (List Piece)) := optional (keywords? ["LATERAL", "VIEW"]) do
  let outer ← wordsBefore ["OUTER"]
  let call ← g.expr
  let name ← nameText
  let column : P (Option Ident) := do
    let aliased ← aliasName? fun k => !(["WHERE", "GROUP", "CLUSTER", "HAVING", "LATERAL"].contains k)
    return aliased.map (·.2)
  let columns := (← commas column).filterMap id
  return [.text (" LATERAL VIEW" ++ outer ++ " "), .expr call,
    .text (" " ++ name ++ if columns.isEmpty then "" else " AS " ++ renderIdents columns)]

/-- How rows are distributed and sorted. -/
def clusteringClauses (g : Grammar) : P (List Piece) := do
  let cluster ← clause ["CLUSTER", "BY"] (g.exprsAfter " CLUSTER BY ")
  let distribute ← clause ["DISTRIBUTE", "BY"] (g.exprsAfter " DISTRIBUTE BY ")
  let sort ← clause ["SORT", "BY"] do
    return .text " SORT BY " :: itemsPieces (← commas (orderItem g))
  return cluster ++ distribute ++ sort

/-- A window with its name. -/
def namedWindow (g : Grammar) : P (List Piece) := do
  let name ← identText
  keyword "AS"
  if ← peekSymbol "(" then return .text (name ++ " AS ") :: (← windowSpec g)
  else if g.dialect == .generic then return [.text (name ++ " AS " ++ (← identText))]
  else unexpected

/-- Named windows, if there are any. -/
def windowClause (g : Grammar) : P (List Piece) :=
  clause ["WINDOW"] do return .text " WINDOW " :: separated (← commas (namedWindow g))

/-- How rows follow from others, after `CONNECT BY`. -/
def connections (g : Grammar) : P (List Piece) := do
  return .text " CONNECT BY " :: exprPieces (← commas (g.operandIn .hierarchy 0))

/-- The order of rows in a hierarchy: where it starts and how rows follow from others, in either
order. -/
def hierarchyClause (g : Grammar) : P (List Piece) := do
  if g.dialect != .generic then return []
  match ← oneOf? ["START", "CONNECT"] with
  | none => return []
  | some "START" =>
    keyword "WITH"
    let start ← g.exprAfter " START WITH "
    keywords ["CONNECT", "BY"]
    return start ++ (← connections g)
  | some _ =>
    keyword "BY"
    let following ← connections g
    keywords ["START", "WITH"]
    return (← g.exprAfter " START WITH ") ++ following

/-- The relations of a `FROM` list. -/
def relations (g : Grammar) : P (List Joined) := commas (joined g)

/-- The parts of a `SELECT` after the word. -/
def selectAfterWord (g : Grammar) (before : Option (List Joined)) : P Select := do
  let distinct ← distinctClause g
  let top ← topClause g
  let projection ← selectItems g
  let into ← intoClause
  let sources ← match before with
    | some list => pure list
    | none => if ← keyword? "FROM" then relations g else pure []
  let views ← many (lateralView? g)
  let prewhere ← if g.dialect == .generic then optional (keyword? "PREWHERE") g.expr else pure none
  let selection ← optional (keyword? "WHERE") g.expr
  let (groupBy, options) ← groupClause g
  let clustering ← clusteringClauses g
  let having ← optional (keyword? "HAVING") g.expr
  let early ← windowClause g
  let qualify ← optional (keyword? "QUALIFY") g.expr
  let late ← if early.isEmpty && qualify.isSome then windowClause g else pure []
  return {
    form := if before.isSome then .relationsFirst else .standard
    distinct := distinct ++ top, projection, into, relations := sources, views := views.flatten
    prewhere, selection, groupBy, groupOptions := options, clustering, having
    windows := early ++ late, windowsFirst := !early.isEmpty, qualify
    hierarchy := ← hierarchyClause g }

/-- A `SELECT`. -/
def select (g : Grammar) : P Select := do
  if ← onlyIf (g.dialect == .generic) (keyword? "FROM") then
    let list ← relations g
    if ← keyword? "SELECT" then selectAfterWord g (some list)
    else return {
      form := .relationsOnly, distinct := [], projection := [], into := "", relations := list
      views := [], prewhere := none, selection := none, groupBy := [], groupOptions := []
      clustering := [], having := none, windows := [], windowsFirst := false, qualify := none
      hierarchy := [] }
  else
    keyword "SELECT"
    selectAfterWord g none

end RowAccess.Sql.Parser
