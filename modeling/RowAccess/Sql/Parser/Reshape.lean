import RowAccess.Sql.Parser.Alias
import RowAccess.Sql.Parser.Call
import RowAccess.Sql.Parser.Strength
/-!
# Reading clauses that reshape relations

`PIVOT`, `UNPIVOT` and `MATCH_RECOGNIZE` make another relation of the one before them. Each parser
starts after the keyword.
-/

namespace RowAccess.Sql.Parser

/-! ## Pivots -/

/-- An expression with the name it may have after `AS`. -/
def namedExpr (g : Grammar) : P (List Piece) := do
  let e ← g.expr
  return [.expr e, .text (← wordsAfter ["AS"] do return " AS " ++ (← identText))]

/-- A call of an aggregate with the name it may have. -/
def namedAggregate (g : Grammar) : P (List Piece) := do
  match ← advance with
  | .word i _ => do
    let e ← call g [⟨i.value, none⟩]
    let aliased ← aliasWhere? fun explicit k => k != "FOR" && (explicit || columnAlias k)
    return [.expr e, .text (aliasWords (aliased.map (·.2)))]
  | _ => unexpected

/-- Where the values of a pivot come from. -/
def pivotValues (g : Grammar) : P (List Piece) := do
  if ← keyword? "ANY" then
    let order ← orderClause g
    return if order.isEmpty then [.text "ANY"] else .text "ANY ORDER BY " :: itemsPieces order
  else if ["SELECT", "WITH"].contains (← peekWord) then return [.query (← g.query)]
  else return separated (← commas (namedExpr g))

/-- What turns the values of columns into columns. -/
def pivotClause (g : Grammar) : P (List Piece) := do
  symbol "("
  let aggregates ← commas (namedAggregate g)
  keyword "FOR"
  let strength := OperatorGroup.between.strength g.dialect
  let column ← if ← peekSymbol "(" then do
      let columns ← parens (commas (g.operand strength))
      pure ([Piece.text "("] ++ exprPieces columns ++ [Piece.text ")"])
    else do pure [.expr (← g.operand strength)]
  keyword "IN"
  let values ← parens (pivotValues g)
  let default ← clause ["DEFAULT", "ON", "NULL"] do
    return [.text " DEFAULT ON NULL (", .expr (← parens g.expr), .text ")"]
  symbol ")"
  return [Piece.text " PIVOT("] ++ separated aggregates ++ [Piece.text " FOR "] ++ column ++
    [Piece.text " IN ("] ++ values ++ [Piece.text ")"] ++ default ++ [Piece.text ")"]

/-- What turns columns into the values of one column. -/
def unpivotClause (g : Grammar) : P (List Piece) := do
  let nulls ← match ← oneOf? ["INCLUDE", "EXCLUDE"] with
    | some k => do
      keyword "NULLS"
      pure (" " ++ k ++ " NULLS ")
    | none => pure ""
  symbol "("
  let value ← g.expr
  keyword "FOR"
  let name ← ident
  keyword "IN"
  let columns ← parens (commas (namedExpr g))
  symbol ")"
  return [Piece.text (" UNPIVOT" ++ nulls ++ "("), .expr value,
    .text (" FOR " ++ name.render ++ " IN (")] ++ separated columns ++ [Piece.text "))"]

/-! ## Patterns of rows -/

/-- A bound on repetitions. -/
def repetitionBound : P Nat := do
  match ← advance with
  | .literal (.number digits _) =>
    match numberUpTo? 4294967295 digits with
    | some n => return n
    | none => unexpected
  | _ => unexpected

/-- The bounds of repetitions between braces, after the opening one. -/
def repetitionRange : P String := do
  if ← symbol? "," then
    let high ← repetitionBound
    symbol "\x7d"
    return s!",{high}"
  let low ← repetitionBound
  if ← symbol? "," then
    if ← symbol? "\x7d" then return s!"{low},"
    let high ← repetitionBound
    symbol "\x7d"
    return s!"{low},{high}"
  symbol "\x7d"
  return toString low

/-- How often a part of a pattern is repeated, if said. -/
def repetition? : P (Option String) := do
  match ← peek with
  | some (.symbol "*") => do
    skip 1
    return some "*"
  | some (.symbol "+") => do
    skip 1
    return some "+"
  | some (.literal (.parameter "?")) => do
    skip 1
    return some "?"
  | some (.symbol "\x7b") => do
    skip 1
    return some ("\x7b" ++ (← repetitionRange) ++ "\x7d")
  | _ => return none

/-- A part of a pattern: a group read by `group`, the start or the end of the rows, a kind of row, one
that is left out, or kinds of rows in any order. -/
def patternPart (group : P String) : P String := do
  match ← peek with
  | some (.symbol "(") => do
    return "( " ++ (← parens group) ++ " )"
  | some (.symbol "^") => do
    skip 1
    return "^"
  | some (.literal (.parameter "$")) => do
    skip 1
    return "$"
  | some (.symbol "\x7b") => do
    skip 1
    symbol "-"
    let row ← identText
    symbol "-"
    symbol "\x7d"
    return "\x7b- " ++ row ++ " -\x7d"
  | some (.word ⟨"PERMUTE", none⟩ _) => do
    skip 1
    return "PERMUTE(" ++ renderIdents (← identsInParens) ++ ")"
  | _ => identText

/-- A pattern of rows: alternatives of sequences of repeated parts. `fuel` bounds its depth. -/
def rowPattern : (fuel : Nat) → P String
  | 0 => throw .tooDeep
  | fuel + 1 => do
    let part : P String := do
      let base ← patternPart (rowPattern fuel)
      return base ++ String.join (← many repetition?)
    let next : P (Option String) := do
      if (← peekSymbol ")") || (← peekSymbol "|") then return none else return some (← part)
    let first ← part
    let sequence := " ".intercalate (first :: (← many next))
    if ← symbol? "|" then return sequence ++ " | " ++ (← rowPattern fuel) else return sequence

/-- How many rows are answered for a match. -/
def rowsPerMatch : P String := do
  if ← keywords? ["ONE", "ROW", "PER", "MATCH"] then return "ONE ROW PER MATCH "
  else if ← keywords? ["ALL", "ROWS", "PER", "MATCH"] then
    if ← keywords? ["SHOW", "EMPTY", "MATCHES"] then
      return "ALL ROWS PER MATCH SHOW EMPTY MATCHES "
    else if ← keywords? ["OMIT", "EMPTY", "MATCHES"] then
      return "ALL ROWS PER MATCH OMIT EMPTY MATCHES "
    else if ← keywords? ["WITH", "UNMATCHED", "ROWS"] then
      return "ALL ROWS PER MATCH WITH UNMATCHED ROWS "
    else return "ALL ROWS PER MATCH "
  else return ""

/-- Where the next match starts. -/
def afterMatch : P String := do
  if ← keywords? ["AFTER", "MATCH", "SKIP"] then
    if ← keywords? ["PAST", "LAST", "ROW"] then return "AFTER MATCH SKIP PAST LAST ROW "
    else if ← keywords? ["TO", "NEXT", "ROW"] then return "AFTER MATCH SKIP TO NEXT ROW "
    else
      keyword "TO"
      let side ← oneOf ["FIRST", "LAST"]
      return "AFTER MATCH SKIP TO " ++ side ++ " " ++ (← ident).render ++ " "
  else return ""

/-- What finds patterns in sequences of rows. -/
def matchClause (g : Grammar) : P (List Piece) := do
  symbol "("
  let partition ← if ← keywords? ["PARTITION", "BY"] then do
      pure ([Piece.text "PARTITION BY "] ++ exprPieces (← commas g.expr) ++ [Piece.text " "])
    else pure []
  let order ← orderClause g
  let ordering := if order.isEmpty then []
    else [Piece.text "ORDER BY "] ++ itemsPieces order ++ [Piece.text " "]
  let measure : P (List Piece) := do
    let e ← g.expr
    let _ ← keyword? "AS"
    return [.expr e, .text (" AS " ++ (← ident).render)]
  let measures ← if ← keyword? "MEASURES" then do
      pure ([Piece.text "MEASURES "] ++ separated (← commas measure) ++ [Piece.text " "])
    else pure []
  let perMatch ← rowsPerMatch
  let after ← afterMatch
  keyword "PATTERN"
  let pattern ← parens (rowPattern ((← get).length + 1))
  keyword "DEFINE"
  let definition : P (List Piece) := do
    let name ← ident
    keyword "AS"
    return [.text (name.render ++ " AS "), .expr (← g.expr)]
  let definitions ← commas definition
  symbol ")"
  return [Piece.text " MATCH_RECOGNIZE("] ++ partition ++ ordering ++ measures ++
    [Piece.text (perMatch ++ after ++ "PATTERN (" ++ pattern ++ ") DEFINE ")] ++
    separated definitions ++ [Piece.text ")"]

end RowAccess.Sql.Parser
