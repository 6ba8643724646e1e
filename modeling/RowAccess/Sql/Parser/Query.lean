import RowAccess.Sql.Parser.Pipe
/-!
# Reading queries

A query has named queries before it and an order and limits after it. Its body is built from selects,
rows and queries in parentheses by set operations, of which `INTERSECT` binds more tightly than the
others.
-/

namespace RowAccess.Sql.Parser

/-! ## Bodies -/

/-- A table named in place of a query. Three tokens are taken, whatever they are. -/
def tableBody : P Body := do
  let tokens ← ahead 3
  skip 3
  match tokens with
  | .word schema _ :: .symbol "." :: rest =>
    match rest with
    | .word table _ :: _ => return .table [schema.value, table.value]
    | _ => unexpected
  | .word table _ :: _ => return .table [table.value]
  | _ => unexpected

/-- A body without set operations. -/
def bodyTerm (g : Grammar) : P Body := do
  let k ← peekWord
  if k == "SELECT" || (g.dialect == .generic && k == "FROM") then return .select (← select g)
  else if ← peekSymbol "(" then return .query (← parens g.query)
  else
    match ← oneOf ["VALUES", "VALUE", "TABLE"] with
    | "TABLE" => tableBody
    | word => do
      let (rowWord, members) ← rows g (g.dialect == .mysql)
      return .values word rowWord members

/-- The body with the intersection that is next, if one is. -/
def intersected? (g : Grammar) (left : Body) : P (Option Body) := do
  if ← keyword? "INTERSECT" then
    let quantifier ← setQuantifier
    return some (.combined .intersect quantifier left (← bodyTerm g))
  else return none

/-- A body of intersections only. -/
def intersections (g : Grammar) : P Body := do repeated (intersected? g) (← bodyTerm g)

/-- The body with the set operation that is next, if one is. -/
def combined? (g : Grammar) (left : Body) : P (Option Body) := do
  let op? ← if ← keyword? "UNION" then pure (some SetOp.union)
    else if ← keyword? "EXCEPT" then pure (some .except)
    else if ← keyword? "MINUS" then pure (some .minus)
    else pure none
  match op? with
  | some op =>
    let quantifier ← setQuantifier
    return some (.combined op quantifier left (← intersections g))
  | none => intersected? g left

/-- The body of a query. -/
def body (g : Grammar) : P Body := do repeated (combined? g) (← bodyTerm g)

/-! ## Order and limits -/

/-- How the values between those of an order are found. -/
def interpolation (g : Grammar) : P (List Piece) := do
  if g.dialect != .generic then return []
  clause ["INTERPOLATE"] do
    if ← peekSymbol "(" then
      let column : P (List Piece) := do
        let name ← identText
        return .text name :: (← g.exprClause ["AS"])
      return [Piece.text " INTERPOLATE ("] ++ separated (← parens (commasUntil ")" column)) ++
        [Piece.text ")"]
    else return [.text " INTERPOLATE"]

/-- The order of a query, and how the values between those of the order are found. -/
def queryOrder (g : Grammar) : P (List Item × List Piece) := do
  let order ← orderClause g
  return (order, ← if order.isEmpty then pure [] else interpolation g)

/-- An offset after its word. -/
def offset (g : Grammar) : P (List Piece) := do
  let e ← g.exprAfter " OFFSET "
  return e ++ [Piece.text (← lastWord ["ROW", "ROWS"])]

/-- How many rows a query answers, and from which on. -/
def limitClause (g : Grammar) : P (List Piece) := do
  let before ← clause ["OFFSET"] (offset g)
  if ← keyword? "LIMIT" then
    let limit? ← if ← keyword? "ALL" then pure none else some <$> g.expr
    let comma := g.dialect != .postgres && before.isEmpty && limit?.isSome
    if ← onlyIf comma (symbol? ",") then
      return [Piece.text " LIMIT "] ++ exprPieces limit?.toList ++
        [Piece.text ", ", .expr (← g.expr)]
    let groups ← if g.dialect == .generic then clause ["BY"] (g.exprsAfter " BY ") else pure []
    let after ← if before.isEmpty then clause ["OFFSET"] (offset g) else pure before
    let limit := match limit? with
      | some e => [.text " LIMIT ", .expr e]
      | none => []
    return limit ++ after ++ groups
  else return before

/-- Settings of a query. -/
def settingsClause (g : Grammar) : P (List Piece) := do
  match ← settings? g with
  | some pieces => return .text " " :: pieces
  | none => return []

/-- How many rows are fetched. -/
def fetchClause (d : Dialect) : P String := wordsAfter ["FETCH"] do
  let _ ← oneOf? ["FIRST", "NEXT"]
  let count ← if (← oneOf? ["ROW", "ROWS"]).isSome then pure "" else do
    let n ← literalText d
    let percent ← wordsBefore ["PERCENT"]
    let _ ← oneOf? ["ROW", "ROWS"]
    pure (" " ++ n ++ percent)
  let ties ← if ← keyword? "ONLY" then pure false else keywords? ["WITH", "TIES"]
  return " FETCH FIRST" ++ count ++ (if ties then " ROWS WITH TIES" else " ROWS ONLY")

/-! ## What rows are for -/

/-- A lock on the rows of a query, after `FOR`. -/
def lock : P String := do
  let kind ← oneOf ["UPDATE", "SHARE"]
  let tables ← wordsAfter ["OF"] do return " OF " ++ (← nameText)
  return " FOR " ++ kind ++ tables ++ (← lastPhrase [["NOWAIT"], ["SKIP", "LOCKED"]])

/-- A quoted name in parentheses. -/
def documentName (d : Dialect) : P String := return "(" ++ (← parens (bareQuotedText d)) ++ ")"

/-- The shape of the document that rows are made into, with its own name if it may have one. -/
def documentShape (d : Dialect) (named plain : List String) : P String := do
  let shape ← oneOf (named ++ plain)
  if named.contains shape && (← peekSymbol "(") then return shape ++ (← documentName d)
  else return shape

/-- The options of a document that are among `known`: each word with the ones that must follow it, if
it is given, and with its name if it may have one. Of an unknown one only the comma is read. -/
def documentOptions (d : Dialect) (known : List (List String)) : P String := do
  let option : P (Option (String × String)) := do
    match ← phrase? known with
    | some "ROOT" => return some ("ROOT", "ROOT" ++ (← documentName d))
    | some words => return some (words, words)
    | none => return none
  let given := ((← many (optional (symbol? ",") option)).filterMap id).reverse
  let written := known.filterMap fun ks => given.lookup (" ".intercalate ks)
  return String.join (written.map (", " ++ ·))

/-- What is made of the rows of a query, after `FOR`: a document or something to browse. -/
def rowsUse? (d : Dialect) : P (Option String) := do
  match ← oneOf? ["XML", "JSON", "BROWSE"] with
  | some "XML" => do
    let shape ← documentShape d ["RAW", "PATH"] ["AUTO", "EXPLICIT"]
    let options ← documentOptions d [["BINARY", "BASE64"], ["TYPE"], ["ROOT"], ["ELEMENTS"]]
    return some (" FOR XML " ++ shape ++ options)
  | some "JSON" => do
    let shape ← documentShape d [] ["AUTO", "PATH"]
    let options ← documentOptions d [["ROOT"], ["INCLUDE_NULL_VALUES"], ["WITHOUT_ARRAY_WRAPPER"]]
    return some (" FOR JSON " ++ shape ++ options)
  | some _ => return some " FOR BROWSE"
  | none => return none

/-- The locks on the rows of a query, and what is made of the rows; `fuel` bounds the number of
locks. -/
def forClauses (d : Dialect) : (fuel : Nat) → P String
  | 0 => throw .tooDeep
  | fuel + 1 => do
    if ← keyword? "FOR" then
      match ← rowsUse? d with
      | some use => return use
      | none => return (← lock) ++ (← forClauses d fuel)
    else return ""

/-- The format in which the rows of a query are written. -/
def formatClause (d : Dialect) : P String := do
  if d != .generic then return ""
  wordsAfter ["FORMAT"] do
    if ← keyword? "NULL" then return " FORMAT NULL" else return " FORMAT " ++ (← identText)

/-! ## Queries -/

/-- A named query. -/
def cte (g : Grammar) : P Cte := do
  let name ← ident
  let columns ← if ← peekKeyword "AS" then pure [] else aliasColumns g
  keyword "AS"
  let materialized ← if g.dialect != .postgres then pure none else
    phrase? [["MATERIALIZED"], ["NOT", "MATERIALIZED"]]
  let q ← parens g.query
  let lead := match materialized with
    | some words => words ++ " "
    | none => ""
  return .mk name columns lead q (← optional (keyword? "FROM") ident)

/-- The named queries of a query, and whether they may refer to themselves. -/
def withClause (g : Grammar) : P (Bool × List Cte) := do
  if ← keyword? "WITH" then
    let recursive ← keyword? "RECURSIVE"
    return (recursive, ← commas (cte g))
  else return (false, [])

/-- A query. `change` reads a statement that changes rows and stands in place of the body. -/
def query (g : Grammar) (change : P (Option Statement)) : P Query := do
  let d := g.dialect
  let (recursive, ctes) ← withClause g
  match ← change with
  | some s => return .mk recursive ctes (.statement s) [] []
  | none =>
    let b ← body g
    let (order, between) ← queryOrder g
    let limit ← limitClause g
    let settings ← settingsClause g
    let fetch ← fetchClause d
    let uses ← forClauses d ((← get).length + 1)
    let format ← formatClause d
    let after ← pipes g
    return .mk recursive ctes b order
      (between ++ limit ++ settings ++ words (fetch ++ uses ++ format) ++ after)

end RowAccess.Sql.Parser
