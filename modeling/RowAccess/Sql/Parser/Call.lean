import RowAccess.Sql.Parser.Literal
import RowAccess.Sql.Parser.TypeName
/-!
# Reading function calls

The arguments of a call with the clauses among them, and the clauses after the closing parenthesis.
-/

namespace RowAccess.Sql.Parser

/-! ## Order -/

/-- The direction of an order, with the place of nulls. -/
def direction : P (List Piece) := do
  let way ← match ← oneOf? ["ASC", "DESC"] with
    | some k => pure [Piece.text (" " ++ k)]
    | none => pure []
  if ← keywords? ["NULLS", "FIRST"] then return way ++ [Piece.text " NULLS FIRST"]
  else if ← keywords? ["NULLS", "LAST"] then return way ++ [Piece.text " NULLS LAST"]
  else return way

/-- The values that an order fills in between those of the rows. -/
def fillClause (g : Grammar) : P (List Piece) := do
  if g.dialect != .generic then return []
  if ← keywords? ["WITH", "FILL"] then
    return .text " WITH FILL" :: (← g.exprClause ["FROM"]) ++ (← g.exprClause ["TO"]) ++
      (← g.exprClause ["STEP"])
  else return []

/-- An expression to order by. -/
def orderItem (g : Grammar) : P Item := do
  let e ← g.expr
  let way ← direction
  return .mk e none (way ++ (← fillClause g))

/-- An order that starts with `ORDER BY`, or nothing. -/
def orderClause (g : Grammar) : P (List Item) := do
  if ← keywords? ["ORDER", "BY"] then commas (orderItem g) else return []

/-! ## Intervals -/

/-- Digits in parentheses after a space, or nothing. -/
def spacedPrecision : P String := do
  let text ← optionalPrecision
  return if text.isEmpty then "" else " " ++ text

/-- What follows the number of an interval: its unit or its range of units. -/
def intervalUnits (d : Dialect) : P String := do
  let first ← if timeUnits.contains (← peekWord) then dateField d else pure ""
  if first.isEmpty && d.intervalsNeedUnit then unexpected
  if first == "SECOND" then
    if ← symbol? "(" then
      let n ← naturalNumber
      if ← symbol? "," then
        let m ← naturalNumber
        symbol ")"
        return s!" SECOND ({n}, {m})"
      symbol ")"
      return s!" SECOND ({n})"
    return " SECOND"
  let lead := (if first.isEmpty then "" else " " ++ first) ++ (← spacedPrecision)
  if ← keyword? "TO" then
    let last ← dateField d
    return lead ++ " TO " ++ last ++ (← if last == "SECOND" then spacedPrecision else pure "")
  else return lead

/-- An interval after the word that introduces it. -/
def interval (g : Grammar) : P Expr := do
  let value ← if g.dialect.intervalsNeedUnit then g.expr else g.primary
  return .special [.text "INTERVAL ", .expr value, .text (← intervalUnits g.dialect)]

/-! ## Windows -/

/-- One end of the frame of a window. -/
def frameBound (g : Grammar) : P (List Piece) := do
  if ← keywords? ["CURRENT", "ROW"] then return [.text "CURRENT ROW"]
  let distance ← if ← keyword? "UNBOUNDED" then pure [Piece.text "UNBOUNDED"] else
    match ← peek with
    | some (.literal (.string _)) => do pure [.expr (← interval g)]
    | _ => do pure [.expr (← g.expr)]
  return distance ++ [Piece.text (" " ++ (← oneOf ["PRECEDING", "FOLLOWING"]))]

/-- The frame of a window. -/
def frame (g : Grammar) : P (List Piece) := do
  let units ← oneOf ["ROWS", "RANGE", "GROUPS"]
  if ← keyword? "BETWEEN" then
    let low ← frameBound g
    keyword "AND"
    return [Piece.text (units ++ " BETWEEN ")] ++ low ++ [Piece.text " AND "] ++ (← frameBound g)
  else return .text (units ++ " ") :: (← frameBound g)

/-- A window in parentheses. -/
def windowSpec (g : Grammar) : P (List Piece) := do
  symbol "("
  let base ← match ← peek with
    | some (.word i k) =>
      if isKeyword k then pure [] else do
        skip 1
        pure [Piece.text i.render]
    | _ => pure []
  let partition ← clause ["PARTITION", "BY"] (g.exprsAfter "PARTITION BY ")
  let order ← if ← keywords? ["ORDER", "BY"] then do
      pure (Piece.text "ORDER BY " :: itemsPieces (← commas (orderItem g)))
    else pure []
  let rows ← if ← peekSymbol ")" then pure [] else frame g
  symbol ")"
  return [Piece.text "("] ++ spaced [base, partition, order, rows] ++ [Piece.text ")"]

/-! ## Arguments -/

/-- Whether nulls count, if said. -/
def nullTreatment : P String := do
  match ← oneOf? ["RESPECT", "IGNORE"] with
  | some k => do
    keyword "NULLS"
    return k ++ " NULLS"
  | none => return ""

/-- What becomes of nulls in a document, if said. -/
def nullClause : P (List Piece) := do
  if ← keywords? ["ABSENT", "ON", "NULL"] then return [.text "ABSENT ON NULL"]
  else if ← keywords? ["NULL", "ON", "NULL"] then return [.text "NULL ON NULL"]
  else return []

/-- The type of the answer, if said. -/
def returningType (g : Grammar) : P (List Piece) := do
  if ← keyword? "RETURNING" then return [.text ("RETURNING " ++ (← g.type))] else return []

/-- What to do with a text that grows too long, if said. -/
def overflowClause (g : Grammar) : P (List Piece) := do
  if ← keywords? ["ON", "OVERFLOW"] then
    if ← keyword? "ERROR" then return [.text "ON OVERFLOW ERROR"]
    keyword "TRUNCATE"
    let filler ← match ← peek with
      | some (.literal (.string _)) | some (.literal (.escaped _)) | some (.literal (.codePoints _))
      | some (.literal (.national _)) | some (.literal (.hex _)) => g.exprAfter " "
      | _ => pure []
    let count ← oneOf ["WITH", "WITHOUT"]
    keyword "COUNT"
    return [Piece.text "ON OVERFLOW TRUNCATE"] ++ filler ++ [Piece.text (" " ++ count ++ " COUNT")]
  else return []

/-- The sign between the name of an argument and its value, if it is next. -/
def argumentSign? (d : Dialect) : P (Option String) := do
  if ← keyword? "VALUE" then return some "VALUE"
  else if ← symbol? "=>" then return some "=>"
  else if d.assignedArguments then
    return if ← symbol? ":=" then some ":=" else none
  else if d.expressionsNameArguments then
    return if ← symbol? ":" then some ":" else none
  else return none

/-- A part of a dotted name, if one is next. -/
def namePart? : P (Option Ident) := do
  match ← peek with
  | some (.word i _) => do
    skip 1
    return some i
  | some (.literal (.string s)) => do
    skip 1
    return some ⟨s, some '\''⟩
  | _ => return none

/-- A further part of a dotted name with the dot before it, if both are next. -/
def furtherPart? : P (Option Ident) := do
  let start ← get
  if ← symbol? "." then
    match ← namePart? with
    | some i => return some i
    | none => do
      set start
      return none
  else return none

/-- The dotted name before `.*`, if the tokens start with both. After a dot there must be another
part or the star. -/
def qualifiedWildcard? : P (Option Name) := do
  match ← namePart? with
  | none => return none
  | some first =>
    let more ← many furtherPart?
    if ← symbol? "." then
      symbol "*"
      return some (first :: more)
    else return none

/-- An expression or a wildcard. -/
def wildcardOrExpr (g : Grammar) : P Expr := do
  if ← symbol? "*" then return .wildcard []
  let start ← get
  match ← qualifiedWildcard? with
  | some name => return .wildcard name
  | none => do
    set start
    g.expr

/-- An argument whose name is a plain word. -/
def namedArgument (g : Grammar) : P Argument := do
  let name ← ident
  match ← argumentSign? g.dialect with
  | some sign => return .mk [.text (name.render ++ " " ++ sign ++ " ")] (← wildcardOrExpr g)
  | none => unexpected

/-- An argument of a call. -/
def argument (g : Grammar) : P Argument := do
  if g.dialect.expressionsNameArguments then
    if ← symbol? "*" then return .mk [] (.wildcard [])
    let e ← wildcardOrExpr g
    match ← argumentSign? g.dialect with
    | some sign => return .mk [.expr e, .text (" " ++ sign ++ " ")] (← wildcardOrExpr g)
    | none => return .mk [] e
  else
    match ← attempt (namedArgument g) with
    | some a => return a
    | none => return .mk [] (← wildcardOrExpr g)

/-- `DISTINCT` or `ALL`, with the space after it, if it is next. -/
def duplicateTreatment : P String := do
  let all ← keyword? "ALL"
  let distinct ← keyword? "DISTINCT"
  match all, distinct with
  | true, true => unexpected
  | true, false => return "ALL "
  | false, true => return "DISTINCT "
  | false, false => return ""

/-- The clauses after the arguments of a call. -/
def argumentClauses (g : Grammar) : P (List (List Piece)) := do
  let d := g.dialect
  let treatment ← if d == .generic then nullTreatment else pure ""
  let order ← if ← keywords? ["ORDER", "BY"] then do
      pure (Piece.text "ORDER BY " :: itemsPieces (← commas (orderItem g)))
    else pure []
  let limit ← clause ["LIMIT"] (g.exprAfter "LIMIT ")
  let bound ← if d == .generic then clause ["HAVING"] do
      g.exprAfter ("HAVING " ++ (← oneOf ["MIN", "MAX"]) ++ " ")
    else pure []
  let separator ← if d != .postgres && (← peekKeyword "SEPARATOR") then do
      keyword "SEPARATOR"
      pure [Piece.text ("SEPARATOR " ++ (← literalText d))]
    else pure []
  let overflow ← overflowClause g
  let nulls ← nullClause
  let type ← returningType g
  return [words treatment, order, limit, bound, separator,
    overflow, nulls, type]

/-- The arguments of a call after the opening parenthesis, and whether they say how nulls count. -/
def argumentsAndTreatment (g : Grammar) : P (Arguments × Bool) := do
  let nulls ← nullClause
  let type ← returningType g
  if ← symbol? ")" then return (.list "" [] (spaced [nulls, type]), false)
  let distinct ← duplicateTreatment
  let args ← commas (argument g)
  let clauses ← argumentClauses g
  symbol ")"
  return (.list distinct args (afterSpaces ([nulls, type] ++ clauses)),
    (clauses.head?.map fun c => !c.isEmpty) == some true)

/-- The arguments of a call after the opening parenthesis. -/
def arguments (g : Grammar) : P Arguments := do return (← argumentsAndTreatment g).1

/-! ## Calls -/

/-- The condition on the rows an aggregate takes, if there is one. Words of the clause that are not
followed by the rest of it are dropped. -/
def filterClause (g : Grammar) : P (Option Expr) := do
  if g.dialect == .mysql then return none
  if ← keyword? "FILTER" then
    if ← symbol? "(" then
      if ← keyword? "WHERE" then
        let condition ← g.expr
        symbol ")"
        return some condition
  return none

/-- The window of a call. -/
def overClause (g : Grammar) : P (List Piece) := do
  if ← keyword? "OVER" then
    if ← peekSymbol "(" then return .text " OVER " :: (← windowSpec g)
    else return [.text (" OVER " ++ (← identText))]
  else return []

/-- A call of the named function. -/
def call (g : Grammar) (name : Name) : P Expr := do
  symbol "("
  let (args, treated) ← argumentsAndTreatment g
  let (parameters, args, treated) ← if g.dialect == .generic then do
      if ← symbol? "(" then
        let (more, treated) ← argumentsAndTreatment g
        pure (args, more, treated)
      else pure (Arguments.none, args, treated)
    else pure (Arguments.none, args, treated)
  let grouping ← if ← keywords? ["WITHIN", "GROUP"] then do
      symbol "("
      keywords ["ORDER", "BY"]
      let order ← commas (orderItem g)
      symbol ")"
      pure ([Piece.text " WITHIN GROUP (ORDER BY "] ++ itemsPieces order ++ [Piece.text ")"])
    else pure []
  let filter ← filterClause g
  let treatment ← if treated then pure "" else nullTreatment
  let window ← overClause g
  let leading := if treatment.isEmpty then "" else " " ++ treatment
  return .call name parameters args grouping filter (words leading ++ window)

end RowAccess.Sql.Parser
