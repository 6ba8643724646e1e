import RowAccess.Sql.Parser.Document
import RowAccess.Sql.Parser.Reshape
/-!
# Reading relations

The sources of rows of a `FROM` list, with their aliases, and the joins between them.
-/

namespace RowAccess.Sql.Parser

/-! ## Clauses of a table -/

/-- Settings with commas between them. -/
def settings (g : Grammar) : P (List Piece) := do
  let setting : P (List Piece) := do
    let name ← identText
    symbol "="
    g.exprAfter (name ++ " = ")
  return separated (← commas setting)

/-- Settings after their word, if they are next. -/
def settings? (g : Grammar) : P (Option (List Piece)) := do
  if g.dialect == .generic && (← peekKeyword "SETTINGS") then
    skip 1
    return some (.text "SETTINGS " :: (← settings g))
  else return none

/-- Arguments in a `FROM` list, of which the last may be settings; `fuel` bounds their number. -/
def tableArgumentList (g : Grammar) : (fuel : Nat) → P (List Argument × List Piece)
  | 0 => throw .tooDeep
  | fuel + 1 => do
    match ← settings? g with
    | some pieces => return ([], pieces)
    | none =>
      let first ← argument g
      if ← symbol? "," then
        let (more, pieces) ← tableArgumentList g fuel
        return (first :: more, pieces)
      else return ([first], [])

/-- The arguments of a function in a `FROM` list, after the opening parenthesis. -/
def tableArguments (g : Grammar) : P Arguments := do
  if ← symbol? ")" then return .list "" [] []
  let (args, settings) ← tableArgumentList g ((← get).length + 1)
  symbol ")"
  return .list "" args
    (if args.isEmpty || settings.isEmpty then settings else .text ", " :: settings)

/-- An index hint, if one is next. -/
def indexHint? : P (Option String) := do
  match ← oneOf? ["USE", "IGNORE", "FORCE"] with
  | none => return none
  | some kind =>
    let index ← oneOf ["INDEX", "KEY"]
    let purpose ← if ← keyword? "FOR" then
        if ← keyword? "JOIN" then pure "FOR JOIN "
        else if ← keywords? ["ORDER", "BY"] then pure "FOR ORDER BY "
        else if ← keywords? ["GROUP", "BY"] then pure "FOR GROUP BY "
        else unexpected
      else pure ""
    let names ← parens (commasUntil ")" ident)
    return some (" " ++ kind ++ " " ++ index ++ " " ++ purpose ++ renderNames names)

/-- The index hints of a table. -/
def indexHints (d : Dialect) : P (List Piece) := do
  if d != .mysql then return []
  match ← attempt (many indexHint?) with
  | some hints => return hints.map .text
  | none => return []

/-- Hints in parentheses after `WITH`. -/
def withHints (g : Grammar) : P (List Piece) := do
  if (← peekKeyword "WITH") && (← peekSymbolAt 1 "(") then
    skip 1
    return [Piece.text " WITH ("] ++ exprPieces (← parens (commas g.expr)) ++ [Piece.text ")"]
  else return []

/-! ## Samples -/

/-- The share of the rows that is one of several buckets. -/
def sampleBucket (g : Grammar) : P (List Piece) := do
  let bucket ← numberText g.dialect
  keywords ["OUT", "OF"]
  let total ← numberText g.dialect
  return .text (" (BUCKET " ++ bucket ++ " OUT OF " ++ total) :: (← g.exprClause ["ON"]) ++
    [Piece.text ")"]

/-- How much is taken for a sample: an expression, or a word such as a size in bytes. -/
def sampleSize (g : Grammar) : P (List Piece) := do
  let size ← match ← attempt g.expr with
    | some e => pure (Piece.expr e)
    | none =>
      match ← advance with
      | .word i _ => pure (.text i.value)
      | _ => unexpected
  return [size, .text (← lastWord ["ROWS", "PERCENT"])]

/-- A sample of rows after the word `word`. -/
def sample (g : Grammar) (word : String) : P (List Piece) := do
  let method ← lastWord ["BERNOULLI", "ROW", "SYSTEM", "BLOCK"]
  let inParens ← symbol? "("
  let (size, bucket) ← if inParens && (← peekKeyword "BUCKET") then do
      skip 1
      pure ([], ← sampleBucket g)
    else do
      let size ← sampleSize g
      pure (if inParens then [Piece.text " ("] ++ size ++ [Piece.text ")"]
        else .text " " :: size, [])
  if inParens then symbol ")"
  let seed ← match ← oneOf? ["REPEATABLE", "SEED"] with
    | some k => do pure (" " ++ k ++ " (" ++ (← parens (numberText g.dialect)) ++ ")")
    | none => pure ""
  return .text (word ++ method) :: size ++ [Piece.text seed] ++ bucket ++
    (← g.exprClause ["OFFSET"])

/-- A sample of a table, if one is asked for. -/
def sampleClause (g : Grammar) : P (List Piece) := do
  match ← oneOf? ["TABLESAMPLE", "SAMPLE"] with
  | none => return []
  | some word => return .text " " :: (← sample g word)

/-! ## Reshaping -/

/-- The relation with the pivot that is next, if one is. -/
def pivoted? (g : Grammar) (r : Relation) : P (Option Relation) := do
  if ← keyword? "PIVOT" then
    let clause ← pivotClause g
    return some (.reshaped r clause (← alias? g))
  else if ← keyword? "UNPIVOT" then
    let clause ← unpivotClause g
    return some (.reshaped r clause (← alias? g))
  else return none

/-- The relation with the patterns that are looked for in it, if any are. -/
def matched (g : Grammar) (r : Relation) : P Relation := do
  if g.dialect == .generic && (← peekKeyword "MATCH_RECOGNIZE") then
    skip 1
    let clause ← matchClause g
    return .reshaped r clause (← alias? g)
  else return r

/-! ## Joins -/

/-- The constraint of a join. -/
def joinConstraint (g : Grammar) (natural : Bool) : P JoinConstraint := do
  if natural then return .natural
  else if ← keyword? "ON" then return .on (← g.expr)
  else if ← keyword? "USING" then return .columns (← parens (commas objectName))
  else return .none

/-- The words of a join that may be natural, if they are next. -/
def joinWords? : P (Option JoinKind) := do
  match ← oneOf? ["INNER", "JOIN", "LEFT", "RIGHT", "ANTI", "SEMI", "FULL", "STRAIGHT_JOIN"] with
  | none => return none
  | some "JOIN" => return some .plain
  | some "STRAIGHT_JOIN" => return some .straight
  | some "INNER" => do
    keyword "JOIN"
    return some .inner
  | some "ANTI" => do
    keyword "JOIN"
    return some .anti
  | some "SEMI" => do
    keyword "JOIN"
    return some .semi
  | some "FULL" => do
    let _ ← keyword? "OUTER"
    keyword "JOIN"
    return some .full
  | some side =>
    match ← oneOf ["OUTER", "SEMI", "ANTI", "JOIN"] with
    | "JOIN" => return some (if side == "LEFT" then .left else .right)
    | "OUTER" => do
      keyword "JOIN"
      return some (if side == "LEFT" then .leftOuter else .rightOuter)
    | "SEMI" => do
      keyword "JOIN"
      return some (if side == "LEFT" then .leftSemi else .rightSemi)
    | _ => do
      keyword "JOIN"
      return some (if side == "LEFT" then .leftAnti else .rightAnti)

/-- A join, if one is next. -/
def join? (g : Grammar) : P (Option Join) := do
  let global ← keyword? "GLOBAL"
  if ← keyword? "CROSS" then
    if ← keyword? "APPLY" then return some (.mk global .crossApply (← g.relation) none .none)
    keyword "JOIN"
    let relation ← g.relation
    let constraint ← if g.dialect == .mysql then joinConstraint g false else pure .none
    return some (.mk global .cross relation none constraint)
  else if ← keyword? "OUTER" then
    keyword "APPLY"
    return some (.mk global .outerApply (← g.relation) none .none)
  else if ← keyword? "ASOF" then
    keyword "JOIN"
    let relation ← g.relation
    keyword "MATCH_CONDITION"
    let condition ← parens g.expr
    return some (.mk global .asOf relation (some condition) (← joinConstraint g false))
  else
    let natural ← keyword? "NATURAL"
    match ← joinWords? with
    | some kind =>
      let relation ← g.relation
      return some (.mk global kind relation none (← joinConstraint g natural))
    | none => if natural then unexpected else return none

/-- A relation with the relations joined to it. -/
def joined (g : Grammar) : P Joined := do
  let relation ← g.relation
  return .mk relation (← many (join? g))

/-! ## Relations -/

/-- A query in parentheses, after the opening one. -/
def derived (g : Grammar) (lateral : Bool) : P Relation := do
  let q ← g.query
  symbol ")"
  return .derived lateral q (← alias? g)

/-- Gives a relation that has no alias the one after its parentheses. -/
def withAlias (r : Relation) (outer : Option Alias) : P Relation :=
  match outer with
  | none => return r
  | some a =>
    match r with
    | .table name partitions args ordinality none after =>
      return .table name partitions args ordinality (some a) after
    | .derived lateral q none => return .derived lateral q (some a)
    | .function call none => return .function call (some a)
    | .reshaped inner clause none => return .reshaped inner clause (some a)
    | .special pieces none after => return .special pieces (some a) after
    | _ => unexpected

/-- Joins in parentheses, after the opening one. -/
def nestedJoins (g : Grammar) : P Relation := do
  let inner ← joined g
  match inner with
  | .mk (.nested _ _) [] | .mk _ (_ :: _) => do
    symbol ")"
    return .nested inner (← alias? g)
  | .mk relation [] =>
    if g.dialect == .generic then
      symbol ")"
      withAlias relation (← alias? g)
    else unexpected

/-- A row in parentheses; nothing may stand between them if `empty` allows it. -/
def row (g : Grammar) (empty : Bool) : P Expr := do
  return .tuple (← parens (if empty then commasUntil ")" g.expr else commas g.expr))

/-- Rows with commas between them, and whether the word `ROW` stands before them. -/
def rows (g : Grammar) (empty : Bool) : P (String × List Expr) := do
  let each : P (Bool × Expr) := do
    let word ← keyword? "ROW"
    return (word, ← row g empty)
  let read ← commas each
  return (if read.any (·.1) then "ROW" else "", read.map (·.2))

/-- The elements of arrays as rows, after `UNNEST`. A `WITH` after them is left out if it does not
introduce an offset. -/
def unnested (g : Grammar) : P Relation := do
  let arrays ← parens (commas g.expr)
  let ordinality ← wordsBefore ["WITH", "ORDINALITY"]
  let aliased ← alias? g
  let after ← wordsAfter ["WITH"] do
    wordsAfter ["OFFSET"] do return " WITH OFFSET" ++ aliasWords (← columnAlias?)
  return .special ([Piece.text "UNNEST("] ++ exprPieces arrays ++
    [Piece.text (")" ++ ordinality)]) aliased
    (words after)

/-- A function of the rows before it, after `LATERAL`. -/
def lateralCall (g : Grammar) : P Relation := do
  let name ← nameText
  let args ← parens (commasUntil ")" (argument g))
  let pieces := separated (args.map fun | .mk label value => label ++ [Piece.expr value])
  return .special ([Piece.text ("LATERAL " ++ name ++ "(")] ++ pieces ++ [Piece.text ")"])
    (← alias? g) []

/-- A table, or a call of a function in its place. -/
def plainTable (g : Grammar) : P Relation := do
  let d := g.dialect
  let name ← objectName
  let partitions ← if d != .postgres && (← peekKeyword "PARTITION") then do
      skip 1
      identsInParens
    else pure []
  let args ← if ← symbol? "(" then tableArguments g else pure .none
  let ordinality ← keywords? ["WITH", "ORDINALITY"]
  let aliased ← alias? g
  let index ← indexHints d
  let hints ← withHints g
  let table := Relation.table name partitions args ordinality aliased
    (index ++ hints ++ (← sampleClause g))
  matched g (← repeated (pivoted? g) table)

/-- A relation of a `FROM` list that a word introduces. -/
def wordedRelation (g : Grammar) : P Relation := do
  let d := g.dialect
  if d == .generic && (← peekKeyword "VALUES") && (← peekSymbolAt 1 "(") then
    skip 1
    let (word, members) ← rows g false
    return .derived false (.ofBody (.values "VALUES" word members)) (← alias? g)
  else if d != .mysql && (← peekKeyword "UNNEST") then
    skip 1
    unnested g
  else match ← documentTable? g with
    | some pieces => return .special pieces (← alias? g) []
    | none => plainTable g

/-- A relation of a `FROM` list. -/
def relation (g : Grammar) : P Relation := do
  if ← keyword? "LATERAL" then
    if ← symbol? "(" then derived g true else lateralCall g
  else if ← keyword? "TABLE" then
    let call ← parens g.expr
    return .function call (← alias? g)
  else if ← symbol? "(" then
    match ← attempt (derived g false) with
    | some r => repeated (pivoted? g) r
    | none => nestedJoins g
  else wordedRelation g

end RowAccess.Sql.Parser
