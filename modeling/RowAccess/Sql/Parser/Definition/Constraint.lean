import RowAccess.Sql.Parser.Definition.Column
/-!
# Reading constraints and indexed columns

A constraint of a table may have a name. Those that need an index say how the index is built.
-/

namespace RowAccess.Sql.Parser

/-! ## Indexes -/

/-- Kinds of indexes that are known by a keyword. -/
def indexKinds : List String := ["BTREE", "HASH", "GIN", "GIST", "SPGIST", "BRIN", "BLOOM"]

/-- How an index is built, after `USING`, if that is next. -/
def indexKind? : P (Option String) := optional (keyword? "USING") do
  match ← oneOf? indexKinds with
  | some k => return k
  | none => identText

/-- How an index is built, with the space before the words. -/
def indexUsing : P String := do
  match ← indexKind? with
  | some kind => return " USING " ++ kind
  | none => return ""

/-- A column of an index, with the class of operators after its direction. -/
def indexColumn (g : Grammar) : P (List Piece) := do
  let e ← g.expr
  let operators ← if ["ASC", "DESC", "NULLS", "WITH"].contains (← peekWord) then pure none
    else attempt nameText
  let way ← direction
  let fill ← fillClause g
  return .expr e :: way ++ fill ++ words (match operators with
    | some name => " " ++ name
    | none => "")

/-- The columns of an index in parentheses. -/
def indexColumns (g : Grammar) : P (List Piece) := do
  return [Piece.text "("] ++ separated (← parens (commas (indexColumn g))) ++ [Piece.text ")"]

/-- An option of an index, if one is next. -/
def indexOption? (d : Dialect) : P (Option String) := do
  match ← indexKind? with
  | some kind => return some ("USING " ++ kind)
  | none => optional (keyword? "COMMENT") do return "COMMENT " ++ (← bareQuotedText d)

/-- The options of an index with `separator` between them and a space before the first. -/
def indexOptions (d : Dialect) (separator : String) : P (List Piece) := do
  let options ← many (indexOption? d)
  return if options.isEmpty then [] else [.text (" " ++ separator.intercalate options)]

/-- A name that may stand before the columns of an index, with the space before it. -/
def indexName : P String := do
  match ← attempt identText with
  | some name => return " " ++ name
  | none => return ""

/-- How nulls count among values that must differ, with the space before the words. -/
def nullDistinctness : P String := wordsAfter ["NULLS"] do
  return " NULLS " ++ (← phrase [["NOT", "DISTINCT"], ["DISTINCT"]])

/-! ## Constraints -/

/-- The columns of a key, with how its index is built, and when the key is checked. -/
def keyColumns (g : Grammar) (lead : String) : P (List Piece) := do
  let name ← indexName
  let kind ← indexUsing
  let columns ← indexColumns g
  let options ← indexOptions g.dialect " "
  return [Piece.text (lead ++ name ++ kind ++ " ")] ++ columns ++ options ++ words (← timing)

/-- Columns whose values must differ, after `UNIQUE`. -/
def uniqueConstraint (g : Grammar) (lead : String) : P (List Piece) := do
  let word ← lastWord ["KEY", "INDEX"]
  if g.dialect == .postgres && !word.isEmpty then unexpected
  let nulls ← nullDistinctness
  keyColumns g (lead ++ "UNIQUE" ++ nulls ++ word)

/-- A key of another table, after `FOREIGN KEY`. -/
def foreignKey (lead : String) : P (List Piece) := do
  let name ← indexName
  let columns ← identsInParens
  keyword "REFERENCES"
  return [.text (lead ++ "FOREIGN KEY" ++ name ++ " " ++ renderNames columns ++ " REFERENCES " ++
    (← reference ""))]

/-- A condition on rows, after `CHECK`. -/
def checkConstraint (g : Grammar) (lead : String) : P (List Piece) := do
  let condition ← parens g.expr
  return [.text (lead ++ "CHECK ("), .expr condition,
    .text (")" ++ (← lastPhrase [["ENFORCED"], ["NOT", "ENFORCED"]]))]

/-- An index among the columns of a table, after `word`. -/
def indexConstraint (g : Grammar) (word : String) : P (List Piece) := do
  let name ← if ← peekKeyword "USING" then pure "" else indexName
  let kind ← indexUsing
  let columns ← indexColumns g
  return [Piece.text (word ++ name ++ kind ++ " ")] ++ columns ++ (← indexOptions g.dialect ", ")

/-- An index of texts or shapes among the columns of a table, after `word`. -/
def searchConstraint (g : Grammar) (word : String) : P (List Piece) := do
  let kind ← lastWord ["KEY", "INDEX"]
  let name ← indexName
  return .text (word ++ kind ++ name ++ " ") :: (← indexColumns g)

/-- A constraint of a table, if one is next. -/
def tableConstraint? (g : Grammar) : P (Option (List Piece)) := do
  let named ← keyword? "CONSTRAINT"
  let lead ← if named then do pure ("CONSTRAINT " ++ (← identText) ++ " ") else pure ""
  match ← oneOf? ["UNIQUE", "PRIMARY", "FOREIGN", "CHECK"] with
  | some "UNIQUE" => return some (← uniqueConstraint g lead)
  | some "PRIMARY" => do
    keyword "KEY"
    return some (← keyColumns g (lead ++ "PRIMARY KEY"))
  | some "FOREIGN" => do
    keyword "KEY"
    return some (← foreignKey lead)
  | some _ => return some (← checkConstraint g lead)
  | none =>
    if named then unexpected
    if g.dialect == .postgres then return none
    match ← oneOf? ["INDEX", "KEY", "FULLTEXT", "SPATIAL"] with
    | some word =>
      if ["INDEX", "KEY"].contains word then return some (← indexConstraint g word)
      else return some (← searchConstraint g word)
    | none => return none

end RowAccess.Sql.Parser
