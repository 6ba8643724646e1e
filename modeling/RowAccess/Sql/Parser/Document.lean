import RowAccess.Sql.Parser.Literal
/-!
# Reading tables made of documents

`JSON_TABLE`, `OPENJSON` and `XMLTABLE` make rows of a document. Each parser starts after the opening
parenthesis.
-/

namespace RowAccess.Sql.Parser

/-! ## JSON -/

/-- What stands for a value that cannot be had, if said, up to the word `ON`. -/
def jsonFallback? (d : Dialect) : P (Option String) := do
  match ← oneOf? ["NULL", "ERROR", "DEFAULT"] with
  | none => return none
  | some k =>
    let value ← if k == "DEFAULT" then do pure (" " ++ (← literalText d)) else pure ""
    keyword "ON"
    return some (k ++ value)

/-- What stands for a missing value and what for a wrong one. -/
structure JsonFallbacks where
  onEmpty : String := ""
  onError : String := ""

/-- The fallbacks with the one that is next, if one is. -/
def jsonFallbacks? (d : Dialect) (read : JsonFallbacks) : P (Option JsonFallbacks) := do
  match ← jsonFallback? d with
  | none => return none
  | some fallback =>
    if ← keyword? "EMPTY" then return some { read with onEmpty := s!" {fallback} ON EMPTY" }
    else
      keyword "ERROR"
      return some { read with onError := s!" {fallback} ON ERROR" }

/-- A column with the path of its values. -/
def jsonPathColumn (g : Grammar) (name : String) : P String := do
  let type ← g.type
  let exists_ ← wordsBefore ["EXISTS"]
  keyword "PATH"
  let path ← literalText g.dialect
  let fallbacks ← repeated (jsonFallbacks? g.dialect) {}
  return name ++ " " ++ type ++ exists_ ++ " PATH " ++ path ++ fallbacks.onEmpty ++ fallbacks.onError

/-- A column of a table made of a JSON document; `fuel` bounds how deeply columns nest. -/
def jsonColumn (g : Grammar) : (fuel : Nat) → P String
  | 0 => throw .tooDeep
  | fuel + 1 => do
    if ← keyword? "NESTED" then
      let _ ← keyword? "PATH"
      let path ← literalText g.dialect
      keyword "COLUMNS"
      let columns ← parens (commas (jsonColumn g fuel))
      return "NESTED PATH " ++ path ++ " COLUMNS (" ++ ", ".intercalate columns ++ ")"
    else
      let name ← identText
      if ← keyword? "FOR" then
        keyword "ORDINALITY"
        return name ++ " FOR ORDINALITY"
      else jsonPathColumn g name

/-- A table made of a JSON document by a path. -/
def jsonTable (g : Grammar) : P (List Piece) := do
  let document ← g.expr
  symbol ","
  let path ← literalText g.dialect
  keyword "COLUMNS"
  let columns ← parens (commas (jsonColumn g ((← get).length + 1)))
  symbol ")"
  return [.text "JSON_TABLE(", .expr document,
    .text (", " ++ path ++ " COLUMNS(" ++ ", ".intercalate columns ++ "))")]

/-- A column of an opened JSON document. -/
def openJsonColumn (g : Grammar) : P String := do
  let name ← identText
  let type ← g.type
  let path ← match ← peek with
    | some (.literal (.string s)) => do
      skip 1
      pure (" " ++ quoted '\'' s)
    | _ => pure ""
  let asJson ← wordsAfter ["AS"] do
    keyword "JSON"
    return " AS JSON"
  return name ++ " " ++ type ++ path ++ asJson

/-- The members of a JSON document as rows. -/
def openJson (g : Grammar) : P (List Piece) := do
  let document ← g.expr
  let path ← if ← symbol? "," then do pure (", " ++ (← literalText g.dialect)) else pure ""
  symbol ")"
  let columns ← wordsAfter ["WITH"] do
    return " WITH (" ++ ", ".intercalate (← parens (commas (openJsonColumn g))) ++ ")"
  return [.text "OPENJSON(", .expr document, .text (path ++ ")" ++ columns)]

/-! ## XML -/

/-- A name space with its name. -/
def xmlNamespace (g : Grammar) : P (List Piece) := do
  let address ← g.expr
  keyword "AS"
  return [.expr address, .text (" AS " ++ (← identText))]

/-- A document that rows are made of. -/
def xmlArgument (g : Grammar) : P (List Piece) := do
  let byValue ← if ← keyword? "BY" then do
      pure (if ← keyword? "VALUE" then "BY VALUE " else "")
    else pure ""
  let document ← g.expr
  let name ← wordsAfter ["AS"] do return " AS " ++ (← identText)
  return [.text byValue, .expr document, .text name]

/-- A column of a table made of an XML document. -/
def xmlColumn (g : Grammar) : P (List Piece) := do
  let name ← identText
  if ← keyword? "FOR" then
    keyword "ORDINALITY"
    return [.text (name ++ " FOR ORDINALITY")]
  let type ← g.type
  let path ← g.exprClause ["PATH"]
  let default ← g.exprClause ["DEFAULT"]
  let notNull ← wordsBefore ["NOT", "NULL"]
  if notNull.isEmpty then
    let _ ← keyword? "NULL"
  return [Piece.text (name ++ " " ++ type)] ++ path ++ default ++ words notNull

/-- A table made of an XML document. -/
def xmlTable (g : Grammar) : P (List Piece) := do
  let namespaces ← clause ["XMLNAMESPACES"] do
    let list ← parens (commas (xmlNamespace g))
    symbol ","
    return [Piece.text "XMLNAMESPACES("] ++ separated list ++ [Piece.text "), "]
  let rows ← g.expr
  let passing ← clause ["PASSING"] do
    return .text " PASSING " :: separated (← commas (xmlArgument g))
  keyword "COLUMNS"
  let columns ← commas (xmlColumn g)
  symbol ")"
  return [Piece.text "XMLTABLE("] ++ namespaces ++ [Piece.expr rows] ++ passing ++
    [Piece.text " COLUMNS "] ++ separated columns ++ [Piece.text ")"]

/-! ## The choice of a table -/

/-- The table that the next word makes of a document, if the word is followed by a parenthesis. -/
def documentTable? (g : Grammar) : P (Option (List Piece)) := do
  if !(← peekSymbolAt 1 "(") then return none
  match ← oneOf? ["JSON_TABLE", "OPENJSON", "XMLTABLE"] with
  | none => return none
  | some k =>
    symbol "("
    match k with
    | "JSON_TABLE" => return some (← jsonTable g)
    | "OPENJSON" => return some (← openJson g)
    | _ => return some (← xmlTable g)

end RowAccess.Sql.Parser
