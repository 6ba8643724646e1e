import RowAccess.Sql.Parser.Call
import RowAccess.Sql.Parser.Strength
/-!
# Reading forms with words of their own

Expressions that a keyword introduces and whose operands stand between further keywords, such as
`CASE` and `CAST`. Each parser starts after the keyword.
-/

namespace RowAccess.Sql.Parser

/-! ## Conditions -/

/-- A branch of a `CASE`, after its `WHEN`. -/
def caseBranch (g : Grammar) : P Branch := do
  let condition ← g.expr
  keyword "THEN"
  return .mk condition (← g.expr)

/-- A `CASE`. -/
def caseForm (g : Grammar) : P Expr := do
  let operand ← if ← peekKeyword "WHEN" then pure none else some <$> g.expr
  keyword "WHEN"
  let first ← caseBranch g
  let more ← many (optional (keyword? "WHEN") (caseBranch g))
  let otherwise ← optional (keyword? "ELSE") g.expr
  keyword "END"
  return .case operand (first :: more) otherwise

/-- An `EXISTS`. -/
def existsForm (g : Grammar) (negated : Bool) : P Expr := do
  return .exists negated (← parens g.query)

/-- A negation. -/
def notForm (g : Grammar) : P Expr := do
  if ← keyword? "EXISTS" then existsForm g true
  else return .unary .not (← g.operand (OperatorGroup.not.strength g.dialect))

/-! ## Conversions -/

/-- The format of a conversion, if said. -/
def castFormat (d : Dialect) : P String := do
  if ← keyword? "FORMAT" then
    let format := " FORMAT " ++ (← literalText d)
    return format ++ (← wordsAfter ["AT", "TIME", "ZONE"] do
      return " AT TIME ZONE " ++ (← literalText d))
  else return ""

/-- A conversion to a type. -/
def castForm (g : Grammar) (form : CastForm) : P Expr := parens do
  let e ← g.expr
  keyword "AS"
  let type ← g.type
  return .cast form e (type ++ (← castFormat g.dialect))

/-- A conversion to a type or a character set. -/
def convertForm (g : Grammar) (word : String) : P Expr := parens do
  let e ← g.expr
  if ← keyword? "USING" then
    return .special [.text (word ++ "("), .expr e,
      .text (" USING " ++ (← nameText) ++ ")")]
  symbol ","
  let type ← g.type
  let charset ← wordsAfter ["CHARACTER", "SET"] do return " CHARACTER SET " ++ (← nameText)
  return .special [.text (word ++ "("), .expr e, .text (", " ++ type ++ charset ++ ")")]

/-! ## Dates and numbers -/

/-- A field of a date. -/
def extractForm (g : Grammar) : P Expr := parens do
  let field ← dateField g.dialect
  let comma ← if ← keyword? "FROM" then pure false
    else if g.dialect == .generic then do
      symbol ","
      pure true
    else unexpected
  return .extract field comma (← g.expr)

/-- A number rounded up or down. -/
def roundingForm (g : Grammar) (word : String) : P Expr := parens do
  let e ← g.expr
  let scale ← if ← keyword? "TO" then do pure (" TO " ++ (← dateField g.dialect))
    else if ← symbol? "," then
      match ← literal g.dialect with
      | .number digits long => pure (", " ++ (Literal.number digits long).render)
      | _ => unexpected
    else pure ""
  return .special [.text (word ++ "("), .expr e, .text (scale ++ ")")]

/-! ## Texts -/

/-- The place of a text in another, or else a call of a function of that name. -/
def positionForm (g : Grammar) (name : Ident) : P Expr := do
  let form : P Expr := parens do
    let part ← g.operand (OperatorGroup.between.strength g.dialect)
    keyword "IN"
    return .special [.text "POSITION(", .expr part, .text " IN ", .expr (← g.expr), .text ")"]
  match ← attempt form with
  | some e => return e
  | none => call g [name]

/-- A part of a text by its place. -/
def substringForm (g : Grammar) (word : String) : P Expr := parens do
  let e ← g.expr
  let comma ← symbol? ","
  let (fromWord, forWord) := if comma then (", ", ", ") else (" FROM ", " FOR ")
  let starts ← if comma then pure true else keyword? "FROM"
  let start ← if starts then g.exprAfter fromWord else pure []
  let more ← if ← keyword? "FOR" then pure true else symbol? ","
  let length ← if more then g.exprAfter forWord else pure []
  return .special ([Piece.text (word ++ "("), .expr e] ++ start ++ length ++ [Piece.text ")"])

/-- A text with a part replaced. -/
def overlayForm (g : Grammar) : P Expr := parens do
  let e ← g.expr
  keyword "PLACING"
  let part ← g.expr
  keyword "FROM"
  let start ← g.expr
  let length ← g.exprClause ["FOR"]
  return .special ([Piece.text "OVERLAY(", .expr e, .text " PLACING ", .expr part,
    .text " FROM ", .expr start] ++ length ++ [Piece.text ")"])

/-- A text without the characters at its ends. A side is not kept beside a list of characters. -/
def trimForm (g : Grammar) : P Expr := parens do
  let side ← match ← oneOf? ["BOTH", "LEADING", "TRAILING"] with
    | some k => pure (k ++ " ")
    | none => pure ""
  let e ← g.expr
  if ← keyword? "FROM" then
    return .special [.text ("TRIM(" ++ side), .expr e, .text " FROM ", .expr (← g.expr), .text ")"]
  if (← symbol? ",") && g.dialect == .generic then
    return .special ([Piece.text "TRIM(", .expr e, .text ", "] ++ exprPieces (← commas g.expr) ++
      [Piece.text ")"])
  return .special [.text ("TRIM(" ++ side), .expr e, .text ")"]

/-- A search in an index of texts. -/
def matchForm (g : Grammar) : P Expr := do
  let columns ← parens (commas objectName)
  keyword "AGAINST"
  let (value, mode) ← parens do
    let value ← literal g.dialect
    let expansion : P String := do
      return if ← keywords? ["WITH", "QUERY", "EXPANSION"] then " WITH QUERY EXPANSION" else ""
    if ← keywords? ["IN", "NATURAL", "LANGUAGE", "MODE"] then
      return (value, " IN NATURAL LANGUAGE MODE" ++ (← expansion))
    else if ← keywords? ["IN", "BOOLEAN", "MODE"] then return (value, " IN BOOLEAN MODE")
    else return (value, ← expansion)
  return .special [.text ("MATCH (" ++ ", ".intercalate (columns.map Name.render) ++ ") AGAINST (" ++
    value.render ++ mode ++ ")")]

/-! ## Collections -/

/-- An array after its opening bracket. -/
def arrayForm (g : Grammar) (word : String) : P Expr := do
  let members ← commasUntil "]" g.expr
  symbol "]"
  return .special ([Piece.text (word ++ "[")] ++ exprPieces members ++ [Piece.text "]"])

/-- A member of a structure, with its name if it has one. -/
def structMember (g : Grammar) : P (List Piece) := do
  let e ← g.expr
  if ← keyword? "AS" then return [.expr e, .text (" AS " ++ (← ident).render)] else return [.expr e]

/-- A structure, with the types of its members if they are written. -/
def structForm (g : Grammar) : P Expr := do
  let (fields, closed) ← structType g (fieldOptions g)
  if closed then unexpected
  let member := if fields.isEmpty then structMember g else return [.expr (← g.expr)]
  let members ← parens (commas member)
  return .special ([Piece.text (renderStruct fields ++ "(")] ++ separated members ++
    [Piece.text ")"])

/-- A pair of a key and a value, of which the key is read by `key`. -/
def keyed (g : Grammar) (key : P (List Piece)) : P (List Piece) := do
  let k ← key
  symbol ":"
  return k ++ [Piece.text ": ", .expr (← g.expr)]

/-- Pairs in braces, after the opening one and the words `lead`. -/
def keyedMembers (g : Grammar) (lead : String) (key : P (List Piece)) : P Expr := do
  let pairs ← commasUntil "\x7d" (keyed g key)
  symbol "\x7d"
  return .special ([Piece.text (lead ++ "\x7b")] ++ separated pairs ++ [Piece.text "\x7d"])

/-- A call in braces, after the opening one. -/
def bracedCall (g : Grammar) : P Expr := do
  keyword "FN"
  match ← call g (← objectName) with
  | .call (first :: more) parameters args grouping filter window =>
    return .call (⟨"\x7bfn " ++ first.render, none⟩ :: more) parameters args grouping filter
      (window ++ [Piece.text "\x7d"])
  | _ => unexpected

/-- A date or time in braces, after the opening one. -/
def bracedDate (d : Dialect) : P Expr := do
  match ← advance with
  | .word ⟨word, none⟩ _ =>
    if ["d", "t", "ts"].contains word then
      return .typed ("\x7b" ++ word ++ " ") (← literal d) "\x7d"
    else unexpected
  | _ => unexpected

/-- An expression in braces, after the opening one: a call such as `{fn now()}`, a date such as
`{d '2020-01-01'}`, or pairs of names and values. -/
def bracesForm (g : Grammar) : P Expr := do
  let braced ← match ← attempt (bracedCall g) with
    | some e => pure (some e)
    | none => attempt (bracedDate g.dialect)
  match braced with
  | some e => do
    symbol "\x7d"
    return e
  | none =>
    if g.dialect == .generic then keyedMembers g "" do return [.text (← identText)] else unexpected

/-! ## The choice of a form -/

/-- A call without parentheses. -/
def bareCall (name : Ident) : Expr := .call [name] .none .none [] none []

/-- The current time, or a part of it. -/
def timeForm (g : Grammar) (name : Ident) : P Expr := do
  if ← symbol? "(" then return .call [name] .none (← arguments g) [] none []
  else return bareCall name

/-- Names of shapes, which are literals before a text. -/
def shapes : List String := ["POINT", "LINE", "LSEG", "BOX", "PATH", "POLYGON", "CIRCLE"]

/-- The expression that the keyword `k`, which has been read, introduces. Nothing if it introduces
none. -/
def form (g : Grammar) (name : Ident) (k : String) : P (Option Expr) := do
  let d := g.dialect
  match k with
  | "TRUE" => return some (.literal (.boolean true))
  | "FALSE" => return some (.literal (.boolean false))
  | "NULL" => return some (.literal .null)
  | "CURRENT_CATALOG" | "CURRENT_USER" | "SESSION_USER" | "USER" =>
    return if d == .mysql then none else some (bareCall name)
  | "CURRENT_TIMESTAMP" | "CURRENT_TIME" | "CURRENT_DATE" | "LOCALTIME" | "LOCALTIMESTAMP" =>
    some <$> timeForm g name
  | "CASE" => some <$> caseForm g
  | "CONVERT" => some <$> convertForm g k
  | "TRY_CONVERT" => if d == .generic then some <$> convertForm g k else return none
  | "CAST" => some <$> castForm g .cast
  | "TRY_CAST" => some <$> castForm g .tryCast
  | "SAFE_CAST" => some <$> castForm g .safeCast
  | "EXISTS" => some <$> existsForm g false
  | "EXTRACT" => some <$> extractForm g
  | "CEIL" | "FLOOR" => some <$> roundingForm g k
  | "POSITION" => if ← peekSymbol "(" then some <$> positionForm g name else return none
  | "SUBSTR" | "SUBSTRING" => some <$> substringForm g k
  | "OVERLAY" => some <$> overlayForm g
  | "TRIM" => some <$> trimForm g
  | "INTERVAL" => some <$> interval g
  | "ARRAY" =>
    if ← symbol? "[" then some <$> arrayForm g "ARRAY"
    else if ← peekSymbol "(" then
      return some (.call [name] .none (.query (← parens g.query)) [] none [])
    else return none
  | "NOT" => some <$> notForm g
  | "MATCH" => if d == .postgres then return none else some <$> matchForm g
  | "STRUCT" => if d == .generic then some <$> structForm g else return none
  | "MAP" =>
    if ← onlyIf (d == .generic) (symbol? "\x7b") then
      some <$> keyedMembers g "MAP " do return [.expr (← g.expr)]
    else return none
  | "PRIOR" =>
    if g.setting == .hierarchy then
      return some (.special [.text "PRIOR ", .expr (← g.operand (OperatorGroup.sum.strength d))])
    else return none
  | _ =>
    if d.geometry && shapes.contains k then
      return some (.typed (k.toLower ++ " ") (← literal d) "")
    else return none

end RowAccess.Sql.Parser
