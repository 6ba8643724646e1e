import RowAccess.Sql.Parser.Definition.Constraint
/-!
# Reading definitions of types and domains
-/

namespace RowAccess.Sql.Parser

/-! ## Types -/

/-- A component of a type that is made of several. -/
def typeComponent (g : Grammar) : P String := do
  let name ← identText
  return name ++ " " ++ (← g.type) ++ (← nameClause ["COLLATE"])

/-- What a type of ranges is built on. -/
def rangeOption (g : Grammar) : P String := do
  match ← oneOf ["SUBTYPE", "SUBTYPE_OPCLASS", "COLLATION", "CANONICAL", "SUBTYPE_DIFF",
      "MULTIRANGE_TYPE_NAME"] with
  | "SUBTYPE" => do
    symbol "="
    return "SUBTYPE = " ++ (← g.type)
  | k => do
    symbol "="
    return k ++ " = " ++ (← nameText)

/-- A truth value. Where none is written, it is true. -/
def truthWord : P String := do
  if ← keyword? "TRUE" then return "true"
  else if ← keyword? "FALSE" then return "false"
  else return "true"

/-- The value of an option of a type that is stored in a way of its own, after the equals sign. -/
def baseTypeValue (g : Grammar) (k : String) : P (List Piece) := do
  match k with
  | "INTERNALLENGTH" =>
    if ← keyword? "VARIABLE" then return [.text "VARIABLE"] else return [.text s!"{← naturalNumber}"]
  | "ALIGNMENT" => return [.text (← oneOf ["CHAR", "INT2", "INT4", "DOUBLE"]).toLower]
  | "STORAGE" => return [.text (← oneOf ["PLAIN", "EXTERNAL", "EXTENDED", "MAIN"]).toLower]
  | "CATEGORY" =>
    match (← text g.dialect).toList with
    | c :: _ => return [.text ("'" ++ c.toString ++ "'")]
    | [] => unexpected
  | "PREFERRED" | "COLLATABLE" => return [.text (← truthWord)]
  | "DEFAULT" => return [.expr (← g.expr)]
  | "ELEMENT" => return [.text (← g.type)]
  | "DELIMITER" => return [.text (← quotedText g.dialect)]
  | _ => return [.text (← nameText)]

/-- An option of a type that is stored in a way of its own. -/
def baseTypeOption (g : Grammar) : P (List Piece) := do
  if ← keyword? "PASSEDBYVALUE" then return [.text "PASSEDBYVALUE"]
  let k ← oneOf ["INPUT", "OUTPUT", "RECEIVE", "SEND", "TYPMOD_IN", "TYPMOD_OUT", "ANALYZE", "SUBSCRIPT",
    "INTERNALLENGTH", "ALIGNMENT", "STORAGE", "LIKE", "CATEGORY", "PREFERRED", "DEFAULT", "ELEMENT",
    "DELIMITER", "COLLATABLE"]
  symbol "="
  return .text (k ++ " = ") :: (← baseTypeValue g k)

/-- What a type consists of, after `AS`. -/
def typeBody (g : Grammar) : P String := do
  match ← oneOf? ["ENUM", "RANGE"] with
  | some "ENUM" => return " AS ENUM " ++ renderNames (← parens (commasUntil ")" ident))
  | some _ =>
    return " AS RANGE (" ++ ", ".intercalate (← parens (commasUntil ")" (rangeOption g))) ++ ")"
  | none => return " AS (" ++ ", ".intercalate (← parens (commasUntil ")" (typeComponent g))) ++ ")"

/-- A type to create. -/
def createType (g : Grammar) : P Statement := do
  let lead := "CREATE TYPE " ++ (← nameText)
  if ← keyword? "AS" then return plain (lead ++ (← typeBody g))
  else if ← peekSymbol "(" then
    let options ← parens (commasUntil ")" (baseTypeOption g))
    return .other .other ([Piece.text (lead ++ " (")] ++ separated options ++ [Piece.text ")"])
  else return plain lead

/-- A change of a type, after `ALTER TYPE`. -/
def alterType : P Statement := do
  let lead := "ALTER TYPE " ++ (← nameText)
  if ← keywords? ["RENAME", "TO"] then return plain (lead ++ " RENAME TO " ++ (← identText))
  else if ← keywords? ["ADD", "VALUE"] then
    let missing ← unlessExists
    let value ← identText
    let place ← match ← oneOf? ["BEFORE", "AFTER"] with
      | some k => do pure (s!" {k} " ++ (← identText))
      | none => pure ""
    return plain (lead ++ " ADD VALUE " ++ missing ++ value ++ place)
  else
    keywords ["RENAME", "VALUE"]
    let old ← identText
    keyword "TO"
    return plain (lead ++ " RENAME VALUE " ++ old ++ " TO " ++ (← identText))

/-! ## Domains -/

/-- A domain to create. -/
def createDomain (g : Grammar) : P Statement := do
  let name ← nameText
  keyword "AS"
  let type ← g.type
  let collation ← identClause ["COLLATE"]
  let preset ← g.exprClause ["DEFAULT"]
  let constraints ← many (tableConstraint? g)
  return .other .other (.text ("CREATE DOMAIN " ++ name ++ " AS " ++ type ++ collation) :: preset ++
    afterSpaces constraints)

end RowAccess.Sql.Parser
