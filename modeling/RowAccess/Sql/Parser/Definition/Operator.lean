import RowAccess.Sql.Parser.Definition.Option
/-!
# Reading definitions of operators

Any token serves for the name of an operator, which may be qualified.
-/

namespace RowAccess.Sql.Parser

/-! ## Operators -/

/-- The name of an operator. -/
def operatorName : P String := do
  let part : P String := return (← advance).render
  let first ← part
  let more ← many (optional (symbol? ".") part)
  return ".".intercalate (first :: more)

/-- The types of the operands of an operator in parentheses, of which the first may be missing. -/
def operandTypes (g : Grammar) : P String := parens do
  let left ← if ← keyword? "NONE" then pure "NONE" else g.type
  symbol ","
  return "(" ++ left ++ ", " ++ (← g.type) ++ ")"

/-- An operator with the types of its operands. -/
def operatorSignature (g : Grammar) : P String := do
  let name ← operatorName
  return name ++ " " ++ (← operandTypes g)

/-- The operator that another one is related to. -/
def relatedOperator : P String := do
  if ← keyword? "OPERATOR" then parens operatorName else operatorName

/-- The value of an option of an operator to create, after the equals sign. -/
def operatorTrait (g : Grammar) (k : String) : P String := do
  match k with
  | "LEFTARG" | "RIGHTARG" => g.type
  | "COMMUTATOR" | "NEGATOR" => relatedOperator
  | _ => nameText

/-- An option of an operator to create: what it is on, and its words. -/
def operatorOption (g : Grammar) : P (String × String) := do
  match ← oneOf? ["HASHES", "MERGES"] with
  | some k => return (k, k)
  | none =>
    let k ← oneOf ["FUNCTION", "PROCEDURE", "LEFTARG", "RIGHTARG", "COMMUTATOR", "NEGATOR", "RESTRICT", "JOIN"]
    symbol "="
    let words := k ++ " = " ++ (← operatorTrait g k)
    return (if k == "PROCEDURE" then "FUNCTION" else k, words)

/-- An operator to create. Its function comes first, and no option may be given twice. -/
def createOperator (g : Grammar) : P Statement := do
  let name ← operatorName
  let given ← parens (commas (operatorOption g))
  if given.any fun option => 1 < given.countP fun other => other.1 == option.1 then unexpected
  let first := ["FUNCTION", "LEFTARG", "RIGHTARG"]
  match given.lookup "FUNCTION" with
  | none => unexpected
  | some _ =>
    let written := first.filterMap (given.lookup ·) ++
      (given.filter fun option => !first.contains option.1).map (·.2)
    return plain ("CREATE OPERATOR " ++ name ++ " (" ++ ", ".intercalate written ++ ")")

/-- An option of an operator to change. -/
def changedOperatorOption : P String := do
  let k ← oneOf ["RESTRICT", "JOIN", "COMMUTATOR", "NEGATOR", "HASHES", "MERGES"]
  if ["HASHES", "MERGES"].contains k then return k
  symbol "="
  if ["COMMUTATOR", "NEGATOR"].contains k then return k ++ " = " ++ (← operatorName)
  else if ← keyword? "NONE" then return k ++ " = NONE"
  else return k ++ " = " ++ (← nameText)

/-- A change of an operator, after `ALTER OPERATOR`. -/
def alterOperator (g : Grammar) : P Statement := do
  let lead := "ALTER OPERATOR " ++ (← operatorSignature g)
  if ← keywords? ["OWNER", "TO"] then return plain (lead ++ " OWNER TO " ++ (← owner))
  else if ← keywords? ["SET", "SCHEMA"] then return plain (lead ++ " SET SCHEMA " ++ (← nameText))
  else
    keyword "SET"
    let options ← parens (commas changedOperatorOption)
    return plain (lead ++ " SET (" ++ ", ".intercalate options ++ ")")

/-! ## Families and classes -/

/-- A family of operators to create. -/
def createOperatorFamily : P Statement := do
  let name ← nameText
  keyword "USING"
  return plain ("CREATE OPERATOR FAMILY " ++ name ++ " USING " ++ (← identText))

/-- Types in parentheses after a space, if there are any. -/
def operatorTypes (types : P (List String)) : P String := do
  if ← peekSymbol "(" then return " (" ++ ", ".intercalate (← parens types) ++ ")" else return ""

/-- The operands of an operator in a class. -/
def operandPair (g : Grammar) : P (List String) := do
  let left ← g.type
  symbol ","
  return [left, ← g.type]

/-- What an operator of a class is for. -/
def operatorPurpose : P String := wordsAfter ["FOR"] do
  if ← keyword? "SEARCH" then return " FOR SEARCH"
  keywords ["ORDER", "BY"]
  return " FOR ORDER BY " ++ (← nameText)

/-- A type in a list that a comma may end, if one is next. -/
def listedType? (g : Grammar) : P (Option String) := do
  if ← peekSymbol ")" then return none
  let type ← g.type
  if !(← symbol? ",") && !(← peekSymbol ")") then unexpected
  return some type

/-- A member of a class of operators, if one is next. -/
def classMember? (g : Grammar) : P (Option String) := do
  match ← oneOf? ["OPERATOR", "FUNCTION", "STORAGE"] with
  | none => return none
  | some "OPERATOR" => do
    let number ← naturalNumber
    let name ← operatorName
    let types ← operatorTypes (operandPair g)
    return some (s!"OPERATOR {number} {name}{types}" ++ (← operatorPurpose))
  | some "FUNCTION" => do
    let number ← naturalNumber
    let types ← operatorTypes (commas g.type)
    let name ← nameText
    let arguments ← if ← peekSymbol "(" then parens (many (listedType? g)) else pure []
    let list := if arguments.isEmpty then "" else "(" ++ ", ".intercalate arguments ++ ")"
    return some (s!"FUNCTION {number}{types} {name}{list}")
  | some _ => return some ("STORAGE " ++ (← g.type))

/-- Members of a class of operators, which may be none; `fuel` bounds their number. -/
def classMembers (g : Grammar) : (fuel : Nat) → P (List String)
  | 0 => throw .tooDeep
  | fuel + 1 => do
    match ← classMember? g with
    | none => return []
    | some member => if ← symbol? "," then return member :: (← classMembers g fuel) else return [member]

/-- A class of operators to create. -/
def createOperatorClass (g : Grammar) : P Statement := do
  let name ← nameText
  let preset ← wordsBefore ["DEFAULT"]
  keywords ["FOR", "TYPE"]
  let type ← g.type
  keyword "USING"
  let method ← identText
  let family ← nameClause ["FAMILY"]
  keyword "AS"
  let members ← classMembers g ((← get).length + 1)
  return plain ("CREATE OPERATOR CLASS " ++ name ++ preset ++ " FOR TYPE " ++ type ++ " USING " ++ method ++
    family ++ " AS " ++ ", ".intercalate members)

end RowAccess.Sql.Parser
