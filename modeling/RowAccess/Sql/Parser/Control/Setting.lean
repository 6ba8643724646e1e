import RowAccess.Sql.Parser.Control.Transaction
import RowAccess.Sql.Parser.Literal
/-!
# Reading statements that set something

A `SET` first tries the forms with words of their own and then assignments to variables.
-/

namespace RowAccess.Sql.Parser

/-! ## Forms with words of their own -/

/-- How far a setting reaches, with a space after the word. -/
def settingScope : P String := do
  match ← oneOf? ["SESSION", "LOCAL", "GLOBAL"] with
  | some k => return k ++ " "
  | none => return ""

/-- The role in which the session goes on. -/
def roleSwitch (scope : String) : P Statement := do
  keyword "ROLE"
  return plain ("SET " ++ scope ++ "ROLE " ++ (← if ← keyword? "NONE" then pure "NONE" else identText))

/-- A value of a setting, which may be a query without parentheses. -/
def settingValue (g : Grammar) : P Expr := do
  if ["SELECT", "WITH"].contains (← peekWord) then return .subquery (← g.query) else g.expr

/-- Values of a setting with commas between them, after the words `lead`. -/
def settingValues (g : Grammar) (lead : String) : P (List Piece) :=
  return .text (lead ++ " = ") :: exprPieces (← commas (settingValue g))

/-- The sign between a setting and its value, if it is next. -/
def settingSign? : P Bool := do if ← symbol? "=" then return true else keyword? "TO"

/-- The time zone, after its words. -/
def timeZone (g : Grammar) (scope target : String) : P (List Piece) := do
  if ← settingSign? then settingValues g ("SET " ++ target ++ "TIMEZONE")
  else g.exprAfter ("SET " ++ (if scope == "LOCAL " then scope else "") ++ "TIME ZONE ")

/-- The character set of a session, after `NAMES`. -/
def characterSet (d : Dialect) : P Statement := do
  if ← keyword? "DEFAULT" then return plain "SET NAMES DEFAULT"
  let name ← identText
  let collation ← wordsAfter ["COLLATE"] do return " COLLATE " ++ (← text d)
  return plain ("SET NAMES " ++ name ++ collation)

/-- The properties of the transaction, after its word. -/
def transactionSetting (d : Dialect) : P Statement := do
  let snapshot ← wordsAfter ["SNAPSHOT"] do return " SNAPSHOT " ++ (← literalText d)
  if snapshot.isEmpty then return plain ("SET TRANSACTION" ++ (← transactionModes))
  else return plain ("SET TRANSACTION" ++ snapshot)

/-- A setting with words of its own, if one is next. The words `target` stand before a variable. -/
def wordedSetting? (g : Grammar) (scope target : String) : P (Option Statement) := do
  match ← attempt (roleSwitch scope) with
  | some s => return some s
  | none =>
    match ← phrase? [["TIME", "ZONE"], ["TIMEZONE"], ["NAMES"], ["CHARACTERISTICS"], ["TRANSACTION"],
        ["AUTHORIZATION"]] with
    | none => return none
    | some "NAMES" => return some (← characterSet g.dialect)
    | some "CHARACTERISTICS" => do
      keywords ["AS", "TRANSACTION"]
      return some (plain ("SET SESSION CHARACTERISTICS AS TRANSACTION" ++ (← transactionModes)))
    | some "TRANSACTION" => return some (← transactionSetting g.dialect)
    | some "AUTHORIZATION" => do
      if scope.isEmpty then unexpected
      let name ← if ← keyword? "DEFAULT" then pure "DEFAULT" else identText
      return some (plain ("SET SESSION AUTHORIZATION " ++ name))
    | some _ => return some (.other .other (← timeZone g scope target))

/-! ## Assignments -/

/-- An assignment to a variable, after the words `target`. -/
def variableAssignment (g : Grammar) (target : String) : P (List Piece) := do
  let scope ← settingScope
  let name ← nameText
  if ← settingSign? then g.exprAfter (scope ++ target ++ name ++ " = ") else unexpected

/-- Assignments with commas between them. The words `target` stand before a variable that is assigned
to alone. -/
def variableAssignments (g : Grammar) (target : String) : P (List Piece) := do
  let start ← get
  let first ← variableAssignment g target
  if ← symbol? "," then
    set start
    return separated (← commas (variableAssignment g ""))
  else return first

/-- A setting of one variable, or of several in parentheses. -/
def variableSetting (g : Grammar) (target : String) : P (List Piece) := do
  if ← onlyIf (g.dialect == .generic) (peekSymbol "(") then
    let names ← identsInParens
    if ← settingSign? then
      let values ← parens (commas (settingValue g))
      return [Piece.text ("SET " ++ renderNames names ++ " = (")] ++ exprPieces values ++
        [Piece.text ")"]
    else unexpected
  else
    let name ← nameText
    if ← settingSign? then settingValues g ("SET " ++ target ++ name) else unexpected

/-- A `SET`, after the word. Where there may be several assignments, each has its own scope. -/
def set_ (g : Grammar) : P Statement := do
  let external ← keyword? "HIVEVAR"
  if external then symbol ":"
  let start ← get
  let scope ← if external then pure "" else settingScope
  let lead := if external then "HIVEVAR:" else ""
  match ← wordedSetting? g scope (scope ++ lead) with
  | some s => return s
  | none =>
    let several := g.dialect != .postgres
    if several then set start
    let list? ← if several then attempt (variableAssignments g lead) else pure none
    match list? with
    | some list => return .other .other (.text "SET " :: list)
    | none => return .other .other (← variableSetting g (scope ++ lead))

/-! ## Other settings -/

/-- A value of a setting of the store: a number, a text or a parameter. -/
def pragmaValue (d : Dialect) : P String := do
  match ← literal d with
  | .string s => return (Literal.string s).render
  | .doubleQuoted s => return (Literal.doubleQuoted s).render
  | .number digits long => return (Literal.number digits long).render
  | .parameter name => return name
  | _ => unexpected

/-- A setting of the store, after `PRAGMA`. -/
def pragma (d : Dialect) : P Statement := do
  let lead := "PRAGMA " ++ (← nameText)
  if ← peekSymbol "(" then return plain (lead ++ "(" ++ (← parens (pragmaValue d)) ++ ")")
  else if ← symbol? "=" then return plain (lead ++ " = " ++ (← pragmaValue d))
  else return plain lead

/-- A setting that gets its first value back, after `RESET`. -/
def reset : P Statement := do
  return plain ("RESET " ++ (← if ← keyword? "ALL" then pure "ALL" else nameText))

end RowAccess.Sql.Parser
